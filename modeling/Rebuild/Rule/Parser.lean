import Rebuild.Rule.Basic
import Rebuild.Rule.Block

/-!
# Reading rules

A block holds three sections, each closed by the delimiter `:` as a word of its own: the target, its dependencies and
the command. `RawRule.ofText` reads every block of a text and refuses the first that does not have this form; it says
nothing about what the sections hold.
-/

namespace Rebuild

/-- The word that closes a section. -/
def delimiter : String := ":"

/-- The words before the first delimiter and those after it. -/
def section? (words : List String) : Option (List String × List String) :=
  match words.dropWhile (· != delimiter) with
  | [] => none
  | _ :: rest => some (words.takeWhile (· != delimiter), rest)

namespace RawRule

/-- The rule that a block's words spell. -/
def ofWords (location : Location) (words : List String) : Except Defect RawRule :=
  match section? words with
  | none => .error .noDelimiter
  | some (targets, words) =>
    match section? words with
    | none => .error .noCommandSection
    | some (sources, words) =>
      match section? words with
      | none => .error (if words.isEmpty then .noCommandSection else .unterminated)
      | some (_, word :: _) => .error (.trailing word)
      | some (command, []) => .ok ⟨location, targets, sources, command⟩

/-- The rules of the blocks, numbered from `number`, up to the first that is malformed. -/
def ofBlocks (origin : String) (number : Nat) : List Block → Except Malformed (List RawRule)
  | [] => .ok []
  | block :: blocks =>
    let location : Location := ⟨origin, number, block.line⟩
    match ofWords location block.words with
    | .error defect => .error ⟨location, defect⟩
    | .ok rule => (ofBlocks origin (number + 1) blocks).map (rule :: ·)

/-- The rules of a text that comes from `origin`. -/
def ofText (text : String) (origin : String) : Except Malformed (List RawRule) :=
  ofBlocks origin 1 (Block.ofText text)

/-- The words of a rule with a delimiter after each section. -/
def words (rule : RawRule) : List String :=
  rule.targets ++ delimiter :: rule.sources ++ delimiter :: rule.command ++ [delimiter]

end RawRule

end Rebuild
