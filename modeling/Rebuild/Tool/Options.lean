import Rebuild.Tool.Basic

/-!
# Options of programs

Options stand anywhere among the arguments, up to two dashes: letters after one dash, or a long name, of which a part is
enough, after two. An option may take an argument, in the same word or in the next.
-/

namespace Rebuild.Tool

/-- Whether an option takes an argument. -/
inductive Arity where
  | none
  | required
  | optional
deriving DecidableEq, Repr

/-- An option: its letters and its long name, one of which may be missing. -/
structure OptionRule where
  letters : String
  long : String
  arity : Arity := .none
deriving DecidableEq, Repr

namespace OptionRule

/-- The name under which an option is told: the long name, or else its letter. -/
def name (rule : OptionRule) : String :=
  if rule.long.isEmpty then rule.letters else rule.long

end OptionRule

/-- An option that was given: its name and its argument. -/
abbrev Given := String × Option String

/-- What is wrong with options. -/
inductive OptionFault where
  | unknownLetter (letter : Char)
  | unknownName (text : String)
  | ambiguous (text : String) (names : List String)
  | noLetterArgument (letter : Char)
  | noNameArgument (name : String)
  | extraArgument (name : String)
deriving DecidableEq, Repr

/-- The wording of what is wrong with options. -/
def OptionFault.text : OptionFault → String
  | .unknownLetter letter => s!"invalid option -- '{letter}'"
  | .unknownName text => s!"unrecognized option '--{text}'"
  | .ambiguous text names =>
    s!"option '--{text}' is ambiguous; possibilities:" ++ String.join (names.map fun name => s!" '--{name}'")
  | .noLetterArgument letter => s!"option requires an argument -- '{letter}'"
  | .noNameArgument name => s!"option '--{name}' requires an argument"
  | .extraArgument name => s!"option '--{name}' doesn't allow an argument"

/-- A word as it is understood. -/
inductive SortedWord where
  | option (given : Given)
  | operand (text : String)
deriving DecidableEq, Repr

namespace SortedWord

/-- The option that a word is. -/
def option? : SortedWord → Option Given
  | .option given => some given
  | .operand _ => none

/-- The operand that a word is. -/
def operand? : SortedWord → Option String
  | .option _ => none
  | .operand text => some text

end SortedWord

/-- The words that were sorted, the last first, up to the first fault. -/
structure Sorting where
  found : List SortedWord
  fault? : Option OptionFault

namespace Sorting

/-- Adds an option. -/
def give (s : Sorting) (rule : OptionRule) (argument : Option String) : Sorting :=
  { s with found := .option (rule.name, argument) :: s.found }

/-- Adds operands. -/
def withOperands (s : Sorting) (words : List String) : Sorting :=
  { s with found := words.reverse.map .operand ++ s.found }

/-- Stops at a fault. -/
def stop (s : Sorting) (fault : OptionFault) : Sorting :=
  { s with fault? := some fault }

/-- Takes the letters of a word; the argument of the last may be the next word. What is left of the words is told. -/
def letters (rules : List OptionRule) (s : Sorting) (words : List String) : List Char → Sorting × List String
  | [] => (s, words)
  | c :: cs =>
    match rules.find? (·.letters.toList.contains c) with
    | none => (s.stop (.unknownLetter c), words)
    | some rule =>
      match rule.arity, cs, words with
      | .none, cs, words => letters rules (s.give rule none) words cs
      | .optional, [], words => (s.give rule none, words)
      | .required, [], [] => (s.stop (.noLetterArgument c), [])
      | .required, [], word :: words => (s.give rule (some word), words)
      | _, cs, words => (s.give rule (some (String.ofList cs)), words)

/-- Takes a long option, whose argument may be the next word. What is left of the words is told. -/
def long (rules : List OptionRule) (s : Sorting) (text : String) (words : List String) : Sorting × List String :=
  let name := String.ofList (text.toList.takeWhile (· != '='))
  let argument := if name.length < text.length then some (text.drop (name.length + 1)).toString else none
  let found := rules.filter fun rule => !rule.long.isEmpty && rule.long.startsWith name
  match found.find? (·.long == name), found with
  | none, [] => (s.stop (.unknownName text), words)
  | some rule, _ | none, [rule] =>
    match rule.arity, argument, words with
    | .none, some _, words => (s.stop (.extraArgument rule.long), words)
    | .required, none, [] => (s.stop (.noNameArgument rule.long), [])
    | .required, none, word :: words => (s.give rule (some word), words)
    | _, argument, words => (s.give rule argument, words)
  | none, found => (s.stop (.ambiguous text (found.map OptionRule.long)), words)

/-- Sorts words, at most so many of them, up to the first fault. If operands come last, options end at the first. -/
def sort (rules : List OptionRule) (operandsLast : Bool) (limit : Nat) (s : Sorting) (words : List String) : Sorting :=
  match limit, words with
  | limit + 1, word :: words =>
    if s.fault?.isSome then s
    else
      match word.toList with
      | ['-', '-'] => s.withOperands words
      | '-' :: '-' :: name =>
        let (s, words) := s.long rules (String.ofList name) words
        sort rules operandsLast limit s words
      | '-' :: c :: cs =>
        let (s, words) := s.letters rules words (c :: cs)
        sort rules operandsLast limit s words
      | _ =>
        if operandsLast then s.withOperands (word :: words)
        else sort rules operandsLast limit (s.withOperands [word]) words
  | _, _ => s

end Sorting

/-- Words as options and operands, up to what is wrong with them. -/
def sortedWords (rules : List OptionRule) (operandsLast : Bool) (args : List String) :
    List SortedWord × Option OptionFault :=
  let s := Sorting.sort rules operandsLast args.length ⟨[], none⟩ args
  (s.found.reverse, s.fault?)

/-- The options and the operands among arguments. -/
def optionsOf (rules : List OptionRule) (operandsLast : Bool) (args : List String) :
    Except OptionFault (List Given × List String) :=
  match sortedWords rules operandsLast args with
  | (_, some fault) => .error fault
  | (found, none) => .ok (found.filterMap SortedWord.option?, found.filterMap SortedWord.operand?)

/-- The options that every program has. -/
def helpRules : List OptionRule :=
  [⟨"", "help", .none⟩, ⟨"", "version", .none⟩]

/-- What a program makes of its arguments, one after the other. What is wrong with them ends it with an exit code, once
the arguments before have been taken; help is all that it does if it is asked for. -/
def foldWords (name : String) (rules : List OptionRule) (operandsLast : Bool) (code : Nat) (args : List String)
    (start : σ) (take : σ → SortedWord → ToolM σ) : ToolM σ := do
  let (found, fault?) := sortedWords (rules ++ helpRules) operandsLast args
  let state ← found.foldlM (fun state argument =>
    match argument with
    | .option given => if given.1 == "help" || given.1 == "version" then quit 0 else take state argument
    | .operand _ => take state argument) start
  match fault? with
  | some fault => failWithHelp name fault.text code
  | none => pure state

/-- The operands of a program, and what it makes of its options, one after the other. -/
def foldOptions (name : String) (rules : List OptionRule) (operandsLast : Bool) (code : Nat) (args : List String)
    (start : σ) (take : σ → Given → ToolM σ) : ToolM (σ × List String) := do
  let (state, operands) ← foldWords name rules operandsLast code args (start, ([] : List String))
    fun (state, operands) argument => do
      match argument with
      | .option given => pure (← take state given, operands)
      | .operand text => pure (state, text :: operands)
  pure (state, operands.reverse)

/-- The options and the operands of a program. What is wrong with them ends it with an exit code; help is all that it
does if it is asked for. -/
def readOptions (name : String) (rules : List OptionRule) (operandsLast : Bool) (code : Nat) (args : List String) :
    ToolM (List Given × List String) := do
  let (options, operands) ←
    foldOptions name rules operandsLast code args [] fun options given => pure (given :: options)
  pure (options.reverse, operands)

/-- Whether an option was given. -/
def has (options : List Given) (name : String) : Bool :=
  options.any (·.1 == name)

/-- The argument of an option, the last if it was given more than once. -/
def argument? (options : List Given) (name : String) : Option String :=
  (options.reverse.find? (·.1 == name)).bind Prod.snd

end Rebuild.Tool
