import Rebuild.Text.Escape
import Rebuild.Tool.Finding.Reader
import Rebuild.Tool.Paths
import Rebuild.Tool.Starting
import Rebuild.Tool.Wildcards

/-!
# Finding files

`find` visits the files at paths and below them, a directory before or after what is in it, and evaluates an expression
for each.
-/

namespace Rebuild.Tool

open Text Finding

namespace Finding

/-- A file that is visited: its path, the operand that it lies below, how deep it lies there, and what it is. -/
structure Visit where
  path : String
  start : String
  depth : Nat
  place : Place
  node : DiskNode

/-- What becomes of a search: the exit code, whether the directory that is visited is passed over, whether the search is
over, and the files that are kept for programs, the last first. -/
structure Search where
  code : Nat
  isPruned : Bool
  isOver : Bool
  kept : List (Nat × String × Place)

/-- What is done in a search. -/
abbrev FindM := StateT Search ToolM

/-- Notes that something failed. -/
def spoil : FindM Unit :=
  modify fun s => { s with code := 1 }

/-- Complains, which spoils the search. -/
def object (name text : String) : FindM Unit := do
  complain name text
  spoil

/-! ## Checks -/

/-- The last name of a path, with the slashes after it. -/
def lastNameOf (path : String) : String :=
  let trimmedPath := trimmed path
  if trimmedPath == "/" then "/"
  else lastName path ++ (path.drop trimmedPath.length).toString

/-- The letter of the kind of a node. -/
def kindOf (n : DiskNode) : Char :=
  match n.item with
  | .file _ | .program _ => 'f'
  | .directory => 'd'
  | .link _ => 'l'
  | .device _ => 'c'

/-- The letter of the kind of what a path leads to; `N` if that is nothing, `L` if there is no end. -/
def kindBeyond (d : Disk) (path : String) : Char :=
  match d.get path with
  | .ok n => kindOf n
  | .error .tooManyLinks => 'L'
  | .error _ => 'N'

/-- The text that a symbolic link holds. -/
def linkText (n : DiskNode) : String :=
  match n.item with
  | .link target => target
  | _ => ""

/-- A time as formats tell it: the letter after the one of the time says how. -/
def timePart (time : Time) (letter : Char) : String :=
  let fraction := String.ofList (((toString (Moment.nano + time % Moment.nano)).toList).drop 1) ++ "0"
  match letter with
  | '@' => s!"{time / Moment.nano}.{fraction}"
  | 'S' => Moment.format time "%S." ++ fraction
  | 'T' => Moment.format time "%H:%M:%S." ++ fraction
  | '+' => Moment.format time "%Y-%m-%d+%H:%M:%S." ++ fraction
  | letter => Moment.format time ("%" ++ letter.toString)

/-- What a letter of a format tells of a file, if it tells anything. -/
def part? (d : Disk) (v : Visit) (letter : Char) : Option String :=
  match letter with
  | 'p' => some v.path
  | 'f' => some (lastNameOf v.path)
  | 'h' =>
    let above := (trimmed v.path).toList.reverse.dropWhile (· != '/')
    some (if above.isEmpty then "." else String.ofList (above.drop 1).reverse)
  | 'H' => some v.start
  | 'P' => some (((v.path.drop v.start.length).toString.dropWhile '/').toString)
  | 's' => some (toString (sizeOf v.node))
  | 'd' => some (toString v.depth)
  | 'y' => some (kindOf v.node).toString
  | 'Y' => some (kindBeyond d v.path).toString
  | 'm' => some (String.ofList (Nat.toDigits 8 v.node.mode))
  | 'M' => some (modeText v.node)
  | 'n' => some (toString (linkCount d v.place v.node))
  | 'l' => some (linkText v.node)
  | 'u' | 'g' => some "root"
  | 'U' | 'G' => some "0"
  | 'i' => some (toString ((d.number? v.place).getD 0))
  | 'k' => some (toString (blocksOf v.node))
  | 'b' => some (toString (2 * blocksOf v.node))
  | 't' | 'a' | 'c' =>
    let time := v.node.modified
    some (Moment.format time "%a %b %e " ++ timePart time 'T' ++ Moment.format time " %Y")
  | _ => none

/-- The characters that may stand after a backslash in a format. -/
def escapable : List Char :=
  "abcfnrtv\\01234567".toList

/-- The flags and the width of a directive. -/
def directiveFlags (cs : List Char) : List Char :=
  cs.takeWhile fun c => "-+ #0.".toList.contains c || c.isDigit

/-- What a format tells of a file; what follows `\c` is not told. -/
def formatted (d : Disk) (v : Visit) (limit : Nat) (cs : List Char) : ByteArray :=
  match limit, cs with
  | 0, _ | _, [] => .empty
  | limit + 1, '\\' :: rest =>
    match rest with
    | 'c' :: _ => .empty
    | c :: after =>
      match if escapable.contains c then Escape.inFormat rest else .literal with
      | .byte n rest => ⟨#[UInt8.ofNat n]⟩ ++ formatted d v limit rest
      | _ => toBytes ("\\" ++ c.toString) ++ formatted d v limit after
    | [] => "\\".toUTF8
  | limit + 1, '%' :: rest =>
    let flags := directiveFlags rest
    let told (text : String) (after : List Char) : ByteArray :=
      let width := Moment.digitsValue ((flags.filter Char.isDigit).dropWhile (· == '0'))
      let fill := String.ofList (List.replicate (width - text.length) ' ')
      toBytes (if flags.contains '-' then text ++ fill else fill ++ text) ++ formatted d v limit after
    match rest.drop flags.length with
    | '%' :: after => told "%" after
    | 'T' :: letter :: after | 'A' :: letter :: after | 'C' :: letter :: after =>
      told (timePart v.node.modified letter) after
    | letter :: after =>
      match part? d v letter with
      | some text => told text after
      | none => toBytes (String.ofList ('%' :: flags ++ [letter])) ++ formatted d v limit after
    | [] => .empty
  | limit + 1, c :: rest => toBytes c.toString ++ formatted d v limit rest

/-- The letters of directives. -/
def directiveLetters : List Char :=
  "%pfhHPsdyYmMnlugUGikbtacTAC".toList

/-- What is to be warned of in a format. -/
def formatWarnings (limit : Nat) (cs : List Char) : List String :=
  match limit, cs with
  | 0, _ | _, [] => []
  | _, ['\\'] => ["warning: escape " ++ tickQuoted "\\" ++ " followed by nothing at all"]
  | limit + 1, '\\' :: c :: rest =>
    (if escapable.contains c then [] else ["warning: unrecognized escape " ++ tickQuoted ("\\" ++ c.toString)]) ++
      formatWarnings limit rest
  | limit + 1, '%' :: rest =>
    match rest.drop (directiveFlags rest).length with
    | c :: after =>
      (if directiveLetters.contains c then []
        else ["warning: unrecognized format directive " ++ tickQuoted ("%" ++ c.toString)]) ++
        formatWarnings limit after
    | [] => []
  | limit + 1, _ :: rest => formatWarnings limit rest

/-- Whether the last character of a format begins a directive. -/
def endsInDirective : List Char → Bool
  | ['%'] => true
  | '%' :: _ :: rest => endsInDirective rest
  | _ :: rest => endsInDirective rest
  | [] => false

/-- The words of a program with a path in the place of braces. -/
def withPath (path : String) (words : List String) : List String :=
  words.map fun word => path.intercalate (word.splitOn "\x7b\x7d")

/-- Whether a node is that of a directory without names, or of a file without bytes. -/
def isEmptyNode (d : Disk) (v : Visit) : Bool :=
  match v.node.item with
  | .directory => (d.names v.place).isEmpty
  | .file content => content.isEmpty
  | _ => false

end Finding

section Starting

variable (launch : Launcher)

namespace Finding

/-- Runs a program for files, in the directory of the one at a place or where the search was started. -/
def runProgram (name : String) (directory : Option Place) (words : List String) : FindM Bool := do
  let cwd := (← disk).cwd
  match directory with
  | some place => StateT.lift (modify fun (p : Process) => { p with disk := { p.disk with cwd := place } })
  | none => pure ()
  let result ← StateT.lift (ExceptT.lift (startNamed launch words))
  StateT.lift (modify fun (p : Process) => { p with disk := { p.disk with cwd } })
  let program := plainlyQuoted (words.headD "")
  match result with
  | .ok (.exited code) => pure (code == 0)
  | .ok (.terminated signal) =>
    complain name s!"{program} terminated by signal {signal.getD 0}"
    pure false
  | .error fault =>
    complain name s!"{program}: {fault.text}"
    pure false

/-- The path of a file from its own directory. -/
def pathInside (path : String) : String :=
  let short := lastName path
  if short == "/" then short else "./" ++ short

/-- Whether a check holds for a file, once it has done what it does. -/
def check (name : String) (v : Visit) (c : Check) : FindM Bool := do
  let d ← disk
  match c with
  | .constant value => pure value
  | .pattern .name ignoresCase text => pure (fits ignoresCase text (lastName v.path))
  | .pattern .path ignoresCase text => pure (fits ignoresCase text v.path)
  | .pattern .link ignoresCase text =>
    match v.node.item with
    | .link target => pure (fits ignoresCase text target)
    | _ => pure false
  | .regex r ignoresCase =>
    let subject : Regex.Subject := ⟨(byteChars v.path).toArray, ignoresCase, true⟩
    pure (match r.matchAt? subject 0 with
      | some m => m.last == subject.chars.size
      | none => false)
  | .kind isBeyond letters =>
    let there := kindBeyond d v.path
    pure (letters.contains (if isBeyond && there != 'N' then there else kindOf v.node))
  | .size bound unit => pure (bound.holds ((sizeOf v.node + unit - 1) / unit))
  | .links bound => pure (bound.holds (linkCount d v.place v.node))
  | .age bound unit => pure (bound.holds ((d.clock - v.node.modified) / unit))
  | .newer time => pure (time < v.node.modified)
  | .empty => pure (isEmptyNode d v)
  | .mode test bits => pure (test.holds bits v.node.mode)
  | .owned isRoot => pure isRoot
  | .number bound => pure (bound.holds ((d.number? v.place).getD 0))
  | .executable => pure (kindOf v.node == 'd' || v.node.mode &&& 0o111 != 0)
  | .print ending => do
    say name (v.path ++ ending)
    pure true
  | .format text => do
    put name (formatted d v (text.length + 1) text.toList)
    pure true
  | .run isInside asks words =>
    let path := if isInside then pathInside v.path else v.path
    let agrees ← if asks then do
        StateT.lift (ExceptT.lift (Process.sayError ("< " ++ words.headD "" ++ s!" ... {v.path} > ? ")))
        match ← StateT.lift (ExceptT.lift (Process.takeAll 0)) with
        | .ok bytes => pure (((charsOfBytes bytes).head?).any fun c => c == 'y' || c == 'Y')
        | .error _ => pure false
      else pure true
    if agrees then runProgram launch name (if isInside then some v.place.dropLast else none) (withPath path words)
    else pure false
  | .collect index => do
    modify fun s => { s with kept := (index, v.path, v.place) :: s.kept }
    pure true
  | .delete =>
    if v.path == "." || v.path == "./" then pure true
    else
      let change : Disk → Except SystemFault Disk := fun d =>
        if kindOf v.node == 'd' then d.removeDirectory v.path else d.unlink v.path
      match ← StateT.lift (edit change) with
      | .ok () => pure true
      | .error fault => do
        object name s!"cannot delete {plainlyQuoted v.path}: {fault.text}"
        pure false
  | .prune => do
    modify fun s => { s with isPruned := true }
    pure true
  | .quit => do
    modify fun s => { s with isOver := true }
    pure true

/-- Whether an expression holds for a file, once its checks have done what they do. -/
def evaluate (name : String) (v : Visit) : Expression → FindM Bool
  | .check c => do
    if (← get).isOver then pure false else check launch name v c
  | .not e => do pure (!(← evaluate name v e))
  | .and a b => do if ← evaluate name v a then evaluate name v b else pure false
  | .or a b => do if ← evaluate name v a then pure true else evaluate name v b
  | .comma a b => do
    let _ ← evaluate name v a
    evaluate name v b

/-- The place and the node of a path, as far as symbolic links are followed there. -/
def look (d : Disk) (following : Following) (depth : Nat) (path : String) : Except SystemFault (Place × DiskNode) := do
  let at? (follows : Bool) : Except SystemFault (Place × DiskNode) := do
    let place ← d.locate follows path
    pure (place, ← d.nodeAt place)
  if following == .always || (following == .operands && depth == 0) then
    match at? true with
    | .ok found => pure found
    | .error _ => at? false
  else at? false

/-- Visits the file at a path and what is below it, at most so many levels. -/
def visit (name : String) (plan : Plan) (e : Expression) (start : String) (limit depth : Nat) (path : String) :
    FindM Unit := do
  match limit, look (← disk) plan.following depth path with
  | 0, _ => pure ()
  | _, .error fault => object name s!"{plainlyQuoted path}: {fault.text}"
  | limit + 1, .ok (place, node) =>
    let v : Visit := ⟨path, start, depth, place, node⟩
    let isWanted := plan.least ≤ depth
    modify fun s => { s with isPruned := false }
    if isWanted && !plan.isDeep then
      let _ ← evaluate launch name v e
    let s ← get
    let goesOn := kindOf node == 'd' && plan.most.all (depth < ·) && !s.isOver && !(s.isPruned && !plan.isDeep)
    if goesOn then
      let d ← disk
      if d.isDirectory path then
        for inner in d.names place do
          if !(← get).isOver then
            visit name plan e start limit (depth + 1)
              (if path.endsWith "/" then path ++ inner else path ++ "/" ++ inner)
      else object name s!"{plainlyQuoted path}: {SystemFault.text .noEntry}"
    if isWanted && plan.isDeep && !(← get).isOver then
      let _ ← evaluate launch name v e

/-- Runs the programs for which files were kept. -/
def runCollectors (name : String) (plan : Plan) : FindM Unit := do
  for ((isInside, words), index) in plan.collectors.reverse.zipIdx do
    let kept := ((← get).kept.reverse.filter (·.1 == index)).map Prod.snd
    if !isInside then
      let paths := kept.map Prod.fst
      if !paths.isEmpty then
        unless ← runProgram launch name none (words ++ paths) do spoil
    else
      for place in (kept.map fun (_, place) => place.dropLast).eraseDups do
        let paths := (kept.filter fun (_, other) => other.dropLast == place).map fun (path, _) => pathInside path
        unless ← runProgram launch name (some place) (words ++ paths) do spoil

end Finding

/-- Finds files below paths and does something with them. -/
def find : Tool := fun name args => do
  let flags := args.takeWhile fun word => ["-H", "-L", "-P", "--"].contains word || word.startsWith "-O"
  let rest := args.drop flags.length
  let following : Following := match flags.reverse.find? fun word => ["-H", "-L", "-P"].contains word with
    | some "-L" => .always
    | some "-H" => .operands
    | _ => .never
  let paths := rest.takeWhile fun word => !beginsExpression word
  let words := rest.drop paths.length
  if words.head? == some "-help" || words.head? == some "--help" || words.head? == some "-version" ||
      words.head? == some "--version" then quit 0
  match ofWords (← disk) following words with
  | .error fault => fail name fault 1
  | .ok (e, plan) =>
    for text in formatsOf e do
      for warning in formatWarnings (text.length + 1) text.toList do complain name warning
      if endsInDirective text.toList then fail name "error: % at end of format string" 1
    let search : FindM Unit := do
      for path in if paths.isEmpty then ["."] else paths do
        if !(← get).isOver then visit launch name plan e path 250 0 path
      runCollectors launch name plan
    let ((), s) ← search.run ⟨0, false, false, []⟩
    pure s.code
where
  /-- The formats in an expression. -/
  formatsOf : Expression → List String
    | .check (.format text) => [text]
    | .check _ => []
    | .not e => formatsOf e
    | .and a b | .or a b | .comma a b => formatsOf a ++ formatsOf b

end Starting

end Rebuild.Tool
