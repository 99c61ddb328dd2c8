import Rebuild.Shell.Condition
import Rebuild.Shell.Expansion
import Rebuild.Text.Printf
import Rebuild.Tool.Permissions

/-!
# Commands of the shell

The commands that a shell runs itself, apart from those that run others: they print, test and read, change variables,
options and traps, and make the shell go on elsewhere. The special ones end the shell when something is wrong with them.
-/

namespace Rebuild.Shell

/-- The commands of the shell for which a failure ends the shell. -/
def specialBuiltins : List String :=
  [".", ":", "break", "continue", "eval", "exec", "exit", "export", "local", "readonly", "return", "set", "shift",
    "times",
    "trap", "unset"]

/-- A command of the shell, with its arguments. -/
abbrev Builtin := List String → ShellM Unit

namespace Builtin

open ShellM

/-! ## Arguments -/

/-- The number that an argument is. -/
def number (arg : String) : ShellM Nat := do
  let (n, rest) := Expression.digits 10 arg.toList
  if arg.isEmpty || !rest.isEmpty || 2147483647 < n then fail s!"Illegal number: {arg}" 2 else pure n

/-- The letters of one argument with options, after those found, and the letter that waits for an argument with what
follows it there. -/
def optionLetters (known : List Char) (found : List (Char × String)) :
    List Char → ShellM (List (Char × String) × Option (Char × List Char))
  | [] => pure (found, none)
  | c :: cs =>
    if c == ':' || !known.contains c then fail s!"Illegal option -{c}" 2
    else if ((known.dropWhile (· != c)).drop 1).head? == some ':' then pure (found, some (c, cs))
    else optionLetters known ((c, "") :: found) cs

/-- The options at the beginning, each with its argument if it takes one, and the other arguments. A colon follows the
known options that take one. -/
def optionsAfter (known : List Char) (found : List (Char × String)) :
    List String → ShellM (List (Char × String) × List String)
  | [] => pure (found.reverse, [])
  | arg :: rest =>
    match arg.toList with
    | ['-', '-'] => pure (found.reverse, rest)
    | '-' :: c :: cs => do
      let (found, waiting) ← optionLetters known found (c :: cs)
      match waiting with
      | none => optionsAfter known found rest
      | some (letter, []) =>
        match rest with
        | value :: rest => optionsAfter known ((letter, value) :: found) rest
        | [] => fail s!"No arg for -{letter} option" 2
      | some (letter, inside) => optionsAfter known ((letter, String.ofList inside) :: found) rest
    | _ => pure (found.reverse, arg :: rest)

/-- The options at the beginning and the other arguments. -/
def options (known : String) (args : List String) : ShellM (List (Char × String) × List String) :=
  optionsAfter known.toList [] args

/-- A text in quotes, as the shell reads it: single quotes stand between double ones. -/
def quoted (text : String) : String :=
  let runs := text.toList.splitBy fun a b => (a == '\'') == (b == '\'')
  let start := if text.isEmpty || text.startsWith "'" then "''" else ""
  start ++ String.join (runs.map fun run =>
    let mark := if run.head? == some '\'' then "\"" else "'"
    mark ++ String.ofList run ++ mark)

/-! ## Output and conditions -/

/-- Writes what a command prints, and complains if that is not possible. -/
def output (name : String) (bytes : ByteArray) (status : Nat) : ShellM Unit := do
  match ← put bytes with
  | .ok () => finish status
  | .error fault =>
    let ignored := (← get).traps
    match fault.signal?.filter fun signal => (ignored.lookup signal).isNone with
    | some signal => throw (.killed signal)
    | none =>
      warn s!"{name}: I/O error"
      finish 1

/-- Prints its arguments with blanks between them. -/
def echo : Builtin := fun args => do
  let (newline, args) := match args with
    | "-n" :: args => (false, args)
    | args => (true, args)
  let text := " ".intercalate args
  let (bytes, ending) := Text.Printing.unescape Text.Escape.inText (text.length + 1) text.toList
  output "echo" (if newline && ending.isNone then bytes.push 10 else bytes) 0

/-- The wording of what is wrong with a format or its arguments. -/
def printfText : Text.PrintfFault → String
  | .notNumeric arg => s!"{arg}: expected numeric value"
  | .notComplete arg => s!"{arg}: not completely converted"
  | .outOfRange arg => s!"{arg}: Numerical result out of range"
  | .noDirective directive => s!"{directive}: invalid directive"
  | .noConversion => "missing format character"
  | _ => ""

/-- Prints its arguments by a format. -/
def printf : Builtin := fun args => do
  match (← options "" args).2 with
  | [] => fail "usage: printf format [arg ...]" 2
  | format :: args =>
    let p := Text.printf .shell format args
    let faults := p.faults.reverse.map Prod.snd
    for fault in faults do
      warn (printfText fault)
    output "printf" p.output (if faults.any (·.isFatal) then 2 else if faults.isEmpty then 0 else 1)

/-- Ends well if a condition holds. -/
def test : Builtin := fun args => do
  match Condition.holds (← get).process args with
  | .ok holds => finish (if holds then 0 else 1)
  | .error fault => fail fault.text 2

/-- A condition in brackets. -/
def bracket : Builtin := fun args =>
  if args.getLast? == some "]" then test args.dropLast else fail "missing ]" 2

/-! ## Directories -/

/-- A path without dots and double slashes, in which two dots drop the name before them. -/
def normalized (path : String) : String :=
  let names := (Disk.parts path).foldl (fun names c =>
    if c.isEmpty || c == "." then names else if c == ".." then names.drop 1 else c :: names) []
  "/" ++ "/".intercalate names.reverse

/-- Whether a path begins with a name that is not looked up elsewhere: none, or dots. -/
def isFixedPath (path : String) : Bool :=
  let first := path.toList.takeWhile (· != '/')
  first == ['.'] || first == ['.', '.'] || path.startsWith "/"

/-- The path of a directory among those in which directories are looked up, and whether it was found elsewhere than in
the working directory. -/
def directoryPath (s : State) (target : String) : String × Bool :=
  let paths := match s.valueOf? "CDPATH" with
    | some directories => Process.pathsIn directories target
    | none => []
  match paths.find? s.process.disk.isDirectory with
  | some path => (path, path != target)
  | none => (target, false)

/-- Goes to another directory. -/
def changeDirectory : Builtin := fun args => do
  let (flags, args) ← options "LP" args
  let s ← get
  let here := (s.valueOf? "PWD").getD (Disk.pathOf s.process.disk.cwd)
  let (target, returns) := match args with
    | [] => ((s.valueOf? "HOME").getD "", false)
    | "-" :: _ => ((s.valueOf? "OLDPWD").getD "", true)
    | path :: _ => (path, false)
  let (path, isElsewhere) :=
    if isFixedPath target then (target, false) else directoryPath s (if target.isEmpty then "." else target)
  let logical := normalized (if Path.isAbsolute path then path else here ++ "/" ++ path)
  let isPhysical := flags.getLast?.any (·.1 == 'P')
  let disk := s.process.disk
  match disk.find (if isPhysical then path else logical) with
  | .error _ => fail s!"can't cd to {target}" 2
  | .ok place =>
    if (disk.enter place).toOption.isNone then fail s!"can't cd to {target}" 2
    else
      modify fun s => { s with process := { s.process with disk := { s.process.disk with cwd := place } } }
      let arrived := if isPhysical then Disk.pathOf place else logical
      assign "OLDPWD" here
      assign "PWD" arrived
      if returns || isElsewhere then say (arrived ++ "\n")
      finish 0

/-- Prints the working directory. -/
def printDirectory : Builtin := fun args => do
  let (flags, _) ← options "LP" args
  let s ← get
  let physical := Disk.pathOf s.process.disk.cwd
  say ((if flags.getLast?.any (·.1 == 'P') then physical else (s.valueOf? "PWD").getD physical) ++ "\n")
  finish 0

/-- The letters of permissions, as a mask that lacks them leaves them. -/
def symbolicMask (mask : Nat) : String :=
  let letters (shift : Nat) : String :=
    String.join (["r", "w", "x"].zipIdx.map fun (letter, i) =>
      if (mask >>> (shift + (2 - i))) % 2 == 0 then letter else "")
  let owner := letters 6
  let group := letters 3
  let others := letters 0
  s!"u={owner},g={group},o={others}"

/-- The place of execution among the bits of those that a letter names. -/
def maskPosition (letter : Char) : Nat :=
  match letter with
  | 'u' => 0o100
  | 'g' => 0o010
  | 'o' => 0o001
  | _ => 0o111

/-- The bits that a letter gives to somebody, where these are all permissions. -/
def maskBits (mode : Nat) (letter : Char) : Nat :=
  match letter with
  | 'r' => 4
  | 'w' => 2
  | 'x' => 1
  | 'u' => mode >>> 6
  | 'g' => mode >>> 3
  | 'o' => mode
  | 'X' => if mode &&& 0o111 != 0 then 1 else 0
  | _ => 0

/-- What clauses make of permissions, at most so many. What they copy, and whether somebody may execute, is looked up in
the permissions before all of them. Those named by a clause are named by the next, unless a comma is between them. -/
def changedMode? (mode : Nat) : Nat → (positions result : Nat) → List Char → Option Nat
  | _, _, result, [] => some result
  | 0, _, _, _ :: _ => none
  | limit + 1, positions, result, cs =>
    let who := cs.takeWhile "augo".toList.contains
    let named := who.foldl (fun bits letter => bits ||| maskPosition letter) positions
    let positions := if named == 0 then 0o111 else named
    match cs.drop who.length with
    | [] => none
    | operator :: rest =>
      let letters := rest.takeWhile "rwxugoXs".toList.contains
      let value := (letters.foldl (fun bits letter => bits ||| maskBits mode letter) 0 &&& 7) * positions
      let changed? := match operator with
        | '+' => some (result ||| value)
        | '-' => some (result &&& (0o777 ^^^ value))
        | '=' => some (value ||| (result &&& (0o777 ^^^ (positions * 7))))
        | _ => none
      match changed?, rest.drop letters.length with
      | none, _ => none
      | some changed, ',' :: rest => changedMode? mode limit 0 changed rest
      | some changed, [] => some changed
      | some changed, c :: rest =>
        if "+-=".toList.contains c then changedMode? mode limit positions changed (c :: rest) else none

/-- Sets the permissions that new files do not get. -/
def setMask (mask : Nat) : ShellM Unit := do
  modify fun s => { s with process := { s.process with disk := { s.process.disk with mask := mask &&& 0o777 } } }
  finish 0

/-- Shows or sets the permissions that new files do not get. -/
def mask : Builtin := fun args => do
  let (flags, args) ← options "S" args
  let mask := (← get).process.disk.mask
  match args with
  | [] =>
    let octal := String.ofList (Nat.toDigits 8 mask)
    say (if flags.isEmpty then String.ofList (List.replicate (4 - octal.length) '0') ++ octal ++ "\n"
      else symbolicMask mask ++ "\n")
    finish 0
  | arg :: _ =>
    if arg.toList.head?.any Char.isDigit then
      match Expression.digits 8 arg.toList with
      | (n, []) => setMask n
      | _ => fail s!"Illegal number: {arg}" 2
    else
      let mode := 0o777 ^^^ mask
      match changedMode? mode arg.length 0 mode arg.toList with
      | some mode => setMask (0o777 ^^^ mode)
      | none => fail s!"Illegal mode: {arg}" 2

/-! ## Limits -/

/-- The value of a limit that a text spells, in the unit in which the limit is told. -/
def limitValue? (l : Limit) (text : String) : Option (Option Nat) :=
  if text == "unlimited" then some none
  else if text.toList.all Char.isDigit then some (some ((text.toNat?.getD 0) * l.unit))
  else none

/-- Shows or sets limits of the process. -/
def limit : Builtin := fun args => do
  let (flags, args) ← options "HSatfdscmlpnvwr" args
  let letters := flags.map Prod.fst
  let side := letters.reverse.find? fun letter => letter == 'H' || letter == 'S'
  let letter := (letters.reverse.find? fun letter => !(['H', 'S', 'a'].contains letter)).getD 'f'
  let limits := (← get).process.limits
  let shown (l : Limit) : String := l.valueText (if side == some 'H' then l.hard else l.soft) ++ "\n"
  match Limit.find? limits letter, args with
  | none, _ => finish 0
  | some l, [] =>
    say (if letters.contains 'a' then
        String.join (limits.map fun l => l.title ++ String.ofList (List.replicate (21 - l.title.length) ' ') ++ shown l)
      else shown l)
    finish 0
  | some l, text :: more =>
    if letters.contains 'a' || !more.isEmpty then fail "too many arguments" 2
    match limitValue? l text with
    | none => fail "bad number" 2
    | some value =>
      let soft := if side == some 'H' then l.soft else value
      let hard := if side == some 'S' then l.hard else value
      let changed : Limit := { l with soft, hard }
      if !changed.isSound then fail s!"error setting limit ({SystemFault.text .invalid})" 2
      if changed.isRaised l then fail s!"error setting limit ({SystemFault.text .notPermitted})" 2
      modify fun s => { s with process := { s.process with limits := Limit.set s.process.limits changed } }
      finish 0

/-! ## Going on elsewhere -/

/-- Leaves loops, or goes on with their next round. -/
def leaveLoop (goOn : Bool) : Builtin := fun args => do
  let levels ← match args with
    | [] => pure 1
    | arg :: _ => number arg
  if levels == 0 then fail ("Illegal number: " ++ args.headD "") 2
  else
    finish 0
    let loops := (← get).loops
    if loops != 0 then throw (.leave goOn (min levels loops))

/-- Ends the shell. -/
def exit : Builtin := fun args => do
  match args with
  | [] =>
    modify fun s => { s with status := s.exitCode.getD s.status }
    throw .exit
  | arg :: _ =>
    let code ← number arg
    modify fun s => { s with status := code % 256 }
    throw .exit

/-- Returns from a function. -/
def leaveFunction : Builtin := fun args => do
  match args with
  | [] => pure ()
  | arg :: _ => do finish (← number arg)
  endIfFailed
  throw .return

/-- Drops the first arguments. -/
def shift : Builtin := fun args => do
  let count ← match args with
    | [] => pure 1
    | arg :: _ => number arg
  if (← get).args.length < count then fail "can't shift that many" 2
  else
    modify fun s => { s with args := s.args.drop count, optionIndex := 1, optionOffset := none, status := 0 }

/-! ## Variables -/

/-- The name and the value of an argument that may be an assignment. -/
def assignmentOf (arg : String) : String × Option String :=
  match arg.toList.dropWhile (· != '=') with
  | [] => (arg, none)
  | _ :: value => (String.ofList (arg.toList.takeWhile (· != '=')), some (String.ofList value))

/-- Complains of a name that no variable may have. -/
def checkName (name : String) : ShellM Unit :=
  if isName name then pure () else fail s!"{name}: bad variable name" 2

/-- The name of a variable that an argument names; what may look like a value is passed over. -/
def nameOf (arg : String) : ShellM String := do
  let name := (assignmentOf arg).1
  checkName name
  pure name

/-- The variables with a property, as commands that set them. -/
def listed (word : String) (p : Variable → Bool) : ShellM Unit := do
  let known := ((← get).bindings.filter fun v => p v.2).mergeSort fun a b => a.1 ≤ b.1
  say (String.join (known.map fun (name, v) =>
    let start := if word.isEmpty then name else word ++ " " ++ name
    match v.value with
    | some value => start ++ "=" ++ quoted value ++ "\n"
    | none => start ++ "\n"))
  finish 0

/-- Marks variables, and sets those that are given a value. -/
def mark (word : String) (has : Variable → Bool) (marked : Variable → Variable) : Builtin := fun args => do
  match ← options "p" args with
  | ([], []) | (_ :: _, _) => listed word has
  | ([], args) =>
    for arg in args do
      let (name, value) := assignmentOf arg
      checkName name
      match value with
      | some value => assign name value
      | none => pure ()
      modify fun s => s.setVariable name (marked ((s.lookup? name).getD ⟨none, false, false⟩))
    finish 0

/-- Makes variables a function's own, or with a dash the options. -/
def makeLocal : Builtin := fun args => do
  if (← get).locals.isEmpty then fail "not in a function" 2
  for arg in args do
    let (name, value) := assignmentOf arg
    match (← get).locals with
    | [] => pure ()
    | frame :: frames =>
      if arg == "-" then
        modify fun s => { s with locals := { frame with options := some (frame.options.getD s.options) } :: frames }
      else
        if value.isNone then checkName name
        modify fun s => { s with locals := frame.keep name (s.lookup? name) :: frames }
        match value with
        | some value => assign name value
        | none => pure ()
  finish 0

/-- Forgets variables or functions. -/
def unset : Builtin := fun args => do
  let (flags, names) ← options "vf" args
  for name in names do
    if flags.getLast?.any (·.1 == 'f') then
      modify fun s => { s with functions := s.functions.filter (·.1 != name) }
    else
      let name ← nameOf name
      match (← get).lookup? name with
      | some v => if v.isReadOnly then fail s!"{name}: is read only" 2
      | none => pure ()
      modify fun s => s.forget name
      if name == "OPTIND" then resetOptions ""
  finish 0

/-- Turns an option on or off. -/
def setOption (isOn : Bool) (letter : Char) : ShellM Unit :=
  if optionNames.any (·.1 == letter) then
    modify fun s =>
      let others := s.options.filter (· != letter)
      { s with options := if isOn then letter :: others else others }
  else fail s!"Illegal option -{letter}" 2

/-- Turns options on or off as arguments say, and tells the arguments that follow, if any or two dashes do. -/
def setOptions : List String → ShellM (Option (List String))
  | [] => pure none
  | arg :: rest => do
    match arg.toList, rest with
    | ['-', '-'], rest => pure (some rest)
    | ['-'], rest =>
      setOption false 'x'
      setOption false 'v'
      pure (if rest.isEmpty then none else some rest)
    | ['-', 'o'], name :: rest | ['+', 'o'], name :: rest =>
      match optionNames.find? (·.2 == name) with
      | some (letter, _) => setOption (arg == "-o") letter
      | none => fail s!"Illegal option {arg} {name}" 2
      setOptions rest
    | ['-', 'o'], [] =>
      let s ← get
      say ("Current option settings\n" ++ String.join (optionNames.map fun (letter, name) =>
        name ++ String.ofList (List.replicate (16 - name.length) ' ') ++
          (if s.has letter then "on" else "off") ++ "\n"))
      pure none
    | ['+', 'o'], [] =>
      let s ← get
      say (String.join (optionNames.map fun (letter, name) =>
        "set " ++ (if s.has letter then "-" else "+") ++ "o " ++ name ++ "\n"))
      pure none
    | '-' :: letters, rest =>
      if letters.getLast? == some 'o' then
        for letter in letters.dropLast do setOption true letter
        match rest with
        | name :: rest =>
          match optionNames.find? (·.2 == name) with
          | some (letter, _) => setOption true letter
          | none => fail s!"Illegal option -o {name}" 2
          setOptions rest
        | [] => pure none
      else
        for letter in letters do setOption true letter
        setOptions rest
    | '+' :: letters, rest =>
      for letter in letters do setOption false letter
      setOptions rest
    | _, rest => pure (some (arg :: rest))

/-- Sets options and arguments, or shows the variables. -/
def setAll : Builtin := fun args => do
  if args.isEmpty then listed "" (·.value.isSome)
  else
    match ← setOptions args with
    | none => pure ()
    | some args => modify fun s => { s with args, optionIndex := 1, optionOffset := none }
    finish 0

/-! ## Reading -/

/-- How far a line is divided among variables. -/
structure Sharing where
  /-- The fields that are finished, the last first. -/
  fields : List (List Char)
  /-- The characters of the field that is not finished, the last first. -/
  current : List Char
  isSpacing : Bool
  /-- How many fields may still begin. -/
  left : Nat
  /-- The length of the last field without the separators at its end, while these go on. -/
  kept : Option Nat

/-- Goes on to the next character of a line. A backslash makes the byte after it separate nothing, but does not make it
keep the separators before it from being the end. -/
def Sharing.step (separators : List Char) (d : Sharing) (mark : Char × Bool) : Sharing :=
  let (c, isLiteral) := mark
  let isSeparator := separators.contains c
  let isBlank := isSeparator && isBlankSeparator c
  let extended := { d with current := c :: d.current }
  if isLiteral then
    { extended with isSpacing := false, kept := if Text.byteLength c.toString == 1 then d.kept else none }
  else if d.left == 0 then
    if isBlank then { extended with kept := some (d.kept.getD d.current.length) }
    else if isSeparator && d.isSpacing then { extended with isSpacing := false }
    else { extended with kept := none, isSpacing := false }
  else if d.isSpacing then
    if isBlank then { d with current := [] }
    else if isSeparator then { d with current := [], isSpacing := false }
    else { d with current := [c], isSpacing := false }
  else if isSeparator then
    if d.current.isEmpty && isBlank then d
    else if d.left == 1 then { extended with left := 0, kept := some d.current.length, isSpacing := isBlank }
    else { d with fields := d.current.reverse :: d.fields, current := [], isSpacing := isBlank, left := d.left - 1 }
  else { extended with isSpacing := false }

/-- The fields of a line, at most so many; the last takes what is left. -/
def shares (separators : List Char) (count : Nat) (line : List (Char × Bool)) : List String :=
  let d := line.foldl (Sharing.step separators) ⟨[], [], false, count, none⟩
  let last := match d.kept with
    | some length => d.current.reverse.take length
    | none => d.current.reverse
  ((if last.isEmpty then d.fields else last :: d.fields).reverse).map String.ofList

/-- The characters of a line, with a note which had a backslash before them, how many bytes they take up, and whether
the line is ended. -/
def lineAt (isRaw : Bool) : List Char → List (Char × Bool) × Nat × Bool
  | [] => ([], 0, false)
  | '\n' :: _ => ([], 1, true)
  | '\\' :: c :: cs =>
    if isRaw then
      let (line, size, isEnded) := lineAt isRaw (c :: cs)
      (('\\', false) :: line, size + 1, isEnded)
    else
      let (line, size, isEnded) := lineAt isRaw cs
      (if c == '\n' then line else (c, true) :: line, size + 1 + Text.byteLength c.toString, isEnded)
  | c :: cs =>
    let (line, size, isEnded) := lineAt isRaw cs
    (if c == '\\' && !isRaw || c == '\x00' then line else (c, false) :: line,
      size + Text.byteLength c.toString, isEnded)

/-- The index after the line that begins at an index. A line end with a backslash before it does not end a line. -/
def lineEnd (isRaw : Bool) (bytes : ByteArray) (i : Nat) : Nat :=
  if h : i < bytes.size then
    let b := bytes[i]
    if b == 10 then i + 1 else if b == 92 && !isRaw then lineEnd isRaw bytes (i + 2) else lineEnd isRaw bytes (i + 1)
  else bytes.size
termination_by bytes.size - i

/-- The bytes of the next line of the input. -/
def nextLine (isRaw : Bool) (p : Process) : ByteArray :=
  match p.file? 0 with
  | none => .empty
  | some (_, file) =>
    match p.content file.position file.channel with
    | .error _ => .empty
    | .ok bytes => if file.readable then bytes.extract file.position (lineEnd isRaw bytes file.position) else .empty

/-- Waits for more input than there is, which ends a process whose output is not read any more. -/
def waitForInput : ShellM Unit := do
  modify fun s => { s with process := s.process.reachEndOf 0 }
  let p := (← get).process
  match p.outlet? with
  | some outlet =>
    if !p.starved.isEmpty then
      modify fun s => { s with process := s.process.cutBuffer outlet }
      throw (.killed Signal.brokenPipe)
  | none => pure ()

/-- Reads a line into variables. -/
def read : Builtin := fun args => do
  let (flags, names) ← options "p:r" args
  if names.isEmpty then fail "arg count" 2
  else
    let s ← get
    let isRaw := flags.any (·.1 == 'r')
    let (line, size, isEnded) := lineAt isRaw (Text.ofBytes (nextLine isRaw s.process)).toList
    modify fun s => { s with process := s.process.skip 0 size }
    if !isEnded then waitForInput
    let line := if s.hasByteSeparators then
        line.flatMap fun (c, isLiteral) => (Text.strayChars c.toString).map (·, isLiteral)
      else line
    let values := (shares s.separators names.length line).map Text.joined
    for (name, i) in names.zipIdx do
      assign (← nameOf name) ((values[i]?).getD "")
    finish (if isEnded then 0 else 1)

/-! ## Options of scripts -/

/-- Whether an option is one of those that are known, and if so whether it takes an argument. -/
def takesArgument? (c : Char) : List Char → Option Bool
  | [] => none
  | d :: ':' :: known => if d == c then some true else takesArgument? c known
  | d :: known => if d == c then some false else takesArgument? c known

/-- The argument in which options are looked for next, and what is left of the one before it. At the end of that one the
search goes on in the next, if it has options. -/
def optionsLeft? (words : List (List Char)) (index : Nat) (offset : Option Nat) : Nat × Option (List Char) :=
  let left := match offset with
    | some offset => (words[index - 2]?.getD []).drop offset
    | none => []
  if index ≤ 1 || left.isEmpty then
    match words[index - 1]? with
    | some ['-', '-'] => (index + 1, none)
    | some ('-' :: c :: cs) => (index + 1, some (c :: cs))
    | _ => (index, none)
  else (index, some left)

/-- Tells the next option among arguments. -/
def nextOption : Builtin := fun args => do
  match args with
  | known :: name :: given =>
    let s ← get
    let words := (if given.isEmpty then s.args else given).map Text.byteChars
    let known := Text.byteChars known
    let isQuiet := known.head? == some ':'
    let isPast := words.length + 1 < s.optionIndex
    let (index, left) :=
      if isPast then optionsLeft? words 1 none else optionsLeft? words s.optionIndex s.optionOffset
    let tell (letter : Char) (index : Nat) (left : Option (List Char)) (status : Nat) : ShellM Unit := do
      assign "OPTIND" (toString index)
      assign (← nameOf name) (Text.ofByteChars [letter])
      let offset := left.map fun left => (words[index - 2]?.getD []).length - left.length
      modify fun s => { s with optionIndex := index, optionOffset := offset }
      finish status
    match left with
    | none | some [] => tell '?' index none 1
    | some (c :: left) =>
      let text := Text.ofByteChars [c]
      match takesArgument? c known with
      | none =>
        if isQuiet then assign "OPTARG" text
        else
          sayError s!"Illegal option -{text}\n"
          modify fun s => s.forget "OPTARG"
        tell '?' index (some left) 0
      | some false =>
        assign "OPTARG" ""
        tell c index (some left) 0
      | some true =>
        match left, words[index - 1]? with
        | [], none =>
          if isQuiet then assign "OPTARG" text
          else
            sayError s!"No arg for -{text} option\n"
            modify fun s => s.forget "OPTARG"
          tell (if isQuiet then ':' else '?') index (some []) 0
        | [], some value =>
          assign "OPTARG" (Text.ofByteChars value)
          tell c (index + 1) none 0
        | left, _ =>
          assign "OPTARG" (Text.ofByteChars left)
          tell c index none 0
  | _ => fail "Usage: getopts optstring var [arg...]" 2

/-! ## Signals -/

/-- Sets or shows the commands to be run at signals. -/
def trap : Builtin := fun args => do
  let (_, args) ← options "" args
  match args with
  | [] =>
    let traps := (← get).traps.mergeSort fun a b => a.1 ≤ b.1
    say (String.join (traps.map fun (signal, action) => s!"trap -- {quoted action} {Signal.name signal}\n"))
    finish 0
  | first :: rest =>
    let isNumber := !first.isEmpty && first.toList.all Char.isDigit
    let (action, names) := if rest.isEmpty || isNumber then (none, first :: rest) else (some first, rest)
    finish 0
    for name in names do
      if (← status) == 0 then
        match Signal.ofText? name with
        | none =>
          sayError s!"trap: {name}: bad trap\n"
          finish 1
        | some signal =>
          modify fun s =>
            let others := s.traps.filter (·.1 != signal)
            match action with
            | none | some "-" => { s with traps := others }
            | some action => { s with traps := (signal, action) :: others }

/-- Sends a signal to the shell. -/
def receive (signal : Nat) (time : Time) : ShellM Unit := do
  let s ← get
  if signal != 9 && (s.traps.any (·.1 == signal)) && !s.isSubshell then
    match s.traps.lookup signal with
    | some "" => pure ()
    | _ => modify fun s => { s with pending := s.pending ++ [(signal, time)] }
  else if s.isSubshell then modify fun s => { s with pending := s.pending ++ [(signal, time)] }
  else if Signal.isHarmless signal then pure ()
  else throw (.killed signal)

/-! ## Names of commands -/

/-- Lets words stand for other texts, or shows for what they stand. -/
def makeAlias : Builtin := fun args => do
  finish 0
  let line (name text : String) : String := name ++ "=" ++ quoted text ++ "\n"
  if args.isEmpty then
    say (String.join ((← get).aliases.map fun (name, text) => line name text))
  for arg in args do
    match assignmentOf arg with
    | (name, some text) =>
      modify fun s => { s with aliases := s.aliases.filter (·.1 != name) ++ [(name, text)] }
    | (name, none) =>
      match (← get).aliases.lookup name with
      | some text => say (line name text)
      | none =>
        sayError s!"alias: {name} not found\n"
        finish 1

/-- Makes words stand for themselves again. -/
def dropAlias : Builtin := fun args => do
  let (flags, names) ← options "a" args
  finish 0
  if !flags.isEmpty then modify fun s => { s with aliases := [] }
  for name in names do
    if (← get).aliases.any (·.1 == name) then
      modify fun s => { s with aliases := s.aliases.filter (·.1 != name) }
    else
      sayError s!"unalias: {name} not found\n"
      finish 1

/-- Prints the times that the shell has taken, which are none. -/
def times : Builtin := fun _ => do
  say "0m0.000000s 0m0.000000s\n0m0.000000s 0m0.000000s\n"
  finish 0

/-- Does nothing, and ends with a status. -/
def nothing (status : Nat) : Builtin := fun _ =>
  finish status

end Builtin

/-- The commands of the shell that run no others. -/
def builtins : List (String × Builtin) :=
  [(":", Builtin.nothing 0), ("[", Builtin.bracket), ("alias", Builtin.makeAlias),
   ("break", Builtin.leaveLoop false), ("cd", Builtin.changeDirectory), ("chdir", Builtin.changeDirectory),
   ("continue", Builtin.leaveLoop true), ("echo", Builtin.echo), ("exit", Builtin.exit),
   ("export", Builtin.mark "export" Variable.isExported fun v => { v with isExported := true }),
   ("false", Builtin.nothing 1), ("getopts", Builtin.nextOption),
   ("local", Builtin.makeLocal),
   ("printf", Builtin.printf), ("pwd", Builtin.printDirectory), ("read", Builtin.read),
   ("readonly", Builtin.mark "readonly" Variable.isReadOnly fun v => { v with isReadOnly := true }),
   ("return", Builtin.leaveFunction), ("set", Builtin.setAll), ("shift", Builtin.shift), ("test", Builtin.test),
   ("times", Builtin.times), ("trap", Builtin.trap), ("true", Builtin.nothing 0), ("ulimit", Builtin.limit),
   ("umask", Builtin.mask), ("unalias", Builtin.dropAlias), ("unset", Builtin.unset)]

end Rebuild.Shell
