import Rebuild.Tool.Finding.Basic
import Rebuild.Tool.Moment.Format
import Rebuild.Tool.Node

/-!
# Reading expressions over files

Each check begins with a word that has a dash, and may take words after it. Options that hold for all files may stand
among the checks.
-/

namespace Rebuild.Tool.Finding

open Text

/-- A word in the quotes of some complaints. -/
def tickQuoted (text : String) : String :=
  (Char.ofNat 96).toString ++ text ++ "'"

/-- What is left of an expression, the last word that was taken, and what was read besides it. -/
structure Reading where
  rest : List String
  last : String
  plan : Plan
  style : Regex.Style
  /-- Whether expressions are written as by default. -/
  isUsual : Bool

/-- What is read from the words of an expression, or why they are none. -/
abbrev ReadingM := StateT Reading (Except String)

/-- Takes the next word, which a check needs. -/
def argument (check : String) : ReadingM String := do
  match (← get).rest with
  | word :: rest =>
    modify fun r => { r with rest }
    pure word
  | [] => throw s!"missing argument to {tickQuoted check}"

/-- Changes how files are visited. -/
def setPlan (change : Plan → Plan) : ReadingM Unit :=
  modify fun r => { r with plan := change r.plan }

/-- The bound that a text is, and what follows its number. -/
def boundAt? (text : String) : Option (Bound × List Char) :=
  let (make, cs) : (Nat → Bound) × List Char := match text.toList with
    | '+' :: cs => (.more, cs)
    | '-' :: cs => (.less, cs)
    | cs => (.exactly, cs)
  let digits := cs.takeWhile Char.isDigit
  if digits.isEmpty then none else some (make (Moment.digitsValue digits), cs.drop digits.length)

/-- Takes a bound. -/
def boundArgument (check : String) : ReadingM Bound := do
  let text ← argument check
  match boundAt? text with
  | some (bound, []) => pure bound
  | _ => throw s!"invalid argument {tickQuoted text} to {tickQuoted check}"

/-- Takes a number of levels. -/
def levelArgument (check : String) : ReadingM Nat := do
  let text ← argument check
  match natural? text with
  | some n => pure n
  | none => throw s!"Expected a positive decimal integer argument to {check}, but got {plainlyQuoted text}"

/-- The letters of kinds of files, which commas separate. -/
def kindLetters (check text : String) : Except String (List Char) :=
  let cs := text.toList
  let known := ['b', 'c', 'd', 'f', 'l', 'p', 's', 'D']
  if cs.isEmpty then .error s!"Arguments to {check} should contain at least one letter"
  else
    match (cs.splitOnP (· == ',')).find? fun part => part.length != 1 || !known.contains (part.headD ' ') with
    | none => .ok (cs.filter (· != ','))
    | some [] =>
      .error (s!"Last file type in list argument to {check} is missing, i.e., list is ending on: " ++ "','")
    | some (c :: _) =>
      .error (if known.contains c then s!"Must separate multiple arguments to {check} using: " ++ "','"
        else s!"Unknown argument to {check}: {c}")

/-- A way to write regular expressions, with its name. -/
def styles : List (String × Regex.Style) :=
  [("findutils-default", ⟨false, false, true⟩), ("emacs", ⟨false, false, true⟩), ("grep", ⟨false, false, true⟩),
   ("posix-basic", ⟨false, false, true⟩), ("sed", ⟨false, false, true⟩), ("ed", ⟨false, false, true⟩),
   ("posix-minimal-basic", ⟨false, false, true⟩), ("posix-extended", ⟨true, false, true⟩),
   ("egrep", ⟨true, false, true⟩),
   ("posix-egrep", ⟨true, false, true⟩), ("awk", ⟨true, false, true⟩), ("posix-awk", ⟨true, false, true⟩),
   ("gnu-awk", ⟨true, false, true⟩)]

/-- An expression in the usual way as a basic one: plus signs and question marks repeat. -/
def asBasic : List Char → List Char
  | '\\' :: c :: rest => '\\' :: c :: asBasic rest
  | c :: rest => if c == '+' || c == '?' then '\\' :: c :: asBasic rest else c :: asBasic rest
  | [] => []

/-- Takes the path of another file, with which a check compares. -/
def nodeArgument (d : Disk) (check : String) : ReadingM (Place × DiskNode) := do
  let path ← argument check
  let follows := (← get).plan.following != .never
  let found : Except SystemFault (Place × DiskNode) := do
    let place ← d.locate follows path
    pure (place, ← d.nodeAt place)
  match found with
  | .ok found => pure found
  | .error fault => throw s!"{plainlyQuoted path}: {fault.text}"

/-- The words of a program up to a semicolon, or up to a plus sign after a place for files. -/
def programWords (check : String) (taken : List String) : List String → Except String (List String × Bool × List String)
  | [] => .error s!"missing argument to {tickQuoted check}"
  | word :: rest =>
    if word == ";" then
      if taken.isEmpty then .error s!"invalid argument {tickQuoted word} to {tickQuoted check}"
      else .ok (taken.reverse, false, rest)
    else if word == "+" && taken.head? == some "\x7b\x7d" then
      if 1 < (taken.filter fun w => (w.splitOn "\x7b\x7d").length > 1).length then
        .error s!"Only one instance of \x7b\x7d is supported with {check} ... +"
      else .ok ((taken.drop 1).reverse, true, rest)
    else programWords check (word :: taken) rest

/-- Takes the program that an action runs. -/
def programCheck (check : String) (isInside asks : Bool) : ReadingM Check := do
  match programWords check [] (← get).rest with
  | .error fault => throw fault
  | .ok (words, isMany, rest) =>
    modify fun r => { r with rest }
    setPlan fun p => { p with acts := true }
    if isMany then
      let index := (← get).plan.collectors.length
      setPlan fun p => { p with collectors := (isInside, words) :: p.collectors }
      pure (.collect index)
    else pure (.run isInside asks words)

/-- Notes that an action was asked for. -/
def acting (check : Check) : ReadingM Check := do
  setPlan fun p => { p with acts := true }
  pure check

/-- Takes the regular expression of a check. -/
def regexCheck (check : String) (ignoresCase : Bool) : ReadingM Check := do
  let text ← argument check
  let r ← get
  let cs := byteChars text
  match Regex.ofText? r.style (if r.isUsual then asBasic cs else cs) with
  | .ok parsed => pure (.regex parsed.regex ignoresCase)
  | .error fault => throw s!"failed to compile regular expression {plainlyQuoted text}: {fault.text}"

/-- Takes the permissions of a check. -/
def modeCheck (check : String) : ReadingM Check := do
  let text ← argument check
  let (test, changeText) : ModeTest × String := match text.toList with
    | '-' :: rest => (.all, String.ofList rest)
    | '/' :: rest => (.any, String.ofList rest)
    | _ => (.exactly, text)
  match PermissionChange.ofText? changeText with
  | some change => pure (.mode test (change.apply false 0 0))
  | none => throw s!"invalid mode {plainlyQuoted text}"

/-- Takes the owner of a check, by name or by number. -/
def ownerCheck (check kind : String) : ReadingM Check := do
  let text ← argument check
  match natural? text with
  | some n => pure (.owned (n == 0))
  | none =>
    if text == "root" then pure (.owned true)
    else if text.isEmpty then throw s!"The argument to {check} should not be empty"
    else throw s!"{plainlyQuoted text} is not the name of {kind}"

/-- Takes the size of a check. -/
def sizeCheck (check : String) : ReadingM Check := do
  let text ← argument check
  match boundAt? text with
  | none => throw s!"invalid {check} type {tickQuoted text}"
  | some (bound, unit) =>
    match unit with
    | [] | ['b'] => pure (.size bound 512)
    | ['c'] => pure (.size bound 1)
    | ['w'] => pure (.size bound 2)
    | ['k'] => pure (.size bound 1024)
    | ['M'] => pure (.size bound 1048576)
    | ['G'] => pure (.size bound 1073741824)
    | c :: _ => throw s!"invalid {check} type {tickQuoted c.toString}"

/-- The check that a word begins, of which more words may be taken. -/
def checkNamed (d : Disk) (word : String) : ReadingM Check := do
  let pattern (part : Part) (ignoresCase : Bool) : ReadingM Check := do
    pure (.pattern part ignoresCase (← argument word))
  let age (unit : Nat) : ReadingM Check := do
    pure (.age (← boundArgument word) (unit * Moment.nano))
  match word with
  | "-true" | "-daystart" | "-noleaf" | "-mount" | "-xdev" | "-warn" | "-nowarn" | "-ignore_readdir_race"
  | "-noignore_readdir_race" | "-readable" | "-writable" => pure (.constant true)
  | "-false" | "-nouser" | "-nogroup" => pure (.constant false)
  | "-name" => pattern .name false
  | "-iname" => pattern .name true
  | "-path" | "-wholename" => pattern .path false
  | "-ipath" | "-iwholename" => pattern .path true
  | "-lname" => pattern .link false
  | "-ilname" => pattern .link true
  | "-regex" => regexCheck word false
  | "-iregex" => regexCheck word true
  | "-regextype" => do
    let name ← argument word
    match styles.lookup name with
    | some style =>
      modify fun r => { r with style, isUsual := name == "findutils-default" || name == "emacs" }
      pure (.constant true)
    | none =>
      throw (s!"Unknown regular expression type {plainlyQuoted name}; valid types are " ++
        ", ".intercalate (["findutils-default", "ed", "emacs", "gnu-awk", "grep", "posix-awk", "awk", "posix-basic",
          "posix-egrep", "egrep", "posix-extended", "posix-minimal-basic", "sed"].map plainlyQuoted) ++ ".")
  | "-type" | "-xtype" => do
    match kindLetters word (← argument word) with
    | .ok letters => pure (.kind (word == "-xtype") letters)
    | .error fault => throw fault
  | "-size" => sizeCheck word
  | "-links" => do pure (.links (← boundArgument word))
  | "-inum" => do pure (.number (← boundArgument word))
  | "-uid" | "-gid" => do pure (.owned ((← boundArgument word).holds 0))
  | "-user" => ownerCheck word "a known user"
  | "-group" => ownerCheck word "an existing group"
  | "-mtime" | "-ctime" | "-atime" => age 86400
  | "-mmin" | "-cmin" | "-amin" => age 60
  | "-newer" | "-anewer" | "-cnewer" | "-newermm" => do
    let (_, node) ← nodeArgument d word
    pure (.newer node.modified)
  | "-newermt" | "-newerct" | "-newerat" => do
    let text ← argument word
    match Moment.ofText? d.clock text with
    | some time => pure (.newer time)
    | none => throw s!"I cannot figure out how to interpret {plainlyQuoted text} as a date or time"
  | "-samefile" => do
    let (place, _) ← nodeArgument d word
    pure (.number (.exactly ((d.number? place).getD 0)))
  | "-empty" => pure .empty
  | "-perm" => modeCheck word
  | "-executable" => pure .executable
  | "-maxdepth" => do
    let n ← levelArgument word
    setPlan fun p => { p with most := some n }
    pure (.constant true)
  | "-mindepth" => do
    let n ← levelArgument word
    setPlan fun p => { p with least := n }
    pure (.constant true)
  | "-depth" | "-d" => do
    setPlan fun p => { p with isDeep := true }
    pure (.constant true)
  | "-follow" => do
    setPlan fun p => { p with following := .always }
    pure (.constant true)
  | "-print" => acting (.print "\n")
  | "-print0" => acting (.print "\x00")
  | "-printf" => do acting (.format (← argument word))
  | "-exec" => programCheck word false false
  | "-execdir" => programCheck word true false
  | "-ok" => programCheck word false true
  | "-okdir" => programCheck word true true
  | "-delete" => do
    setPlan fun p => { p with isDeep := true }
    acting .delete
  | "-prune" => pure .prune
  | "-quit" => pure .quit
  | _ => throw s!"unknown predicate {tickQuoted word}"

/-- Takes the next word if it is one of some. -/
def takeOneOf (words : List String) : ReadingM Bool := do
  match (← get).rest with
  | word :: rest =>
    if words.contains word then
      modify fun r => { r with rest, last := word }
      pure true
    else pure false
  | [] => pure false

/-- Whether a word begins an expression. -/
def beginsExpression (word : String) : Bool :=
  (word.startsWith "-" && word != "-") || word == "(" || word == "!"

mutual

/-- Parts that commas separate. -/
def sequenced (d : Disk) (limit : Nat) (isInner : Bool) : ReadingM Expression := do
  match limit with
  | 0 => throw "too many words"
  | limit + 1 =>
    let first ← alternatives d limit isInner
    if ← takeOneOf [","] then pure (.comma first (← sequenced d limit isInner)) else pure first

/-- Alternatives. -/
def alternatives (d : Disk) (limit : Nat) (isInner : Bool) : ReadingM Expression := do
  match limit with
  | 0 => throw "too many words"
  | limit + 1 =>
    let first ← joined d limit isInner
    if ← takeOneOf ["-o", "-or"] then pure (.or first (← alternatives d limit isInner)) else pure first

/-- Parts that hold together. -/
def joined (d : Disk) (limit : Nat) (isInner : Bool) : ReadingM Expression := do
  match limit with
  | 0 => throw "too many words"
  | limit + 1 =>
    let first ← single d limit isInner
    if ← takeOneOf ["-a", "-and"] then pure (.and first (← joined d limit isInner))
    else
      match (← get).rest with
      | [] => pure first
      | word :: _ =>
        if ["-o", "-or", ","].contains word then pure first
        else if word == ")" then if isInner then pure first else throw "you have too many ')'"
        else pure (.and first (← joined d limit isInner))

/-- A check, one that is to fail, or parts in parentheses. -/
def single (d : Disk) (limit : Nat) (isInner : Bool) : ReadingM Expression := do
  match limit, (← get).rest with
  | 0, _ => throw "too many words"
  | _, [] =>
    if (← get).last == "(" then
      throw "invalid expression; I was expecting to find a ')' somewhere but did not see one."
    else throw s!"expected an expression after {plainlyQuoted (← get).last}"
  | limit + 1, word :: rest =>
    modify fun r => { r with rest, last := word }
    match word with
    | "!" | "-not" => do pure (.not (← single d limit isInner))
    | "(" =>
      if rest.head? == some ")" then throw "invalid expression; empty parentheses are not allowed."
      else
        let inner ← sequenced d limit true
        if ← takeOneOf [")"] then pure inner
        else throw "invalid expression; I was expecting to find a ')' somewhere but did not see one."
    | ")" => throw "you have too many ')'"
    | "-o" | "-or" | "-a" | "-and" | "," =>
      throw s!"invalid expression; you have used a binary operator {plainlyQuoted word} with nothing before it."
    | word =>
      if word.startsWith "-" then pure (.check (← checkNamed d word))
      else throw s!"paths must precede expression: {tickQuoted word}"

end

/-- The expression that words are, and how files are visited for it; what it does is to print, if it does nothing. -/
def ofWords (d : Disk) (following : Following) (words : List String) : Except String (Expression × Plan) := do
  let start : Reading := ⟨words, "", ⟨following, none, 0, false, [], false⟩, ⟨false, false, true⟩, true⟩
  if words.isEmpty then .ok (.check (.print "\n"), start.plan)
  else
    let (e, r) ← (sequenced d (8 * words.length + 8) false).run start
    match r.rest with
    | [] => .ok (if r.plan.acts then e else .and e (.check (.print "\n")), r.plan)
    | _ => .error "you have too many ')'"

end Rebuild.Tool.Finding
