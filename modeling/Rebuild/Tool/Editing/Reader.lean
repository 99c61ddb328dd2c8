import Rebuild.Tool.Editing.Script

/-!
# Reading scripts that edit lines

A script comes in parts, from arguments and from files. A text to be inserted may go on in the next part; all else ends
within its own.
-/

namespace Rebuild.Tool.Editing

open Text

/-- Where a part of a script comes from. -/
inductive Source where
  | argument (number : Nat)
  | file (path : String)
deriving DecidableEq, Repr

/-- A part of a script, and whether it is written with extended expressions. -/
structure Part where
  source : Source
  isExtended : Bool
  chars : Line
deriving Repr

/-- What is wrong with a script. -/
inductive ScriptFault where
  | unknownCommand (c : Char)
  | missingCommand
  | noText
  | unterminatedSubstitution
  | unterminatedReplacement
  | unterminatedAddress
  | unknownFlag
  | repeatedPrint
  | repeatedGlobal
  | repeatedNumber
  | zeroNumber
  | unequalLengths
  | unexpectedComma
  | badLineZero
  | badFirstAddress
  | repeatedNegation
  | excess
  | unexpectedEnd
  | unmatchedBlock
  | noLabel
  | labelAddress
  | commentAddress
  | endAddress
  | oneAddress
  | noFileName
  | badReference (number : Nat)
  | emptyWithFlags
  | newerVersion
  | pattern (fault : Regex.Fault)
deriving DecidableEq, Repr

/-- The wording of what is wrong with a script. -/
def ScriptFault.text : ScriptFault → String
  | .unknownCommand c => quoted "unknown command: " c.toString
  | .missingCommand => "missing command"
  | .noText => "expected \\ after " ++ quoted "" "a" ++ ", " ++ quoted "" "c" ++ " or " ++ quoted "" "i"
  | .unterminatedSubstitution => quoted "unterminated " "s" ++ " command"
  | .unterminatedReplacement => quoted "unterminated " "y" ++ " command"
  | .unterminatedAddress => "unterminated address regex"
  | .unknownFlag => quoted "unknown option to " "s"
  | .repeatedPrint => quoted "multiple " "p" ++ quoted " options to " "s" ++ " command"
  | .repeatedGlobal => quoted "multiple " "g" ++ quoted " options to " "s" ++ " command"
  | .repeatedNumber => quoted "multiple number options to " "s" ++ " command"
  | .zeroNumber => quoted "number option to " "s" ++ " command may not be zero"
  | .unequalLengths => quoted "strings for " "y" ++ " command are different lengths"
  | .unexpectedComma => quoted "unexpected " ","
  | .badLineZero => "invalid usage of line address 0"
  | .badFirstAddress => "invalid usage of +N or ~N as first address"
  | .repeatedNegation => quoted "multiple " "!" ++ "s"
  | .excess => "extra characters after command"
  | .unexpectedEnd => quoted "unexpected " "\x7d"
  | .unmatchedBlock => quoted "unmatched " "\x7b"
  | .noLabel => "\":\" lacks a label"
  | .labelAddress => ": doesn't want any addresses"
  | .commentAddress => "comments don't accept any addresses"
  | .endAddress => quoted "" "\x7d" ++ " doesn't want any addresses"
  | .oneAddress => "command only uses one address"
  | .noFileName => "missing filename in r/R/w/W commands"
  | .badReference number => quoted s!"invalid reference \\{number} on " "s" ++ " command's RHS"
  | .emptyWithFlags => "cannot specify modifiers on empty regexp"
  | .newerVersion => "expected newer version of sed"
  | .pattern fault => fault.text
where
  /-- A text in the quotes of these wordings. -/
  quoted (before text : String) : String :=
    before ++ (Char.ofNat 96).toString ++ text ++ "'"

/-- Where a script is wrong: the part, with how far it was read, in characters and in lines, and the files that the
commands before are to write. -/
structure Misreading where
  fault : ScriptFault
  source : Source
  taken : Nat
  line : Nat
  targets : List String
deriving Repr

/-- Whether the place of a fault is not told. -/
def Misreading.isPlaceless (m : Misreading) : Bool :=
  m.fault == .pattern .classSyntax

/-- The wording of where and how a script is wrong. -/
def Misreading.text (m : Misreading) : String :=
  match m.source with
  | .argument number =>
    if m.isPlaceless then m.fault.text else s!"-e expression #{number}, char {m.taken}: " ++ m.fault.text
  | .file path => if m.isPlaceless then m.fault.text else s!"file {path} line {m.line}: " ++ m.fault.text

/-- How far a script has been read. -/
structure Reading where
  part : Part
  rest : Line
  later : List Part
  isFirst : Bool
  script : Script
  /-- The places of the blocks that are open, the last first. -/
  opened : List Nat

/-- What is read from a script. -/
abbrev ReadingM := StateT Reading (Except Misreading)

/-- Fails where the script was read to. -/
def refuse (fault : ScriptFault) : ReadingM α := fun r =>
  let length := r.part.chars.length - r.rest.length
  let line := (r.part.chars.take length).count '\n' + 1
  .error ⟨fault, r.part.source, if fault == .unmatchedBlock then 0 else length, line, r.script.targets⟩

/-- The next character, without taking it. -/
def peek : ReadingM (Option Char) := do
  pure (← get).rest.head?

/-- Takes so many characters. -/
def drop (count : Nat) : ReadingM Unit :=
  modify fun r => { r with rest := r.rest.drop count }

/-- Takes the next character. -/
def takeChar : ReadingM (Option Char) := do
  let c ← peek
  drop 1
  pure c

/-- Takes the characters that come first and fit. -/
def takeWhile (fits : Char → Bool) : ReadingM Line := do
  let cs := (← get).rest.takeWhile fits
  drop cs.length
  pure cs

/-- Whether a character is a blank within a line. -/
def isBlankChar (c : Char) : Bool :=
  c == ' ' || c == '\t'

/-- Whether a character is a blank or ends a line. -/
def isSpaceChar (c : Char) : Bool :=
  c == ' ' || ('\t' ≤ c && c ≤ '\r')

/-- Takes the next character that is no blank. -/
def takeFilled : ReadingM (Option Char) := do
  let _ ← takeWhile isBlankChar
  takeChar

/-- Takes a number; none is zero. -/
def takeNumber : ReadingM Nat := do
  pure ((← takeWhile Char.isDigit).foldl (fun n c => 10 * n + (c.toNat - 48)) 0)

/-- Takes the end of a command. -/
def takeEnd : ReadingM Unit := do
  let _ ← takeWhile isBlankChar
  match ← peek with
  | none | some '\x7d' | some '#' => pure ()
  | some c =>
    drop 1
    if c == '\n' || c == ';' then pure () else refuse .excess

/-! ## Escapes -/

/-- The character that an escape stands for, after its backslash, and what follows. -/
def escape? (cs : Line) : Option (Char × Line) :=
  let coded (base most : Nat) (rest : Line) : Option (Char × Line) :=
    let digits := (rest.take most).takeWhile fun c => (digit? c).any (· < base)
    if digits.isEmpty then none
    else
      let n := digits.foldl (fun n c => base * n + (digit? c).getD 0) 0
      some (Char.ofNat (n % 256), rest.drop digits.length)
  match cs with
  | 'a' :: rest => some ('\x07', rest)
  | 'f' :: rest => some ('\x0c', rest)
  | 'r' :: rest => some ('\r', rest)
  | 't' :: rest => some ('\t', rest)
  | 'v' :: rest => some ('\x0b', rest)
  | 'c' :: c :: rest => some (Char.ofNat (c.toUpper.toNat ^^^ 64), rest)
  | 'd' :: rest => coded 10 3 rest
  | 'o' :: rest => coded 8 3 rest
  | 'x' :: rest => coded 16 2 rest
  | _ => none
where
  /-- The value of a digit. -/
  digit? (c : Char) : Option Nat :=
    if c.isDigit then some (c.toNat - 48)
    else if 'a' ≤ c.toLower && c.toLower ≤ 'f' then some (c.toLower.toNat - 87)
    else none

/-- An expression with the characters that its escapes stand for; an escape that means something in expressions is left
as it is. -/
def unescaped (limit : Nat) (cs : Line) : Line :=
  match limit, cs with
  | limit + 1, '\\' :: rest =>
    match escape? rest with
    | some (c, rest) => c :: unescaped limit rest
    | none =>
      match rest with
      | [] => ['\\']
      | c :: rest => '\\' :: c :: unescaped limit rest
  | limit + 1, c :: rest => c :: unescaped limit rest
  | _, _ => []

/-- The text that a command inserts, without its backslashes. -/
def plainText (limit : Nat) (cs : Line) : Line :=
  match limit, cs with
  | limit + 1, '\\' :: rest =>
    match escape? rest, rest with
    | some (c, rest), _ => c :: plainText limit rest
    | none, 'n' :: rest => '\n' :: plainText limit rest
    | none, c :: rest => c :: plainText limit rest
    | none, [] => []
  | limit + 1, c :: rest => c :: plainText limit rest
  | _, _ => []

/-- How much of a text is in brackets, after the opening one, up to and with the closing one. -/
def bracketLength (cs : Line) : Nat :=
  let negated := if cs.head? == some '^' then 1 else 0
  let start := if (cs.drop negated).head? == some ']' then negated + 1 else negated
  start + inner cs.length (cs.drop start)
where
  /-- How much there is up to the closing bracket. -/
  inner (limit : Nat) (cs : Line) : Nat :=
    match limit, cs with
    | _, [] | 0, _ => 0
    | limit + 1, '[' :: mark :: rest =>
      if mark == ':' || mark == '.' || mark == '=' then
        let named := rest.takeWhile (· != mark)
        let closing := if (rest.drop named.length).take 2 == [mark, ']'] then 2 else 0
        2 + named.length + closing + inner limit (rest.drop (named.length + closing))
      else 1 + inner limit (mark :: rest)
    | limit + 1, c :: rest => if c == ']' then 1 else 1 + inner limit rest

/-- Characters in brackets, in which the letter `n` after a backslash is the end of a line. -/
def bracketed : Line → Line
  | '\\' :: 'n' :: rest => '\n' :: bracketed rest
  | c :: rest => c :: bracketed rest
  | [] => []

/-- Takes what stands before a mark, with the mark. In an expression a letter `n` after a backslash is the end of a
line, and a mark in brackets counts not. Nothing is told if no mark follows on the line. -/
def takeDelimited (mark : Char) (isPattern : Bool) (limit : Nat) (before : Line) : ReadingM (Option Line) := do
  match limit, ← peek with
  | 0, _ | _, none | _, some '\n' => pure none
  | limit + 1, some c =>
    drop 1
    if c == mark then pure (some before.reverse)
    else if c == '[' && isPattern then
      let rest := (← get).rest
      let length := bracketLength rest
      drop length
      takeDelimited mark isPattern limit ((bracketed (rest.take length)).reverse ++ '[' :: before)
    else if c == '\\' then
      match ← takeChar with
      | none => pure none
      | some 'n' => takeDelimited mark isPattern limit (if isPattern then '\n' :: before else 'n' :: '\\' :: before)
      | some d =>
        if d == '\n' || (d == mark && (isPattern || d != '&')) then takeDelimited mark isPattern limit (d :: before)
        else takeDelimited mark isPattern limit (d :: '\\' :: before)
    else takeDelimited mark isPattern limit (c :: before)

/-- Takes what stands before a mark, or fails. -/
def takeUntil (mark : Char) (isPattern : Bool) (fault : ScriptFault) : ReadingM Line := do
  match ← takeDelimited mark isPattern ((← get).rest.length + 1) [] with
  | some cs => pure cs
  | none => refuse fault

/-! ## Addresses -/

/-- What an expression with its flags is compared by. -/
def matcherOf (cs : Line) (ignoresCase hasLines : Bool) : ReadingM (Matcher × Nat) := do
  if cs.isEmpty then
    if ignoresCase || hasLines then refuse .emptyWithFlags else pure (⟨none, false, false⟩, 9)
  else
    match Regex.ofText? ⟨(← get).part.isExtended, true, false⟩ (unescaped cs.length cs) with
    | .ok parsed => pure (⟨some parsed.regex, ignoresCase, hasLines⟩, parsed.groups)
    | .error fault => refuse (.pattern fault)

/-- Takes the flags after an address, which tell whether case is ignored and whether lines count. -/
def takeAddressFlags (limit : Nat) (flags : Bool × Bool) : ReadingM (Bool × Bool) := do
  let _ ← takeWhile isBlankChar
  match limit, ← peek with
  | limit + 1, some 'I' =>
    drop 1
    takeAddressFlags limit (true, flags.2)
  | limit + 1, some 'M' =>
    drop 1
    takeAddressFlags limit (flags.1, true)
  | _, _ => pure flags

/-- Takes an address if one stands next; it may be one that only ends a range. -/
def takeAddress : ReadingM (Option Bound) := do
  match ← peek with
  | some '/' | some '\\' => do
    let mark ← match ← takeChar with
      | some '\\' => pure ((← takeChar).getD '/')
      | _ => pure '/'
    let cs ← takeUntil mark true .unterminatedAddress
    let (ignoresCase, hasLines) ← takeAddressFlags (← get).rest.length (false, false)
    pure (some (.address (.matching (← matcherOf cs ignoresCase hasLines).1)))
  | some '$' =>
    drop 1
    pure (some (.address .last))
  | some '+' =>
    drop 1
    let _ ← takeWhile isBlankChar
    pure (some (.further (← takeNumber)))
  | some '~' =>
    drop 1
    let _ ← takeWhile isBlankChar
    pure (some (.multiple (← takeNumber)))
  | some c =>
    if !c.isDigit then pure none
    else
      let first ← takeNumber
      let _ ← takeWhile isBlankChar
      match ← peek with
      | some '~' =>
        drop 1
        let _ ← takeWhile isBlankChar
        match ← takeNumber with
        | 0 => pure (some (.address (.line first)))
        | step => pure (some (.address (.every first step)))
      | _ => pure (some (.address (.line first)))
  | none => pure none

/-- Whether a range may begin before the first line. -/
def endsByMatch : Bound → Bool
  | .address (.matching _) => true
  | _ => false

/-- Takes the selection of lines that stands next. -/
def takeSelection : ReadingM Selection := do
  match ← takeAddress with
  | none => pure .all
  | some (.further _) | some (.multiple _) => refuse .badFirstAddress
  | some (.address first) =>
    let isZero := match first with
      | .line 0 => true
      | _ => false
    let _ ← takeWhile isBlankChar
    let selection ← match ← peek with
      | some ',' =>
        drop 1
        let _ ← takeWhile isBlankChar
        match ← takeAddress with
        | some last => pure (Selection.range first last)
        | none =>
          drop 1
          refuse .unexpectedComma
      | _ => pure (.one first)
    let isAllowed := match selection with
      | .range _ last => endsByMatch last
      | _ => false
    let _ ← takeWhile isBlankChar
    if isZero && !isAllowed then
      drop 1
      refuse .badLineZero
    else pure selection

/-! ## Commands -/

/-- Takes the text of a command up to the end of a line without a backslash before it. -/
def takeText (limit : Nat) (before : Line) : ReadingM Line := do
  match limit, ← takeChar with
  | 0, _ | _, none => pure before.reverse
  | limit + 1, some '\\' =>
    match ← takeChar with
    | some c => takeText limit (c :: '\\' :: before)
    | none =>
      match (← get).later with
      | [] => pure before.reverse
      | part :: later =>
        modify fun r => { r with part, later, rest := part.chars }
        takeText limit (if before.isEmpty then before else '\n' :: before)
  | limit + 1, some c => if c == '\n' then pure before.reverse else takeText limit (c :: before)

/-- How much is left of a script. -/
def lengthLeft : ReadingM Nat := do
  let r ← get
  pure (r.later.foldl (fun n part => n + part.chars.length) (r.rest.length + 1))

/-- Takes the text that a command inserts. -/
def takeInsertion : ReadingM Line := do
  let _ ← takeWhile isBlankChar
  let limit ← lengthLeft
  let ended (cs : Line) : Line := plainText cs.length cs ++ ['\n']
  match (← get).rest with
  | [] => refuse .noText
  | ['\\'] =>
    if (← get).later.isEmpty then
      drop 1
      pure []
    else pure (ended (← takeText limit []))
  | '\\' :: '\n' :: _ =>
    drop 2
    pure (ended (← takeText limit []))
  | '\\' :: c :: _ =>
    drop 2
    pure (ended (c :: (← takeText limit [])))
  | _ => pure (ended (← takeText limit []))

/-- Takes a label, which ends before a blank, a semicolon or the end of a block. -/
def takeLabel : ReadingM Line := do
  let _ ← takeWhile isBlankChar
  takeWhile fun c => !isSpaceChar c && c != ';' && c != '\x7d'

/-- Takes the path of a file, which ends with the line. -/
def takePath : ReadingM String := do
  let _ ← takeWhile isBlankChar
  let path ← takeWhile (· != '\n')
  drop 1
  if path.isEmpty then refuse .noFileName else pure (ofByteChars path)

/-- The parts of a replacement. -/
def pieces (limit : Nat) (cs : Line) : List Piece :=
  match limit, cs with
  | limit + 1, '&' :: rest => .group 0 :: pieces limit rest
  | limit + 1, '\\' :: rest =>
    match escape? rest, rest with
    | some (c, rest), _ => .chars [c] :: pieces limit rest
    | none, [] => []
    | none, c :: rest =>
      match c with
      | 'n' => .chars ['\n'] :: pieces limit rest
      | 'U' => .letters .upper :: pieces limit rest
      | 'L' => .letters .lower :: pieces limit rest
      | 'u' => .letters .upperOnce :: pieces limit rest
      | 'l' => .letters .lowerOnce :: pieces limit rest
      | 'E' => .letters .none :: pieces limit rest
      | c => (if c.isDigit then .group (c.toNat - 48) else .chars [c]) :: pieces limit rest
  | limit + 1, c :: rest => .chars [c] :: pieces limit rest
  | _, _ => []

/-- The greatest number of a group in a replacement. -/
def greatestGroup (ps : List Piece) : Nat :=
  ps.foldl (fun n p =>
    match p with
    | .group number => max n number
    | _ => n) 0

/-- The flags of a replacement. -/
structure SubstitutionFlags where
  number : Option Nat
  isGlobal : Bool
  prints : Bool
  ignoresCase : Bool
  hasLines : Bool
  target : Option String

/-- Takes the flags of a replacement and the end of the command. -/
def takeFlags (limit : Nat) (flags : SubstitutionFlags) : ReadingM SubstitutionFlags := do
  let _ ← takeWhile isBlankChar
  match limit, ← peek with
  | 0, _ | _, none | _, some '\x7d' | _, some '#' => pure flags
  | limit + 1, some c =>
    if c.isDigit then
      let number ← takeNumber
      if flags.number.isSome then refuse .repeatedNumber
      else if number == 0 then refuse .zeroNumber
      else takeFlags limit { flags with number := some number }
    else
      drop 1
      match c with
      | '\n' | ';' => pure flags
      | 'i' | 'I' => takeFlags limit { flags with ignoresCase := true }
      | 'm' | 'M' => takeFlags limit { flags with hasLines := true }
      | 'p' => if flags.prints then refuse .repeatedPrint else takeFlags limit { flags with prints := true }
      | 'g' => if flags.isGlobal then refuse .repeatedGlobal else takeFlags limit { flags with isGlobal := true }
      | 'w' => do pure { flags with target := some (← takePath) }
      | _ => refuse .unknownFlag

/-- Takes a replacement of matches. -/
def takeSubstitution : ReadingM Action := do
  let mark ← match ← takeChar with
    | some c => pure c
    | none => refuse .unterminatedSubstitution
  let pattern ← takeUntil mark true .unterminatedSubstitution
  let replacement ← takeUntil mark false .unterminatedSubstitution
  let flags ← takeFlags ((← get).rest.length + 1) ⟨none, false, false, false, false, none⟩
  let replacement := pieces replacement.length replacement
  let (matcher, groups) ← matcherOf pattern flags.ignoresCase flags.hasLines
  if groups < greatestGroup replacement then refuse (.badReference (greatestGroup replacement))
  else
    pure (.substitute
      { matcher, replacement
        first := flags.number.getD 1
        isGlobal := flags.isGlobal
        prints := flags.prints
        target := flags.target })

/-- Takes a replacement of characters. -/
def takeReplacement : ReadingM Action := do
  let mark ← match ← takeChar with
    | some c => pure c
    | none => refuse .unterminatedReplacement
  let old ← takeUntil mark false .unterminatedReplacement
  let new ← takeUntil mark false .unterminatedReplacement
  let old := plainText old.length old
  let new := plainText new.length new
  if old.length != new.length then refuse .unequalLengths
  else
    takeEnd
    pure (.replaceChars (old.zip new))

/-- Takes the number after a command, if there is one, and the end of the command. -/
def takeArgument : ReadingM (Option Nat) := do
  let _ ← takeWhile isBlankChar
  let number ← match ← peek with
    | some c => if c.isDigit then do pure (some (← takeNumber)) else pure none
    | none => pure none
  takeEnd
  pure number

/-- Whether a selection is a range. -/
def isRange : Selection → Bool
  | .range _ _ => true
  | _ => false

/-- The action that a letter alone stands for. -/
def letterAction? (c : Char) : Option Action :=
  match c with
  | '=' => some .number
  | 'd' => some .delete
  | 'D' => some .deleteFirst
  | 'F' => some .fileName
  | 'g' => some .take
  | 'G' => some .takeMore
  | 'h' => some .hold
  | 'H' => some .holdMore
  | 'n' => some .next
  | 'N' => some .appendNext
  | 'p' => some .print
  | 'P' => some .printFirst
  | 'x' => some .exchange
  | 'z' => some .clear
  | _ => none

/-- Takes what a command does, after its letter. -/
def takeAction (selection : Selection) (c : Char) : ReadingM Action := do
  let place := (← get).script.commands.size
  match c with
  | '\x7b' =>
    modify fun r => { r with opened := place :: r.opened }
    pure .block
  | '\x7d' =>
    match (← get).opened with
    | [] => refuse .unexpectedEnd
    | start :: opened =>
      match selection with
      | .all =>
        takeEnd
        modify fun r => { r with opened, script := { r.script with blocks := (start, place) :: r.script.blocks } }
        pure .nothing
      | _ => refuse .endAddress
  | ':' =>
    match selection with
    | .all =>
      let label ← takeLabel
      if label.isEmpty then refuse .noLabel
      else
        modify fun r => { r with script := { r.script with labels := r.script.labels ++ [(label, place)] } }
        pure .nothing
    | _ => refuse .labelAddress
  | 'a' => do pure (.append (← takeInsertion))
  | 'i' => do pure (.insert (← takeInsertion))
  | 'c' => do pure (.change (← takeInsertion))
  | 'b' => do pure (.jump .always (← takeLabel))
  | 't' => do pure (.jump .ifReplaced (← takeLabel))
  | 'T' => do pure (.jump .unlessReplaced (← takeLabel))
  | 'q' | 'Q' =>
    if isRange selection then refuse .oneAddress
    else do pure (.quit (c == 'q') ((← takeArgument).getD 0))
  | 'l' => do pure (.list (← takeArgument))
  | 'r' => do pure (.readFile (← takePath))
  | 'R' => do pure (.readLine (← takePath))
  | 'w' => do pure (.writeTo (← takePath))
  | 'W' => do pure (.writeFirst (← takePath))
  | 's' => takeSubstitution
  | 'y' => takeReplacement
  | 'v' => do
    let version ← takeLabel
    if version.headD '0' ≤ '4' then pure .nothing else refuse .newerVersion
  | c =>
    match letterAction? c with
    | some action =>
      takeEnd
      pure action
    | none => refuse (.unknownCommand c)

/-- Takes a comment. At the very beginning of a script it may say that lines are printed only on command. -/
def takeComment : ReadingM Unit := do
  let r ← get
  let isStart := r.isFirst && r.part.chars.length == r.rest.length + 1
  let text ← takeWhile (· != '\n')
  if isStart && text == ['n'] then modify fun r => { r with script := { r.script with isQuiet := true } }

/-- Takes a command. -/
def takeCommand : ReadingM Unit := do
  let selection ← takeSelection
  let _ ← takeWhile isBlankChar
  let negated := (← peek) == some '!'
  if negated then
    drop 1
    let _ ← takeWhile isBlankChar
    if (← peek) == some '!' then
      drop 1
      refuse .repeatedNegation
  match ← takeChar, selection with
  | none, _ => refuse .missingCommand
  | some '#', .all => takeComment
  | some '#', _ => refuse .commentAddress
  | some c, selection =>
    let action ← takeAction selection c
    let command := if c == 'v' then ⟨.all, false, action⟩ else ⟨selection, negated, action⟩
    modify fun r => { r with script := { r.script with commands := r.script.commands.push command } }

/-- Takes the commands of all parts. -/
def takeCommands (limit : Nat) : ReadingM Unit := do
  let _ ← takeWhile fun c => isSpaceChar c || c == ';'
  match limit, ← peek with
  | 0, _ => pure ()
  | limit + 1, some _ => do
    takeCommand
    takeCommands limit
  | limit + 1, none =>
    match (← get).later with
    | [] => unless (← get).opened.isEmpty do refuse .unmatchedBlock
    | part :: later =>
      modify fun r => { r with part, later, rest := part.chars, isFirst := false }
      takeCommands limit

/-- The script that parts make. -/
def Script.ofParts (parts : List Part) : Except Misreading Script := do
  let empty : Script := ⟨#[], [], [], false⟩
  match parts with
  | [] => .ok empty
  | part :: later =>
    let limit := parts.foldl (fun n part => n + part.chars.length + 1) 1
    let ((), r) ← (takeCommands limit).run ⟨part, part.chars, later, true, empty, []⟩
    .ok r.script

end Rebuild.Tool.Editing
