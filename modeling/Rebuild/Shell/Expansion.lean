import Rebuild.Shell.Pattern
import Rebuild.Shell.State
import Rebuild.User

/-!
# Expansion of words

The pieces of a word expand to stretches of bits: characters, quoted or not, with the places where a quotation stands
and where an argument ends. A stretch that a parameter or a substitution brought in without quotes is divided into
fields at the separators; an unquoted pattern becomes the paths that match it, if there are any.

What a command substitution comes to is a parameter of this module.
-/

namespace Rebuild.Shell

/-- A part of an expanded word. -/
inductive Bit where
  | char (c : Char) (quoted : Bool)
  /-- A quotation, which makes a field even if it is empty. -/
  | quotation
  /-- The end of an argument. -/
  | cut
deriving DecidableEq, Repr

/-- How a stretch is divided into fields. -/
inductive Division where
  | none
  /-- At the separators. -/
  | fields
  /-- At the ends of arguments. -/
  | arguments
deriving DecidableEq, Repr

/-- Bits that are divided in one way. -/
structure Stretch where
  bits : List Bit
  division : Division
deriving DecidableEq, Repr

/-- What a command substitution comes to: the text that the commands wrote. -/
abbrev Substituter := Command → ShellM String

/-! ## Bits -/

/-- The bits of a text. -/
def textBits (quoted : Bool) (text : String) : List Bit :=
  text.toList.map (.char · quoted)

/-- The stretch of a value that was brought in. -/
def valueStretch (quoted : Bool) (text : String) : Stretch :=
  ⟨textBits quoted text, if quoted then .none else .fields⟩

/-- The characters of bits, each with a note whether it is quoted; between arguments stands a joiner. -/
def markedChars (joiner : String) (bits : List Bit) : List (Char × Bool) :=
  bits.flatMap fun
    | .char c quoted => [(c, quoted)]
    | .quotation => []
    | .cut => joiner.toList.map (·, false)

/-- The bytes of marked characters. -/
def markedBytes (cs : List (Char × Bool)) : Marked :=
  cs.flatMap fun (c, quoted) => (Text.byteChars c.toString).map (·, quoted)

/-- The bits of stretches. -/
def bitsOf (stretches : List Stretch) : List Bit :=
  stretches.flatMap Stretch.bits

/-- The text of stretches that are not divided. -/
def textOf (joiner : String) (stretches : List Stretch) : String :=
  String.ofList ((markedChars joiner (bitsOf stretches)).map Prod.fst)

/-- The pattern that stretches make. -/
def patternOf (joiner : String) (stretches : List Stretch) : Marked :=
  markedBytes (markedChars joiner (bitsOf stretches))

/-- The stretch of the value of a parameter, if it is set. In a word that makes fields, the arguments are kept apart. -/
def parameterStretch? (s : State) (isFull quoted : Bool) (parameter : String) : Option Stretch :=
  let apart (quoted : Bool) (division : Division) : Stretch :=
    ⟨((s.args.map (textBits quoted)).intersperse [.cut]).flatten, division⟩
  if (parameter == "@" || parameter == "*") && isFull && !quoted && (s.lookup? "IFS").isSome then
    some (apart false .fields)
  else if parameter == "@" && isFull && quoted then some (apart true (if s.args.isEmpty then .none else .arguments))
  else (s.value? parameter).map (valueStretch quoted)

/-- The bytes of a stretch. -/
def Stretch.bytes (stretch : Stretch) : ValueBytes :=
  stretch.bits.flatMap fun
    | .char c _ => (Text.byteChars c.toString).map some
    | .quotation => []
    | .cut => [none]

/-- A stretch with other bytes, which is divided in the same way. -/
def Stretch.withBytes (stretch : Stretch) (quoted : Bool) (bytes : ValueBytes) : Stretch :=
  let arguments := (bytes.splitOnP Option.isNone).map fun argument => Text.ofByteChars (argument.filterMap id)
  ⟨((arguments.map (textBits quoted)).intersperse [.cut]).flatten, stretch.division⟩

/-! ## Home directories -/

/-- The home directory of the user with a name; without a name that of the shell's user. -/
def homeOf? (s : State) (name : String) : Option String :=
  if name.isEmpty then s.valueOf? "HOME" else (User.named? name).map User.home

/-- The name after a tilde up to a slash, if asked for up to a colon, or to the end of the word, and how many pieces it
takes up. What is quoted or substituted is no part of a name. -/
def userName? (afterColons : Bool) (name : String) (count : Nat) : Word → Option (String × Nat)
  | [] => some (name, count)
  | .text false text :: rest =>
    if text == "/" || (afterColons && text == ":") then some (name, count)
    else userName? afterColons (name ++ text) (count + 1) rest
  | _ => none

/-- A word in which a tilde at the beginning, and if asked for after each colon, becomes with the name that follows it a
home directory. The first pieces, which were part of a name, are left out. -/
def withHomeFrom (s : State) (afterColons isStart : Bool) (left : Nat) : Word → Word
  | [] => []
  | piece :: rest =>
    match left with
    | left + 1 => withHomeFrom s afterColons false left rest
    | 0 =>
      match piece with
      | .text false "~" =>
        let found := if isStart then userName? afterColons "" 0 rest else none
        match found.bind fun (name, count) => (homeOf? s name).map (·, count) with
        | some (home, count) => .text true home :: withHomeFrom s afterColons false count rest
        | none => piece :: withHomeFrom s afterColons false 0 rest
      | .text false ":" => piece :: withHomeFrom s afterColons afterColons 0 rest
      | piece => piece :: withHomeFrom s afterColons false 0 rest

/-- A word in which tildes stand for home directories. -/
def withHome (s : State) (afterColons : Bool) (word : Word) : Word :=
  withHomeFrom s afterColons true 0 word

/-! ## Pieces -/

section Pieces

variable (substitute : Substituter)

/-- The value of an arithmetic expression; the variables that it assigns get their values. -/
def arithmeticValue (text : String) : ShellM Int := do
  let s ← get
  match (Expression.ofText text).eval s.valueOf? [] with
  | .error .overflow => throw (.killed Signal.arithmetic)
  | .error fault => ShellM.fail (fault.message text) 2
  | .ok (n, assigned) =>
    for (name, value) in assigned.reverse do
      ShellM.assign name (toString value)
    pure n

/-- Complains of a parameter that is not set. -/
def failUnset (parameter : String) (colon : Bool) (message : Option String) : ShellM α :=
  ShellM.fail (match message with
    | some text => s!"{parameter}: {text}"
    | none => if colon then s!"{parameter}: parameter not set or null" else s!"{parameter}: parameter not set") 2

/-- The stretch of the value of a parameter, which has to be set if the shell is strict. -/
def checkedStretch (isFull quoted : Bool) (parameter : String) : ShellM Stretch := do
  let s ← get
  match parameterStretch? s isFull quoted parameter with
  | some stretch => pure stretch
  | none => if s.has 'u' then failUnset parameter false none else pure (valueStretch quoted "")

/-- The value of a parameter, if it is set and, where that counts, not empty. -/
def usableStretch? (isFull quoted colon : Bool) (parameter : String) : ShellM (Option Stretch) := do
  pure ((parameterStretch? (← get) isFull quoted parameter).filter fun stretch => !(colon && stretch.bits.isEmpty))

/-- Whether a stretch is a literal text without quotes. -/
def Stretch.isLiteral (stretch : Stretch) : Bool :=
  stretch.division == .none && stretch.bits.all fun
    | .char _ isQuoted => !isQuoted
    | _ => false

/-- Stretches of which adjacent literal texts are one, and are divided like values. -/
def divideLiterals : List Stretch → List Stretch
  | [] => []
  | stretch :: rest =>
    match stretch.isLiteral, divideLiterals rest, rest with
    | true, after :: others, next :: _ =>
      if next.isLiteral then ⟨stretch.bits ++ after.bits, .fields⟩ :: others
      else ⟨stretch.bits, .fields⟩ :: after :: others
    | true, others, _ => ⟨stretch.bits, .fields⟩ :: others
    | false, others, _ => stretch :: others

/-- Stretches in a parameter, all of which are quoted if the parameter is. -/
def insideStretches (quoted : Bool) (stretches : List Stretch) : List Stretch :=
  if quoted then
    stretches.map fun stretch =>
      { stretch with bits := stretch.bits.map fun
          | .char c _ => .char c true
          | bit => bit }
  else divideLiterals stretches

mutual

/-- The stretches of a piece of a word. -/
def expandPiece (isFull : Bool) : Piece → ShellM (List Stretch)
  | .text quoted text => pure [⟨if quoted then .quotation :: textBits true text else textBits false text, .none⟩]
  | .substitution quoted command => do pure [valueStretch quoted (← substitute command)]
  | .parameter quoted parameter use => expandUse isFull quoted parameter use
  | .arithmetic quoted expression => do
    let stretches ← expandPieces false expression
    let n ← arithmeticValue (textOf (← get).joiner stretches)
    pure [valueStretch quoted (toString n)]

/-- The stretches of the pieces of a word. -/
def expandPieces (isFull : Bool) : List Piece → ShellM (List Stretch)
  | [] => pure []
  | piece :: pieces => do
    let first ← expandPiece isFull piece
    let rest ← expandPieces isFull pieces
    pure (first ++ rest)

/-- The stretches of what a parameter is used for. -/
def expandUse (isFull quoted : Bool) (parameter : String) : Use → ShellM (List Stretch)
  | .value => do pure [← checkedStretch isFull quoted parameter]
  | .filledValue => do
    match ← usableStretch? isFull quoted true parameter with
    | some stretch => pure [stretch]
    | none => if (← get).has 'u' then failUnset parameter false none else pure []
  | .length => do
    let stretch ← checkedStretch false quoted parameter
    let length := (stretch.bits.map fun
      | .char c _ => Text.byteLength c.toString
      | .quotation => 0
      | .cut => 1).foldl (· + ·) 0
    pure [valueStretch quoted (toString length)]
  | .orElse colon word => do
    match ← usableStretch? isFull quoted colon parameter with
    | some stretch => pure [stretch]
    | none => do pure (insideStretches quoted (← expandPieces isFull word))
  | .orAssign colon word => do
    match ← usableStretch? isFull quoted colon parameter with
    | some stretch => pure [stretch]
    | none =>
      let stretches ← expandPieces false word
      if isName parameter then
        ShellM.assign parameter (textOf (← get).joiner stretches)
        pure [← checkedStretch isFull quoted parameter]
      else ShellM.fail s!"{parameter}: bad variable name" 2
  | .orFail colon word => do
    match ← usableStretch? isFull quoted colon parameter with
    | some stretch => pure [stretch]
    | none =>
      let stretches ← expandPieces false word
      let text := textOf (← get).joiner stretches
      failUnset parameter colon (if word.isEmpty then none else some text)
  | .instead colon word => do
    match ← usableStretch? isFull quoted colon parameter with
    | some _ => do pure (insideStretches quoted (← expandPieces isFull word))
    | none => pure []
  | .dropFirst longest pattern => do
    match ← usableStretch? isFull quoted false parameter with
    | none => do pure [← checkedStretch isFull quoted parameter]
    | some stretch =>
      let stretches ← expandPieces false pattern
      pure [stretch.withBytes quoted (dropMatchingFirst longest (patternOf (← get).joiner stretches) stretch.bytes)]
  | .dropLast longest pattern => do
    match ← usableStretch? isFull quoted false parameter with
    | none => do pure [← checkedStretch isFull quoted parameter]
    | some stretch =>
      let stretches ← expandPieces false pattern
      pure [stretch.withBytes quoted (dropMatchingLast longest (patternOf (← get).joiner stretches) stretch.bytes)]
  | .unknown => ShellM.fail "Bad substitution" 2

end

/-- A word without the quotation marks that hold nothing but the arguments, which may be none. -/
def bareArguments : Word → Word
  | .text true "" :: .parameter true "@" .value :: .text true "" :: pieces =>
    .parameter true "@" .value :: bareArguments pieces
  | piece :: pieces => piece :: bareArguments pieces
  | [] => []

/-! ## Fields -/

/-- How far the division of a word into fields is. -/
structure Dividing where
  /-- The fields that are finished, the last first. -/
  fields : List (List Bit)
  /-- The bits of the field that is not finished, the last first. -/
  current : List Bit
  /-- Whether blank separators are being passed over after a field. -/
  isSpacing : Bool
  /-- The division of the last stretch that was divided. -/
  last : Division

/-- Whether a character is a separator that counts only once however often it stands there. -/
def isBlankSeparator (c : Char) : Bool :=
  c == ' ' || c == '\t' || c == '\n'

/-- Goes on to the next bit of a stretch, after a stretch that was divided in another way. -/
def Dividing.step (separators : List Char) (division before : Division) (d : Dividing) (bit : Bit) : Dividing :=
  let isSeparator := match bit with
    | .char c _ => division == .fields && separators.contains c
    | .cut => true
    | .quotation => false
  let isBlank := isSeparator && match bit with
    | .char c _ => isBlankSeparator c
    | _ => true
  if d.isSpacing then
    if isBlank then { d with current := [] }
    else if isSeparator then { d with current := [], isSpacing := false }
    else { d with current := [bit], isSpacing := false }
  else if isSeparator then
    let isSpacing := isBlank && division != .arguments && before != .arguments
    if d.current.isEmpty && isSpacing then d
    else { d with fields := d.current.reverse :: d.fields, current := [], isSpacing }
  else { d with current := bit :: d.current }

/-- Goes on to the next stretch. -/
def Dividing.add (separators : List Char) (d : Dividing) (stretch : Stretch) : Dividing :=
  match stretch.division with
  | .none => { d with current := stretch.bits.reverse ++ d.current }
  | division =>
    let after := stretch.bits.foldl (Dividing.step separators division d.last) { d with isSpacing := false }
    { after with last := division }

/-- The fields of stretches. -/
def fieldsOf (separators : List Char) (stretches : List Stretch) : List (List Bit) :=
  let d := stretches.foldl (Dividing.add separators) ⟨[], [], false, .none⟩
  let all := if d.current.isEmpty && d.last != .arguments then d.fields else d.current.reverse :: d.fields
  all.reverse

/-! ## Paths -/

/-- The names in a directory that fit a part of a path. -/
def namesThatFit (d : Disk) (directory : String) (part : List (Char × Bool)) : List String :=
  if !isPattern part then [String.ofList (part.map Prod.fst)]
  else
    match d.find directory with
    | .error _ => []
    | .ok place =>
      let pattern := markedBytes part
      ([".", ".."] ++ d.names place).filter fun name =>
        matchesPattern pattern (Text.byteChars name) && (!name.startsWith "." || part.head?.any (·.1 == '.'))

/-- The paths that match the parts of a pattern, after a path that leads to the first. -/
def pathsAfter (d : Disk) (start : String) : List (List (Char × Bool)) → List String
  | [] => if (d.getName start).toOption.isSome then [start] else []
  | part :: parts =>
    let separator := if parts.isEmpty then "" else "/"
    (namesThatFit d (if start.isEmpty then "." else start) part).flatMap fun name =>
      pathsAfter d (start ++ name ++ separator) parts

/-- The paths that match a pattern, in the order of their bytes; the pattern itself if there are none. -/
def pathsOf (d : Disk) (pattern : List (Char × Bool)) : List String :=
  let text := String.ofList (pattern.map Prod.fst)
  if !isPattern pattern then [text]
  else
    match (pathsAfter d "" (pattern.splitOnP (·.1 == '/'))).mergeSort fun a b => a ≤ b with
    | [] => [text]
    | paths => paths

/-! ## Words -/

/-- A stretch with the characters divided into bytes. -/
def Stretch.spelled (stretch : Stretch) : Stretch :=
  { stretch with bits := stretch.bits.flatMap fun
      | .char c quoted => (Text.strayChars c.toString).map (.char · quoted)
      | bit => [bit] }

/-- The fields of a word. -/
def expandWord (word : Word) : ShellM (List String) := do
  let stretches ← expandPieces substitute true (bareArguments (withHome (← get) false word))
  let s ← get
  let stretches := if s.hasByteSeparators then stretches.map Stretch.spelled else stretches
  let fields := (fieldsOf s.separators stretches).map (markedChars "")
  pure (fields.flatMap fun field =>
    if s.has 'f' then [Text.joined (String.ofList (field.map Prod.fst))]
    else (pathsOf s.process.disk field).map Text.joined)

/-- The fields of words. -/
def expandWords : List Word → ShellM (List String)
  | [] => pure []
  | word :: words => do
    let first ← expandWord substitute word
    let rest ← expandWords words
    pure (first ++ rest)

/-- The text of a word that is not divided. -/
def expandText (afterColons : Bool) (word : Word) : ShellM String := do
  let stretches ← expandPieces substitute false (withHome (← get) afterColons word)
  pure (textOf (← get).joiner stretches)

/-- The pattern that a word is. -/
def expandPattern (word : Word) : ShellM Marked := do
  let stretches ← expandPieces substitute false (withHome (← get) false word)
  pure (patternOf (← get).joiner stretches)

end Pieces

end Rebuild.Shell
