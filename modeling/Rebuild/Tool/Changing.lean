import Rebuild.Tool.Amount
import Rebuild.Tool.Input

/-!
# Changing bytes

`tr` changes the bytes of one set to those of another, drops them, or makes one of several that follow each other. A set
is written as bytes, ranges, classes and repeated bytes.
-/

namespace Rebuild.Tool

open Text

/-! ## Sets -/

/-- A part of a set. A byte that is repeated without a number fills the set up. -/
inductive SetPart where
  | byte (c : Char)
  | range (first last : Char)
  | named (name : String) (members : Line)
  | alike (c : Char)
  | repeated (c : Char) (count : Nat)
  | filling (c : Char)
deriving DecidableEq, Repr

/-- Why a set cannot be read. -/
inductive SetFault where
  | reversed (first last : Char)
  | badClass (name : Line)
  | noClass
  | noAlike
  | badAlike (text : Line)
  | badCount (text : Line)
deriving DecidableEq, Repr

/-- A byte as a complaint shows it. -/
def setByteText (c : Char) : String :=
  if isPrintableByte c then c.toString
  else "\\" ++ String.ofList ([c.toNat / 64, c.toNat / 8 % 8, c.toNat % 8].flatMap (Nat.toDigits 8))

/-- Bytes as a complaint shows them. -/
def setByteTexts (cs : Line) : String :=
  String.join (cs.map fun c => if 7 ≤ c.toNat && c.toNat ≤ 13 then byteEscape c else setByteText c)

/-- The wording of why a set cannot be read. -/
def SetFault.text : SetFault → String
  | .reversed first last =>
    s!"range-endpoints of '{setByteText first}-{setByteText last}' are in reverse collating sequence order"
  | .badClass name => "invalid character class " ++ plainlyQuoted (setByteTexts name)
  | .noClass => "missing character class name '[::]'"
  | .noAlike => "missing equivalence class character '[==]'"
  | .badAlike text => setByteTexts text ++ ": equivalence class operand must be a single character"
  | .badCount text => "invalid repeat count " ++ plainlyQuoted (setByteTexts text) ++ " in [c*n] construct"

/-- The bytes of a class with a name, in their order. -/
def classBytes? (name : String) : Option Line :=
  let p? : Option (Char → Bool) := match name with
    | "alnum" => some Char.isAlphanum
    | "alpha" => some Char.isAlpha
    | "blank" => some fun c => c == ' ' || c == '\t'
    | "cntrl" => some fun c => c.toNat < 32 || c.toNat == 127
    | "digit" => some Char.isDigit
    | "graph" => some fun c => isPrintableByte c && c != ' '
    | "lower" => some Char.isLower
    | "print" => some isPrintableByte
    | "punct" => some fun c => isPrintableByte c && c != ' ' && !c.isAlphanum
    | "space" => some isSpaceByte
    | "upper" => some Char.isUpper
    | "xdigit" => some fun c => c.isDigit || ('a' ≤ c && c ≤ 'f') || ('A' ≤ c && c ≤ 'F')
    | _ => none
  p?.map fun p => ((List.range 256).map Char.ofNat).filter p

/-! ## Escapes -/

/-- A byte of a set, and whether a backslash stood before it. -/
structure SetByte where
  c : Char
  isEscaped : Bool := false
deriving DecidableEq, Repr, Inhabited

/-- The byte that up to three octal digits spell, how many of them were taken, and whether a third did not fit. -/
def octalFront (cs : Line) : Nat × Nat × Bool :=
  let isOctal (c : Char) : Bool := '0' ≤ c && c ≤ '7'
  let digits := ((cs.take 3).takeWhile isOctal).map fun c => c.toNat - 48
  match digits with
  | [a, b, c] => if 64 * a + 8 * b + c < 256 then (64 * a + 8 * b + c, 3, false) else (8 * a + b, 2, true)
  | [a, b] => (8 * a + b, 2, false)
  | [a] => (a, 1, false)
  | _ => (0, 0, false)

/-- The bytes of a set with its escapes taken, and warnings about them. -/
def unescapedSet (limit : Nat) (cs : Line) : List SetByte × List String :=
  match limit, cs with
  | 0, _ | _, [] => ([], [])
  | limit + 1, '\\' :: rest =>
    let single (c : Char) (after : Line) : List SetByte × List String :=
      let (bytes, warnings) := unescapedSet limit after
      (⟨c, true⟩ :: bytes, warnings)
    match rest with
    | [] => ([⟨'\\', false⟩], ["warning: an unescaped backslash at end of string is not portable"])
    | 'a' :: after => single '\x07' after
    | 'b' :: after => single '\x08' after
    | 'f' :: after => single '\x0c' after
    | 'n' :: after => single '\n' after
    | 'r' :: after => single '\r' after
    | 't' :: after => single '\t' after
    | 'v' :: after => single '\x0b' after
    | c :: after =>
      if '0' ≤ c && c ≤ '7' then
        let (n, count, isCut) := octalFront rest
        let (bytes, warnings) := unescapedSet limit (rest.drop count)
        let digits := String.ofList (rest.take 2)
        let third := String.ofList ((rest.drop 2).take 1)
        let warning := s!"warning: the ambiguous octal escape \\{digits}{third} is being\n" ++
          s!"\tinterpreted as the 2-byte sequence \\0{digits}, {third}"
        (⟨Char.ofNat n, true⟩ :: bytes, if isCut then warning :: warnings else warnings)
      else single c after
  | limit + 1, c :: rest =>
    let (bytes, warnings) := unescapedSet limit rest
    (⟨c, false⟩ :: bytes, warnings)

/-! ## Reading sets -/

/-- Whether bytes begin with a byte that is not escaped. -/
def startsPlain (c : Char) (bytes : List SetByte) : Bool :=
  bytes.head? == some ⟨c, false⟩

/-- What stands before a mark and a closing bracket, and what follows them. -/
def upToMark? (mark : Char) : List SetByte → Option (List SetByte × List SetByte)
  | a :: b :: rest =>
    if a == ⟨mark, false⟩ && b == ⟨']', false⟩ then some ([], rest)
    else (upToMark? mark (b :: rest)).map fun (inner, after) => (a :: inner, after)
  | _ => none

/-- Whether bytes are a star, digits and a closing bracket. -/
def isStarred : List SetByte → Bool
  | star :: rest => star == ⟨'*', false⟩ && startsPlain ']' (rest.dropWhile fun b => b.c.isDigit)
  | [] => false

/-- The repeated byte after an opening bracket, and what follows it. -/
def repeatedPart? (bytes : List SetByte) : Except SetFault (Option (SetPart × List SetByte)) :=
  match bytes with
  | b :: star :: rest =>
    let inner := rest.takeWhile fun b => b.c != ']' && !b.isEscaped
    let count := inner.map SetByte.c
    let after := rest.drop inner.length
    if star != ⟨'*', false⟩ || !startsPlain ']' after then .ok none
    else if count.isEmpty then .ok (some (.filling b.c, after.drop 1))
    else
      let isOctal := count.head? == some '0'
      let isDigit (c : Char) : Bool := if isOctal then '0' ≤ c && c ≤ '7' else c.isDigit
      let n : Nat := count.foldl (fun n c => (if isOctal then 8 else 10) * n + (c.toNat - 48)) 0
      if !count.all isDigit || greatestInteger.toNat < n then .error (.badCount count)
      else .ok (some (if n == 0 then .filling b.c else .repeated b.c n, after.drop 1))
  | _ => .ok none

/-- The class that a name between an opening bracket with a mark and its end is, if it is one. -/
def markedPart? (mark : Char) (inner : List SetByte) : Except SetFault (Option SetPart) :=
  let name := inner.map SetByte.c
  if mark == ':' then
    if name.isEmpty then .error .noClass
    else .ok ((classBytes? (String.ofList name)).map (.named (String.ofList name)))
  else
    match name with
    | [] => .error .noAlike
    | [c] => .ok (some (.alike c))
    | _ => .ok none

/-- The construct that begins with a bracket, and what follows it. -/
def bracketPart? (bytes : List SetByte) : Except SetFault (Option (SetPart × List SetByte)) :=
  match bytes with
  | mark :: rest =>
    if mark == ⟨':', false⟩ || mark == ⟨'=', false⟩ then
      match upToMark? mark.c rest with
      | none => repeatedPart? bytes
      | some (inner, after) => do
        match ← markedPart? mark.c inner with
        | some part => pure (some (part, after))
        | none =>
          if isStarred rest then repeatedPart? bytes
          else
            let name := inner.map SetByte.c
            throw (if mark.c == ':' then .badClass name else .badAlike name)
    else repeatedPart? bytes
  | [] => .ok none

/-- The parts of a set, at most so many. -/
def setParts (limit : Nat) (bytes : List SetByte) : Except SetFault (List SetPart) :=
  match limit, bytes with
  | 0, _ | _, [] => .ok []
  | limit + 1, b :: rest => do
    let isLong := 2 ≤ rest.length
    let construct? ← if isLong && b == ⟨'[', false⟩ then bracketPart? rest else .ok none
    match construct?, rest with
    | some (part, after), _ => pure (part :: (← setParts limit after))
    | none, dash :: last :: after =>
      if dash == ⟨'-', false⟩ then
        if last.c < b.c then throw (.reversed b.c last.c)
        pure (.range b.c last.c :: (← setParts limit after))
      else pure (.byte b.c :: (← setParts limit rest))
    | none, rest => pure (.byte b.c :: (← setParts limit rest))

/-! ## What sets hold -/

namespace SetPart

/-- How many bytes a part has. -/
def length : SetPart → Nat
  | .byte _ | .alike _ => 1
  | .range first last => last.toNat + 1 - first.toNat
  | .named _ members => members.length
  | .repeated _ count => count
  | .filling _ => 0

/-- The bytes of a part, at most so many. -/
def bytes (limit : Nat) : SetPart → Line
  | .byte c | .alike c => [c]
  | .range first last => (List.range (last.toNat + 1 - first.toNat)).map fun i => Char.ofNat (first.toNat + i)
  | .named _ members => members
  | .repeated c count => List.replicate (min count limit) c
  | .filling _ => []

/-- Whether a part is a class of letters in one case. -/
def isCase : SetPart → Bool
  | .named name _ => name == "upper" || name == "lower"
  | _ => false

/-- Whether a part is a class. -/
def isNamed : SetPart → Bool
  | .named _ _ => true
  | _ => false

/-- Whether a part fills a set up. -/
def isFilling : SetPart → Bool
  | .filling _ => true
  | _ => false

/-- Whether a part stands for bytes that are alike. -/
def isAlike : SetPart → Bool
  | .alike _ => true
  | _ => false

/-- The byte that fills up a set that ends with this part. -/
def last : SetPart → Char
  | .byte c | .alike c | .repeated c _ | .filling c => c
  | .range _ last => last
  | .named _ members => members.getLast?.getD ' '

end SetPart

/-- How many bytes parts have. -/
def partsLength (parts : List SetPart) : Nat :=
  (parts.map SetPart.length).foldl (· + ·) 0

/-- The bytes of parts, of repeated bytes at most so many. -/
def partsBytes (limit : Nat) (parts : List SetPart) : Line :=
  parts.flatMap (SetPart.bytes limit)

/-- The places at which classes of letters in one case begin. -/
def caseStarts (place : Nat) : List SetPart → List Nat
  | [] => []
  | part :: parts =>
    let rest := caseStarts (place + part.length) parts
    if part.isCase then place :: rest else rest

/-- All bytes that are not among some. -/
def otherBytes (cs : Line) : Line :=
  ((List.range 256).map Char.ofNat).filter fun c => !cs.contains c

/-! ## Changing -/

/-- How bytes are changed. -/
structure ChangeStyle where
  complements : Bool
  deletes : Bool
  squeezes : Bool
  truncates : Bool

/-- The most bytes of a set that are looked at. -/
def setLimit : Nat := 1048576

/-- The second set filled up to a length. -/
def filledParts (length : Nat) (parts : List SetPart) : List SetPart :=
  if (parts.filter SetPart.isFilling).length == 1 && partsLength parts ≤ length then
    parts.map fun part => match part with
      | .filling c => .repeated c (length - partsLength parts)
      | part => part
  else parts

/-- What is wrong with the sets of a change, or the second set as long as the first. -/
def matchedParts (s : ChangeStyle) (one two : List SetPart) (length : Nat) : Except String (List SetPart) := do
  if two.any SetPart.isAlike then throw "[=c=] expressions may not appear in string2 when translating"
  if two.any fun part => part.isNamed && !part.isCase then
    throw "when translating, the only character classes that may appear in\nstring2 are 'upper' and 'lower'"
  let starts := caseStarts 0 one
  if !s.complements && (caseStarts 0 two).any fun place => place ≤ partsLength one && !starts.contains place then
    throw "misaligned [:upper:] and/or [:lower:] construct"
  let known := partsLength two
  let two ← if length ≤ known || s.truncates then pure two
    else
      match two.getLast? with
      | none => throw "when not truncating set1, string2 must be non-empty"
      | some part =>
        if known == 0 then throw "when not truncating set1, string2 must be non-empty"
        if part.isNamed then
          throw ("when translating with string1 longer than string2,\n" ++
            "the latter string must not end with a character class")
        pure (two ++ [.repeated part.last (length - known)])
  let bytes := partsBytes setLimit two
  if s.complements && one.any SetPart.isNamed &&
      !(partsLength two == length && !bytes.isEmpty && bytes.all fun c => some c == bytes.head?) then
    throw ("when translating with complemented character classes,\n" ++
      "string2 must map all characters in the domain to one")
  pure two

/-- Bytes in which runs of one byte of a set are that byte. -/
def squeezeRuns (p : Char → Bool) (cs : Line) : Line :=
  (cs.foldl (fun (written : Line) c => if p c && written.head? == some c then written else c :: written) []).reverse

/-- The bytes of a set as a test. -/
def memberOf (cs : Line) : Char → Bool :=
  let table : Array Bool := cs.foldl (fun table c => table.setIfInBounds c.toNat true) (Array.replicate 256 false)
  fun c => table[c.toNat]?.getD false

/-- What a change makes of bytes, given the first set, which may be complemented, and the second. -/
def ChangeStyle.changed (s : ChangeStyle) (one : Line) (two? : Option Line) (cs : Line) : Line :=
  let isOne := memberOf one
  match s.deletes, two? with
  | true, none => cs.filter fun c => !isOne c
  | true, some two => squeezeRuns (memberOf two) (cs.filter fun c => !isOne c)
  | false, none => squeezeRuns isOne cs
  | false, some two =>
    let table : Array Char := (one.zip two).foldl (fun table (a, b) => table.setIfInBounds a.toNat b)
      ((List.range 256).map Char.ofNat).toArray
    let changed := cs.map fun c => table[c.toNat]?.getD c
    if s.squeezes then squeezeRuns (memberOf two) changed else changed

/-- The parts of a set as it is written. -/
def readSet (name text : String) : ToolM (List SetPart) := do
  let cs := byteChars text
  let (bytes, warnings) := unescapedSet (cs.length + 1) cs
  for warning in warnings do complain name warning
  match setParts (bytes.length + 1) bytes with
  | .ok parts => pure parts
  | .error fault => fail name fault.text 1

/-- Complains of how many sets there are, explains it and ends. -/
def refuseSets (name text explanation : String) : ToolM Unit := do
  complain name text
  unless explanation.isEmpty do ExceptT.lift (Process.sayError (explanation ++ "\n"))
  ExceptT.lift (Process.sayError s!"Try '{name} --help' for more information.\n")
  quit 1

/-- The first set as it is used, and the second, if there is one. -/
def ChangeStyle.readSets (s : ChangeStyle) (name first : String) (second? : Option String) :
    ToolM (Line × Option Line) := do
  let one ← readSet name first
  let two? ← second?.mapM (readSet name)
  if one.any SetPart.isFilling then fail name "the [c*] repeat construct may not appear in string1" 1
  let given := partsBytes setLimit one
  let used := if s.complements then otherBytes given else given
  let length := if s.complements then used.length else partsLength one
  match two? with
  | none => pure (used, none)
  | some two =>
    if 1 < (two.filter SetPart.isFilling).length then
      fail name "only one [c*] repeat construct may appear in string2" 1
    if s.deletes then
      if two.any SetPart.isFilling then
        fail name "the [c*] construct may appear in string2 only when translating" 1
      pure (used, some (partsBytes setLimit two))
    else
      match matchedParts s one (filledParts length two) length with
      | .ok two => pure (used, some (partsBytes setLimit two))
      | .error text => fail name text 1

/-- Changes, drops and squeezes bytes. -/
def tr : Tool := fun name args => do
  let rules : List OptionRule :=
    [⟨"cC", "complement", .none⟩, ⟨"d", "delete", .none⟩, ⟨"s", "squeeze-repeats", .none⟩,
     ⟨"t", "truncate-set1", .none⟩]
  let (options, operands) ← readOptions name rules true 1 args
  let style : ChangeStyle :=
    ⟨has options "complement", has options "delete", has options "squeeze-repeats", has options "truncate-set1"⟩
  let least := if style.deletes == style.squeezes then 2 else 1
  let most := if style.deletes && !style.squeezes then 1 else 2
  let needsTwo := if style.squeezes then "Two strings must be given when both deleting and squeezing repeats."
    else "Two strings must be given when translating."
  if operands.isEmpty then failWithHelp name "missing operand" 1
  if operands.length < least then
    refuseSets name ("missing operand after " ++ plainlyQuoted (args.getLast?.getD "")) needsTwo
  if most < operands.length then
    refuseSets name ("extra operand " ++ plainlyQuoted (operands[most]?.getD ""))
      (if operands.length == 2 then "Only one string may be given when deleting without squeezing repeats." else "")
  let (one, two?) ← style.readSets name (operands.headD "") operands[1]?
  match ← readOperand "-" with
  | .ok bytes =>
    put name (bytesOfChars (style.changed one two? (charsOfBytes bytes)))
    pure 0
  | .error fault => fail name s!"read error: {fault.text}" 1

end Rebuild.Tool
