import Rebuild.Text.Bytes

/-!
# Patterns

In a pattern an unquoted star stands for any text, a question mark for any byte, and brackets for one of several bytes.
A pattern is given by its bytes, each with a note whether it is quoted; a backslash that a parameter brought in quotes
the byte after it.
-/

namespace Rebuild.Shell

/-- What brackets stand for. -/
inductive BracketItem where
  | range (first last : Char)
  /-- The bytes of a class with a name. -/
  | named (name : String)
deriving DecidableEq, Repr

/-- A part of a pattern. -/
inductive PatternPart where
  | char (c : Char)
  | one
  | any
  | oneOf (negated : Bool) (items : List BracketItem)
deriving DecidableEq, Repr

/-- Bytes as characters, each with a note whether it is quoted. -/
abbrev Marked := List (Char × Bool)

/-! ## Classes -/

/-- Whether a character is a punctuation mark. -/
def isPunctuation (c : Char) : Bool :=
  0x21 ≤ c.toNat && c.toNat ≤ 0x7E && !c.isAlphanum

/-- The classes of characters by their names. -/
def characterClasses : List (String × (Char → Bool)) :=
  [("alnum", Char.isAlphanum), ("alpha", Char.isAlpha), ("blank", fun c => c == ' ' || c == '\t'),
   ("cntrl", fun c => c.toNat < 0x20 || c.toNat == 0x7F), ("digit", Char.isDigit),
   ("graph", fun c => 0x21 ≤ c.toNat && c.toNat ≤ 0x7E), ("lower", Char.isLower),
   ("print", fun c => 0x20 ≤ c.toNat && c.toNat ≤ 0x7E), ("punct", isPunctuation),
   ("space", fun c => c == ' ' || (9 ≤ c.toNat && c.toNat ≤ 13)), ("upper", Char.isUpper),
   ("xdigit", fun c => c.isDigit || ('a' ≤ c && c ≤ 'f') || ('A' ≤ c && c ≤ 'F'))]

/-- The place of a byte among all bytes: those beyond ASCII come first. -/
def byteRank (c : Char) : Nat :=
  (c.toNat + 128) % 256

/-- Whether an item stands for a byte. -/
def BracketItem.fits (item : BracketItem) (c : Char) : Bool :=
  match item with
  | .range first last => byteRank first ≤ byteRank c && byteRank c ≤ byteRank last
  | .named name => (characterClasses.lookup name).any fun p => p c

/-! ## Reading patterns -/

/-- The name of a class that stands at the beginning, between colons and before a bracket, and what follows it. -/
def className? (cs : Marked) : Option (String × Marked) :=
  match cs with
  | (':', false) :: rest =>
    let name := String.ofList ((rest.takeWhile fun m => m.1 != ':').map Prod.fst)
    match rest.drop name.length with
    | (':', false) :: (']', false) :: after =>
      if characterClasses.any fun pair => pair.1 == name then some (name, after) else none
    | _ => none
  | _ => none

/-- The items between brackets, and what follows them; none if the bracket is not closed. -/
def bracketItems? (fuel : Nat) (isFirst : Bool) (cs : Marked) : Option (List BracketItem × Marked) :=
  match fuel with
  | 0 => none
  | fuel + 1 =>
    let goOn (item : BracketItem) (rest : Marked) : Option (List BracketItem × Marked) :=
      (bracketItems? fuel false rest).map fun (items, rest) => (item :: items, rest)
    let ranging (c : Char) (rest : Marked) : Option (List BracketItem × Marked) :=
      match rest with
      | ('-', false) :: (']', false) :: _ => goOn (.range c c) rest
      | ('-', false) :: ('\\', false) :: (d, _) :: rest | ('-', false) :: (d, _) :: rest => goOn (.range c d) rest
      | _ => goOn (.range c c) rest
    match cs with
    | [] => none
    | (']', false) :: rest => if isFirst then ranging ']' rest else some ([], rest)
    | ('[', false) :: rest =>
      match className? rest with
      | some (name, rest) => goOn (.named name) rest
      | none => ranging '[' rest
    | ('\\', false) :: (c, _) :: rest => ranging c rest
    | (c, _) :: rest => ranging c rest

/-- The parts of a pattern. -/
def patternParts (fuel : Nat) (cs : Marked) : List PatternPart :=
  match fuel with
  | 0 => []
  | fuel + 1 =>
    match cs with
    | [] => []
    | ('*', false) :: cs => .any :: patternParts fuel cs
    | ('?', false) :: cs => .one :: patternParts fuel cs
    | ('\\', false) :: (c, _) :: cs => .char c :: patternParts fuel cs
    | ('[', false) :: rest =>
      let negated := rest.head? == some ('!', false)
      let inner := if negated then rest.drop 1 else rest
      match bracketItems? (inner.length + 1) true inner with
      | some (items, rest) => .oneOf negated items :: patternParts fuel rest
      | none => .char '[' :: patternParts fuel rest
    | (c, _) :: cs => .char c :: patternParts fuel cs

/-! ## Matching -/

/-- Whether a part that stands for one byte stands for this one. -/
def PatternPart.fits (p : PatternPart) (c : Char) : Bool :=
  match p with
  | .char d => c == d
  | .one => true
  | .any => false
  | .oneOf negated items => (items.any (·.fits c)) != negated

/-- Whether parts match all of some bytes. -/
def matchParts : List PatternPart → List Char → Bool
  | [], cs => cs.isEmpty
  | .any :: ps, [] => matchParts ps []
  | .any :: ps, c :: cs => matchParts ps (c :: cs) || matchParts (.any :: ps) cs
  | _ :: _, [] => false
  | p :: ps, c :: cs => p.fits c && matchParts ps cs
termination_by ps cs => ps.length + cs.length

/-- Whether a pattern matches all of some bytes. -/
def matchesPattern (pattern : Marked) (cs : List Char) : Bool :=
  matchParts (patternParts (pattern.length + 1) pattern) cs

/-- Whether a pattern has a byte that does not stand for itself alone. -/
def isPattern (pattern : Marked) : Bool :=
  pattern.any fun m => !m.2 && (m.1 == '*' || m.1 == '?' || m.1 == '[')

/-! ## Beginnings and ends -/

/-- The parts that may match next after the parts that come before them: stars may match nothing. -/
def upcoming : List PatternPart → List (List PatternPart)
  | .any :: ps => (.any :: ps) :: upcoming ps
  | ps => [ps]

/-- Where matching may go on after one more byte, each place once. -/
def placesAfter (places : List (List PatternPart)) (c : Char) : List (List PatternPart) :=
  (places.flatMap fun
    | .any :: ps => upcoming (.any :: ps)
    | p :: ps => if p.fits c then upcoming ps else []
    | [] => []).eraseDupsBy fun a b => a.length == b.length

/-- The lengths of the beginnings that match, the shortest first, after so many bytes that led to some places. -/
def matchingLengths (seen : Nat) (places : List (List PatternPart)) (cs : List Char) : List Nat :=
  let here := if places.any List.isEmpty then [seen] else []
  match cs with
  | [] => here
  | c :: cs => if places.isEmpty then here else here ++ matchingLengths (seen + 1) (placesAfter places c) cs

/-- The bytes of a value, in which nothing stands between arguments. -/
abbrev ValueBytes := List (Option Char)

/-- All ends of some bytes, the longest first. -/
def endsOf : List Char → List (List Char)
  | [] => [[]]
  | c :: cs => (c :: cs) :: endsOf cs

/-- The bytes of the first argument. -/
def firstArgument (cs : ValueBytes) : List Char :=
  (cs.takeWhile Option.isSome).filterMap id

/-- A value without a beginning that matches a pattern. Only the beginnings of the first argument are looked at; if all
of it is the longest of them, all arguments are taken away. -/
def dropMatchingFirst (longest : Bool) (pattern : Marked) (cs : ValueBytes) : ValueBytes :=
  let first := firstArgument cs
  let lengths := matchingLengths 0 (upcoming (patternParts (pattern.length + 1) pattern)) first
  match if longest then lengths.getLast? else lengths.head? with
  | some n => if longest && n == first.length then [] else cs.drop n
  | none => cs

/-- The first place in the last of some arguments, then in those before it, that an end of this argument begins at which
matches; the shortest end comes first. -/
def shortestEnd? (parts : List PatternPart) (start : Nat) : List (List Char) → Option Nat
  | [] => none
  | cs :: arguments =>
    (shortestEnd? parts (start + cs.length + 1) arguments).orElse fun _ =>
      ((endsOf cs).zipIdx.reverse.find? fun tail => matchParts parts tail.1).map fun tail => start + tail.2

/-- A value without an end that matches a pattern. The shortest end is looked for in the last argument, then in those
before it, the longest in the first argument; what comes after an end is taken away with it. -/
def dropMatchingLast (longest : Bool) (pattern : Marked) (cs : ValueBytes) : ValueBytes :=
  let parts := patternParts (pattern.length + 1) pattern
  let place? := if longest then (endsOf (firstArgument cs)).findIdx? fun tail => matchParts parts tail
    else shortestEnd? parts 0 ((cs.splitOnP Option.isNone).map fun argument => argument.filterMap id)
  match place? with
  | some place => cs.take place
  | none => cs

end Rebuild.Shell
