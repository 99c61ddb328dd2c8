import Rebuild.Text.Utf8

/-!
# Bytes as text

A sequence of bytes is read as text without loss: a byte that is part of no character becomes a character of its own, at
the end of the last private plane, and goes back to that byte. So do the bytes of the characters there, which can then
not be mistaken for others (`spelled`). Programs that know bytes only see a text as one character for each byte
(`byteChars`).
-/

namespace Rebuild.Text

/-- The code point of the character that stands for the byte zero; those of the other bytes follow it to the last code
point. -/
def strayBase : Nat := 0x10FF00

/-- The character that stands for a byte that is part of no character. -/
def strayChar (b : UInt8) : Char :=
  Char.ofNat (strayBase + b.toNat)

/-- The characters of a sequence of bytes. -/
def decodeBytes : List UInt8 → List Char
  | [] => []
  | b :: bytes =>
    match Utf8.front b bytes with
    | .char c width =>
      if strayBase ≤ c.toNat then strayChar b :: decodeBytes bytes else c :: decodeBytes (bytes.drop (width - 1))
    | .invalid _ | .incomplete => strayChar b :: decodeBytes bytes
termination_by bytes => bytes.length
decreasing_by all_goals simp only [List.length_drop, List.length_cons]; omega

/-- Whether a character is one of those that stand for bytes. -/
def isStray (c : Char) : Bool :=
  strayBase ≤ c.toNat

/-- The text of a sequence of bytes. -/
def ofBytes (bytes : ByteArray) : String :=
  match String.fromUTF8? bytes with
  | some s => if s.toList.any isStray then String.ofList (decodeBytes bytes.data.toList) else s
  | none => String.ofList (decodeBytes bytes.data.toList)

/-- A text of characters as the text of their bytes. -/
def spelled (s : String) : String :=
  ofBytes s.toUTF8

/-- The bytes that a text stands for. -/
def toBytes (s : String) : ByteArray :=
  if s.toList.any isStray then
    s.toList.foldl (fun bytes c =>
      if isStray c then bytes.push (UInt8.ofNat (c.toNat - strayBase)) else bytes ++ c.toString.toUTF8) .empty
  else s.toUTF8

/-- The bytes of a text, of which those that are no character by themselves are characters that stand for bytes. -/
def strayChars (s : String) : List Char :=
  (toBytes s).data.toList.map fun b => if b < 0x80 then Char.ofNat b.toNat else strayChar b

/-- The text whose bytes are those of another, in which characters may be divided. -/
def joined (s : String) : String :=
  if s.toList.any isStray then ofBytes (toBytes s) else s

/-- The bytes of a sequence, each as the character with its number. -/
def charsOfBytes (bytes : ByteArray) : List Char :=
  bytes.data.toList.map fun b => Char.ofNat b.toNat

/-- The bytes with the numbers of characters. -/
def bytesOfChars (cs : List Char) : ByteArray :=
  ⟨(cs.map fun c => UInt8.ofNat c.toNat).toArray⟩

/-- The bytes of a text, each as the character with its number. -/
def byteChars (s : String) : List Char :=
  if s.toList.all fun c => c.toNat < 0x80 then s.toList else charsOfBytes (toBytes s)

/-- The text whose bytes are the numbers of characters. -/
def ofByteChars (cs : List Char) : String :=
  if cs.all fun c => c.toNat < 0x80 then String.ofList cs else ofBytes (bytesOfChars cs)

/-- How many bytes a text has. -/
def byteLength (s : String) : Nat :=
  (toBytes s).size

end Rebuild.Text
