/-!
# Faults in UTF-8

Where a sequence of bytes is not UTF-8, `Utf8.Fault` says at which byte and how many bytes there cannot begin a
character, or that the sequence ends inside a character. `decodeLossy` reads any sequence: each faulty stretch becomes
one replacement character.
-/

namespace Rebuild.Text.Utf8

/-- What a sequence of bytes begins with. -/
inductive Front where
  /-- A character of this many bytes. -/
  | char (c : Char) (width : Nat)
  /-- So many bytes that no character begins with, though all but the last of them could. -/
  | invalid (width : Nat)
  /-- The beginning of a character, and the end of the sequence. -/
  | incomplete
deriving DecidableEq, Repr

/-- The width of the character that a byte leads, the bounds of its second byte, and the bits that the first gives. -/
def lead? (b : UInt8) : Option (Nat × Nat × Nat × Nat) :=
  let n := b.toNat
  if n < 0xC2 then none
  else if n ≤ 0xDF then some (2, 0x80, 0xBF, n - 0xC0)
  else if n ≤ 0xEF then
    some (3, if n == 0xE0 then 0xA0 else 0x80, if n == 0xED then 0x9F else 0xBF, n - 0xE0)
  else if n ≤ 0xF4 then
    some (4, if n == 0xF0 then 0x90 else 0x80, if n == 0xF4 then 0x8F else 0xBF, n - 0xF0)
  else none

/-- The front of a sequence of which `seen` bytes, with these bits, begin a character that needs `missing` more
bytes. -/
def extend (missing seen bits : Nat) (bytes : List UInt8) : Front :=
  match missing with
  | 0 => .char (Char.ofNat bits) seen
  | missing + 1 =>
    match bytes with
    | [] => .incomplete
    | b :: bytes =>
      if 0x80 ≤ b.toNat && b.toNat ≤ 0xBF then extend missing (seen + 1) (bits * 64 + (b.toNat - 0x80)) bytes
      else .invalid seen

/-- What the sequence of a first byte and the others begins with. -/
def front (b : UInt8) (bytes : List UInt8) : Front :=
  if b.toNat < 0x80 then .char (Char.ofNat b.toNat) 1
  else
    match lead? b with
    | none => .invalid 1
    | some (width, low, high, bits) =>
      match bytes with
      | [] => .incomplete
      | c :: bytes =>
        if low ≤ c.toNat && c.toNat ≤ high then extend (width - 2) 2 (bits * 64 + (c.toNat - 0x80)) bytes
        else .invalid 1

/-! ## The first fault -/

/-- A fault at a byte: so many bytes there begin no character, or, without a number, the sequence ends too early. -/
structure Fault where
  index : Nat
  width : Option Nat
deriving DecidableEq, Repr

/-- The wording of a fault. -/
def Fault.message (f : Fault) : String :=
  match f.width with
  | some width => s!"invalid utf-8 sequence of {width} bytes from index {f.index}"
  | none => s!"incomplete utf-8 byte sequence from index {f.index}"

/-- The first fault of a sequence whose first byte has the given index. -/
def faultFrom (index : Nat) : List UInt8 → Option Fault
  | [] => none
  | b :: bytes =>
    match front b bytes with
    | .char _ width => faultFrom (index + width) (bytes.drop (width - 1))
    | .invalid width => some ⟨index, some width⟩
    | .incomplete => some ⟨index, none⟩
termination_by bytes => bytes.length
decreasing_by simp only [List.length_drop, List.length_cons]; omega

/-- The first fault of a sequence of bytes. -/
def fault? (bytes : ByteArray) : Option Fault :=
  faultFrom 0 bytes.data.toList

/-! ## Reading in spite of faults -/

/-- The characters of a sequence of bytes, with a replacement character for each faulty stretch. -/
def decodeLossyBytes : List UInt8 → List Char
  | [] => []
  | b :: bytes =>
    match front b bytes with
    | .char c width => c :: decodeLossyBytes (bytes.drop (width - 1))
    | .invalid width => '\uFFFD' :: decodeLossyBytes (bytes.drop (width - 1))
    | .incomplete => ['\uFFFD']
termination_by bytes => bytes.length
decreasing_by all_goals simp only [List.length_drop, List.length_cons]; omega

/-- The text of a sequence of bytes, with a replacement character for each faulty stretch. -/
def decodeLossy (bytes : ByteArray) : String :=
  match String.fromUTF8? bytes with
  | some s => s
  | none => String.ofList (decodeLossyBytes bytes.data.toList)

end Rebuild.Text.Utf8
