import Mathlib.Data.List.Forall2
import Rebuild.Proofs.Files
import Rebuild.Text.Utf8

/-!
# Faults are found where they are

- A character is read exactly where its bytes are (`front_eq_char_iff`), a sequence ends too early exactly if it is a
  beginning of the bytes of a character (`front_eq_incomplete_iff`), and where no character begins, as many bytes are
  told as could have begun one (`of_front_invalid`);
- the first fault of a sequence is told exactly where the characters before it end (`faultFrom_eq_some_iff`), and a
  sequence has none exactly if it is UTF-8 (`fault?_eq_none_iff`);
- reading in spite of faults leaves the characters before a fault as they are (`decodeLossyBytes_bytesOf`), and what is
  a text is read as it is (`decodeLossy_eq`);
- a file of a store that is no text is refused with its first fault (`Store.readText_eq_error_iff`).
-/

namespace Rebuild

namespace Text.Utf8

/-! ## Bytes after the first -/

/-- A byte goes on with a character and gives six bits more. -/
def GoesOn (b : UInt8) (bits : Nat) : Prop :=
  bits < 64 ∧ b.toNat = bits + 0x80

/-- The number that bits make, with six more bits from each of the bytes after them. -/
def number (bits : Nat) (more : List Nat) : Nat :=
  more.foldl (fun n m => n * 64 + m) bits

/-- The byte after those that were seen goes on with the character, or rules it out, whatever follows. -/
theorem extend_cases (missing seen bits : Nat) (b : UInt8) :
    (∃ m, GoesOn b m ∧ ∀ bytes,
      extend (missing + 1) seen bits (b :: bytes) = extend missing (seen + 1) (bits * 64 + m) bytes) ∨
    ((∀ m, ¬ GoesOn b m) ∧ ∀ bytes, extend (missing + 1) seen bits (b :: bytes) = .invalid seen) := by
  by_cases hb : 0x80 ≤ b.toNat ∧ b.toNat ≤ 0xBF
  · refine Or.inl ⟨b.toNat - 0x80, ⟨by omega, by omega⟩, fun bytes => ?_⟩
    rw [extend, if_pos (by simpa using hb)]
  · refine Or.inr ⟨fun m hm => hb (by obtain ⟨_, _⟩ := hm; omega), fun bytes => ?_⟩
    rw [extend, if_neg (by simpa using hb)]

theorem GoesOn.unique {b : UInt8} {m n : Nat} (hm : GoesOn b m) (hn : GoesOn b n) : m = n := by
  obtain ⟨⟨_, _⟩, ⟨_, _⟩⟩ := And.intro hm hn
  omega

theorem extend_of_goesOn {tails : List UInt8} {more : List Nat} (h : List.Forall₂ GoesOn tails more)
    (rest : List UInt8) (seen bits : Nat) :
    extend tails.length seen bits (tails ++ rest) = .char (Char.ofNat (number bits more)) (seen + tails.length) := by
  induction h generalizing seen bits with
  | nil => rfl
  | @cons b m tails more hb htails ih =>
    obtain ⟨m', hb', hextend⟩ | ⟨hnot, -⟩ := extend_cases tails.length seen bits b
    · cases hb.unique hb'
      rw [List.length_cons, List.cons_append, hextend, ih, number, number, List.foldl_cons, Nat.add_right_comm,
        Nat.add_assoc]
    · exact absurd hb (hnot m)

theorem exists_of_extend {missing seen bits width : Nat} {bytes : List UInt8} {c : Char}
    (h : extend missing seen bits bytes = .char c width) :
    ∃ tails more rest, bytes = tails ++ rest ∧ tails.length = missing ∧ List.Forall₂ GoesOn tails more ∧
      c = Char.ofNat (number bits more) ∧ width = seen + missing := by
  induction missing generalizing seen bits bytes with
  | zero =>
    cases h
    exact ⟨[], [], bytes, rfl, rfl, .nil, rfl, rfl⟩
  | succ missing ih =>
    cases bytes with
    | nil => cases h
    | cons b bytes =>
      obtain ⟨m, hb, hextend⟩ | ⟨-, hextend⟩ := extend_cases missing seen bits b
      · obtain ⟨tails, more, rest, rfl, hlength, htails, hc, hwidth⟩ := ih ((hextend bytes).symm.trans h)
        refine ⟨b :: tails, m :: more, rest, rfl, by rw [List.length_cons, hlength], .cons hb htails, ?_, ?_⟩
        · rw [hc, number, number, List.foldl_cons]
        · rw [hwidth, Nat.add_right_comm, Nat.add_assoc]
      · cases (hextend bytes).symm.trans h

/-! ## First bytes -/

/-- What the first byte of a character of two, three or four bytes tells. -/
theorem lead?_eq_some_iff {b : UInt8} {width low high bits : Nat} : lead? b = some (width, low, high, bits) ↔
    (width = 2 ∧ b.toNat = bits + 0xC0 ∧ 2 ≤ bits ∧ bits < 32 ∧ low = 0x80 ∧ high = 0xBF) ∨
    (width = 3 ∧ b.toNat = bits + 0xE0 ∧ bits < 16 ∧ low = (if bits = 0 then 0xA0 else 0x80) ∧
      high = if bits = 13 then 0x9F else 0xBF) ∨
    (width = 4 ∧ b.toNat = bits + 0xF0 ∧ bits < 5 ∧ low = (if bits = 0 then 0x90 else 0x80) ∧
      high = if bits = 4 then 0x8F else 0xBF) := by
  unfold lead?
  constructor
  · intro h
    dsimp only at h
    split at h
    · cases h
    split at h
    · grind
    split at h
    · grind
    split at h
    · grind
    · cases h
  · rintro (⟨rfl, hb, h⟩ | ⟨rfl, hb, h⟩ | ⟨rfl, hb, h⟩) <;> grind

/-- A second byte goes on with a character whose first byte sets bounds for it. -/
structure IsSecond (low high : Nat) (second : UInt8) (m : Nat) : Prop where
  goesOn : GoesOn second m
  low_le : low ≤ m + 0x80
  le_high : m + 0x80 ≤ high

/-- What a first byte can be: a character, no beginning of one, or the first of several bytes. -/
inductive FirstCase (b : UInt8) : Prop
  | whole (h : b.toNat < 0x80) (hfront : ∀ bytes, front b bytes = .char (Char.ofNat b.toNat) 1)
  | none (hlead : lead? b = Option.none) (hfront : ∀ bytes, front b bytes = .invalid 1)
  | lead {missing low high bits : Nat} (hlead : lead? b = some (missing + 2, low, high, bits))
    (hnil : front b [] = .incomplete)
    (hcons : ∀ second, (∃ m, IsSecond low high second m ∧
        ∀ bytes, front b (second :: bytes) = extend missing 2 (bits * 64 + m) bytes) ∨
      ((∀ m, ¬ IsSecond low high second m) ∧ ∀ bytes, front b (second :: bytes) = .invalid 1))

theorem firstCase (b : UInt8) : FirstCase b := by
  by_cases hb : b.toNat < 0x80
  · exact .whole hb fun bytes => by rw [front, if_pos hb]
  cases hlead : lead? b with
  | none => exact .none hlead fun bytes => by rw [front, if_neg hb, hlead]
  | some lead =>
    obtain ⟨width, low, high, bits⟩ := lead
    have htells := lead?_eq_some_iff.mp hlead
    obtain ⟨missing, rfl⟩ : ∃ missing, width = missing + 2 := ⟨width - 2, by omega⟩
    refine .lead hlead (by rw [front, if_neg hb, hlead]) fun second => ?_
    by_cases hwithin : low ≤ second.toNat ∧ second.toNat ≤ high
    · have hbounds : 0x80 ≤ low ∧ high ≤ 0xBF := by grind
      refine Or.inl ⟨second.toNat - 0x80, ⟨⟨by omega, by omega⟩, by omega, by omega⟩, fun bytes => ?_⟩
      rw [front, if_neg hb, hlead]
      dsimp only
      rw [if_pos (by simpa using hwithin), Nat.add_sub_cancel]
    · refine Or.inr ⟨fun m hm => hwithin ?_, fun bytes => ?_⟩
      · have hsecond := hm.goesOn.2
        exact ⟨hsecond ▸ hm.low_le, hsecond ▸ hm.le_high⟩
      · rw [front, if_neg hb, hlead]
        dsimp only
        rw [if_neg (by simpa using hwithin)]

/-- A front of several bytes is the character of the number that they make. -/
theorem front_of_goesOn {b second : UInt8} {low high bits m : Nat} {tails : List UInt8} {more : List Nat}
    (hlead : lead? b = some (tails.length + 2, low, high, bits)) (hsecond : IsSecond low high second m)
    (htails : List.Forall₂ GoesOn tails more) (rest : List UInt8) :
    front b (second :: (tails ++ rest)) = .char (Char.ofNat (number (bits * 64 + m) more)) (tails.length + 2) := by
  cases firstCase b with
  | whole h =>
    have htells := lead?_eq_some_iff.mp hlead
    omega
  | none hnone => cases hlead.symm.trans hnone
  | lead hlead' hnil hcons =>
    cases hlead.symm.trans hlead'
    obtain ⟨m', hsecond', hfront⟩ | ⟨hnot, -⟩ := hcons second
    · cases hsecond.goesOn.unique hsecond'.goesOn
      rw [hfront, extend_of_goesOn htails, Nat.add_comm 2]
    · exact absurd hsecond (hnot m)

/-! ## Characters -/

theorem toNat_ofNat_of_lt {n : Nat} (h : n < 256) : (UInt8.ofNat n).toNat = n := by
  rw [UInt8.toNat_ofNat', Nat.mod_eq_of_lt h]

theorem ofNat_of_toNat {b : UInt8} {n : Nat} (h : b.toNat = n) : UInt8.ofNat n = b := by
  rw [← h, UInt8.ofNat_toNat]

theorem goesOn_ofNat {n : Nat} (h : n < 64) : GoesOn (UInt8.ofNat (n + 0x80)) n :=
  ⟨h, toNat_ofNat_of_lt (by omega)⟩

theorem toNat_charOfNat {n : Nat} (h : n.isValidChar) : (Char.ofNat n).toNat = n := by
  rw [Char.ofNat, dif_pos h]
  rfl

/-- The bytes of a character, by the size of its number. -/
theorem encode_cases (c : Char) :
    (c.toNat < 0x80 ∧ String.utf8EncodeChar c = [UInt8.ofNat c.toNat]) ∨
    (0x80 ≤ c.toNat ∧ c.toNat < 0x800 ∧
      String.utf8EncodeChar c = [UInt8.ofNat (c.toNat / 64 + 0xC0), UInt8.ofNat (c.toNat % 64 + 0x80)]) ∨
    (0x800 ≤ c.toNat ∧ c.toNat < 0x10000 ∧
      String.utf8EncodeChar c = [UInt8.ofNat (c.toNat / 4096 + 0xE0), UInt8.ofNat (c.toNat / 64 % 64 + 0x80),
        UInt8.ofNat (c.toNat % 64 + 0x80)]) ∨
    (0x10000 ≤ c.toNat ∧ c.toNat < 0x110000 ∧
      String.utf8EncodeChar c = [UInt8.ofNat (c.toNat / 262144 + 0xF0), UInt8.ofNat (c.toNat / 4096 % 64 + 0x80),
        UInt8.ofNat (c.toNat / 64 % 64 + 0x80), UInt8.ofNat (c.toNat % 64 + 0x80)]) := by
  have hvalid : c.toNat < 0x110000 := by
    rcases (c.valid : c.toNat.isValidChar) with h | h
    · exact Nat.lt_trans h (by decide)
    · exact h.2
  unfold String.utf8EncodeChar
  simp only [Char.toNat_val]
  generalize c.toNat = n at hvalid
  split
  · exact Or.inl ⟨by omega, rfl⟩
  split
  · refine Or.inr (Or.inl ⟨by omega, by omega, ?_⟩)
    rw [Nat.mod_eq_of_lt (by omega : n / 64 < 32)]
  split
  · refine Or.inr (Or.inr (Or.inl ⟨by omega, by omega, ?_⟩))
    rw [Nat.mod_eq_of_lt (by omega : n / 4096 < 16)]
  · refine Or.inr (Or.inr (Or.inr ⟨by omega, by omega, ?_⟩))
    rw [Nat.mod_eq_of_lt (by omega : n / 262144 < 8)]

/-- **The bytes of a character are read as this character**, whatever follows them. -/
theorem front_encode (c : Char) : ∃ b bytes, String.utf8EncodeChar c = b :: bytes ∧
    ∀ rest, front b (bytes ++ rest) = .char c (bytes.length + 1) := by
  have hchar : Char.ofNat c.toNat = c := Char.ofNat_toNat c
  have hvalid : c.toNat < 0xD800 ∨ 0xDFFF < c.toNat := (c.valid : c.toNat.isValidChar).imp id And.left
  obtain ⟨h, he⟩ | ⟨h, h', he⟩ | ⟨h, h', he⟩ | ⟨h, h', he⟩ := encode_cases c
  · have hb : (UInt8.ofNat c.toNat).toNat = c.toNat := toNat_ofNat_of_lt (by omega)
    refine ⟨_, _, he, fun rest => ?_⟩
    rw [front, if_pos (by omega), hb, hchar]
    rfl
  · have hb : (UInt8.ofNat (c.toNat / 64 + 0xC0)).toNat = c.toNat / 64 + 0xC0 := toNat_ofNat_of_lt (by omega)
    have h2 := goesOn_ofNat (by omega : c.toNat % 64 < 64)
    have hnumber : number (c.toNat / 64 * 64 + c.toNat % 64) [] = c.toNat := Nat.div_add_mod' _ _
    have hlead := lead?_eq_some_iff.mpr (Or.inl ⟨rfl, hb, by omega, by omega, rfl, rfl⟩)
    refine ⟨_, _, he, fun rest => ?_⟩
    refine (front_of_goesOn hlead ⟨h2, by omega, by omega⟩ .nil rest).trans ?_
    rw [hnumber, hchar]
    rfl
  · have hb : (UInt8.ofNat (c.toNat / 4096 + 0xE0)).toNat = c.toNat / 4096 + 0xE0 := toNat_ofNat_of_lt (by omega)
    have h2 := goesOn_ofNat (by omega : c.toNat / 64 % 64 < 64)
    have h3 := goesOn_ofNat (by omega : c.toNat % 64 < 64)
    have hnumber : number (c.toNat / 4096 * 64 + c.toNat / 64 % 64) [c.toNat % 64] = c.toNat := by
      rw [number, List.foldl_cons, List.foldl_nil]
      omega
    have hlead := lead?_eq_some_iff.mpr (Or.inr (Or.inl ⟨rfl, hb, by omega, rfl, rfl⟩))
    refine ⟨_, _, he, fun rest => ?_⟩
    refine (front_of_goesOn hlead ⟨h2, ?_, ?_⟩ (.cons h3 .nil) rest).trans ?_
    · split <;> omega
    · split <;> omega
    · rw [hnumber, hchar]
      rfl
  · have hb : (UInt8.ofNat (c.toNat / 262144 + 0xF0)).toNat = c.toNat / 262144 + 0xF0 := toNat_ofNat_of_lt (by omega)
    have h2 := goesOn_ofNat (by omega : c.toNat / 4096 % 64 < 64)
    have h3 := goesOn_ofNat (by omega : c.toNat / 64 % 64 < 64)
    have h4 := goesOn_ofNat (by omega : c.toNat % 64 < 64)
    have hnumber : number (c.toNat / 262144 * 64 + c.toNat / 4096 % 64) [c.toNat / 64 % 64, c.toNat % 64] =
        c.toNat := by
      rw [number, List.foldl_cons, List.foldl_cons, List.foldl_nil]
      omega
    have hlead := lead?_eq_some_iff.mpr (Or.inr (Or.inr ⟨rfl, hb, by omega, rfl, rfl⟩))
    refine ⟨_, _, he, fun rest => ?_⟩
    refine (front_of_goesOn hlead ⟨h2, ?_, ?_⟩ (.cons h3 (.cons h4 .nil)) rest).trans ?_
    · split <;> omega
    · split <;> omega
    · rw [hnumber, hchar]
      rfl

section

variable {b second third fourth : UInt8} {bits m n k : Nat}

theorem encode_two (hb : b.toNat = bits + 0xC0) (h : 2 ≤ bits) (h' : bits < 32) (h2 : GoesOn second m) :
    String.utf8EncodeChar (Char.ofNat (bits * 64 + m)) = [b, second] := by
  obtain ⟨hm, h2⟩ := h2
  have hc := toNat_charOfNat (Or.inl (by omega) : (bits * 64 + m).isValidChar)
  obtain ⟨_, -⟩ | ⟨-, -, he⟩ | ⟨_, -⟩ | ⟨_, -⟩ := encode_cases (Char.ofNat (bits * 64 + m))
  · omega
  · rw [he, ofNat_of_toNat (by omega : b.toNat = _), ofNat_of_toNat (by omega : second.toNat = _)]
  all_goals omega

theorem encode_three (hb : b.toNat = bits + 0xE0) (h2 : GoesOn second m) (h3 : GoesOn third n)
    (hvalid : ((bits * 64 + m) * 64 + n).isValidChar) (h : 0x800 ≤ (bits * 64 + m) * 64 + n) (h' : bits < 16) :
    String.utf8EncodeChar (Char.ofNat ((bits * 64 + m) * 64 + n)) = [b, second, third] := by
  obtain ⟨hm, h2⟩ := h2
  obtain ⟨hn, h3⟩ := h3
  have hc := toNat_charOfNat hvalid
  obtain ⟨_, -⟩ | ⟨-, _, -⟩ | ⟨-, -, he⟩ | ⟨_, -⟩ := encode_cases (Char.ofNat ((bits * 64 + m) * 64 + n))
  · omega
  · omega
  · rw [he, ofNat_of_toNat (by omega : b.toNat = _), ofNat_of_toNat (by omega : second.toNat = _),
      ofNat_of_toNat (by omega : third.toNat = _)]
  · omega

theorem encode_four (hb : b.toNat = bits + 0xF0) (h2 : GoesOn second m) (h3 : GoesOn third n) (h4 : GoesOn fourth k)
    (hvalid : (((bits * 64 + m) * 64 + n) * 64 + k).isValidChar) (h : 0x10000 ≤ ((bits * 64 + m) * 64 + n) * 64 + k) :
    String.utf8EncodeChar (Char.ofNat (((bits * 64 + m) * 64 + n) * 64 + k)) = [b, second, third, fourth] := by
  obtain ⟨hm, h2⟩ := h2
  obtain ⟨hn, h3⟩ := h3
  obtain ⟨hk, h4⟩ := h4
  have hc := toNat_charOfNat hvalid
  obtain ⟨_, -⟩ | ⟨-, _, -⟩ | ⟨-, _, -⟩ | ⟨-, -, he⟩ := encode_cases (Char.ofNat (((bits * 64 + m) * 64 + n) * 64 + k))
  · omega
  · omega
  · omega
  · rw [he, ofNat_of_toNat (by omega : b.toNat = _), ofNat_of_toNat (by omega : second.toNat = _),
      ofNat_of_toNat (by omega : third.toNat = _), ofNat_of_toNat (by omega : fourth.toNat = _)]

end

/-- The character of the number that bytes make has these bytes. The bounds of the second byte rule out numbers that
fewer bytes can make, and those that are no characters. -/
theorem encode_of_goesOn {b second : UInt8} {low high bits m : Nat} {tails : List UInt8} {more : List Nat}
    (hlead : lead? b = some (tails.length + 2, low, high, bits)) (hsecond : IsSecond low high second m)
    (htails : List.Forall₂ GoesOn tails more) :
    String.utf8EncodeChar (Char.ofNat (number (bits * 64 + m) more)) = b :: second :: tails := by
  obtain ⟨h2, hlow, hhigh⟩ := hsecond
  have hm : m < 64 := h2.1
  obtain ⟨hw, hb, hbits, hbits', rfl, rfl⟩ | ⟨hw, hb, hbits, rfl, rfl⟩ | ⟨hw, hb, hbits, rfl, rfl⟩ :=
    lead?_eq_some_iff.mp hlead
  · obtain rfl := List.eq_nil_of_length_eq_zero (by omega : tails.length = 0)
    obtain _ | _ := htails
    exact encode_two hb hbits hbits' h2
  · obtain ⟨third, rfl⟩ := List.length_eq_one_iff.mp (by omega : tails.length = 1)
    obtain _ | @⟨_, n, _, _, h3, _ | _⟩ := htails
    have hn : n < 64 := h3.1
    refine encode_three hb h2 h3 ?_ ?_ hbits
    · unfold Nat.isValidChar
      split at hhigh <;> omega
    · split at hlow <;> omega
  · obtain ⟨third, fourth, rfl⟩ := List.length_eq_two.mp (by omega : tails.length = 2)
    obtain _ | @⟨_, n, _, _, h3, _ | @⟨_, k, _, _, h4, _ | _⟩⟩ := htails
    have hn : n < 64 := h3.1
    have hk : k < 64 := h4.1
    have hlarge : 0x10000 ≤ ((bits * 64 + m) * 64 + n) * 64 + k := by split at hlow <;> omega
    refine encode_four hb h2 h3 h4 (Or.inr ⟨by omega, ?_⟩) hlarge
    split at hhigh <;> omega

/-- **What is read as a character are its bytes.** -/
theorem encode_of_front {b : UInt8} {bytes : List UInt8} {c : Char} {width : Nat} (h : front b bytes = .char c width) :
    ∃ rest, b :: bytes = String.utf8EncodeChar c ++ rest ∧ width = (String.utf8EncodeChar c).length := by
  cases firstCase b with
  | whole hb hfront =>
    cases (hfront bytes).symm.trans h
    have hn : (Char.ofNat b.toNat).toNat = b.toNat := toNat_charOfNat (Or.inl (by omega))
    obtain ⟨-, he⟩ | ⟨h, -⟩ | ⟨h, -⟩ | ⟨h, -⟩ := encode_cases (Char.ofNat b.toNat)
    · rw [he, hn, UInt8.ofNat_toNat]
      exact ⟨bytes, rfl, rfl⟩
    all_goals omega
  | none _ hfront => cases (hfront bytes).symm.trans h
  | lead hlead hnil hcons =>
    cases bytes with
    | nil => cases hnil.symm.trans h
    | cons second bytes =>
      obtain ⟨m, hsecond, hfront⟩ | ⟨-, hfront⟩ := hcons second
      · obtain ⟨tails, more, rest, rfl, rfl, htails, rfl, rfl⟩ := exists_of_extend ((hfront bytes).symm.trans h)
        rw [encode_of_goesOn hlead hsecond htails]
        exact ⟨rest, rfl, Nat.add_comm _ _⟩
      · cases (hfront bytes).symm.trans h

/-- **A character is read exactly where its bytes are.** -/
theorem front_eq_char_iff {b : UInt8} {bytes : List UInt8} {c : Char} {width : Nat} : front b bytes = .char c width ↔
    ∃ rest, b :: bytes = String.utf8EncodeChar c ++ rest ∧ width = (String.utf8EncodeChar c).length := by
  refine ⟨encode_of_front, ?_⟩
  rintro ⟨rest, hbytes, rfl⟩
  obtain ⟨b', bytes', he, hfront⟩ := front_encode c
  rw [he, List.cons_append] at hbytes
  obtain ⟨rfl, rfl⟩ := List.cons.inj hbytes
  rw [hfront, he, List.length_cons]

theorem eq_append_of_front {b : UInt8} {bytes : List UInt8} {c : Char} {width : Nat}
    (h : front b bytes = .char c width) : b :: bytes = String.utf8EncodeChar c ++ bytes.drop (width - 1) := by
  obtain ⟨rest, hbytes, rfl⟩ := encode_of_front h
  obtain ⟨b', bytes', he, -⟩ := front_encode c
  rw [he] at hbytes ⊢
  obtain ⟨rfl, rfl⟩ := List.cons.inj (hbytes.trans List.cons_append)
  rw [List.length_cons, Nat.add_sub_cancel, List.drop_left, List.cons_append]

/-- A character that takes up a sequence is read from all of its bytes. -/
theorem eq_encode_of_front {b : UInt8} {bytes : List UInt8} {c : Char}
    (h : front b bytes = .char c (bytes.length + 1)) : b :: bytes = String.utf8EncodeChar c := by
  obtain ⟨rest, hbytes, hwidth⟩ := encode_of_front h
  have hlength : bytes.length + 1 = (String.utf8EncodeChar c).length + rest.length :=
    (congrArg List.length hbytes).trans List.length_append
  obtain rfl := List.eq_nil_of_length_eq_zero (by omega : rest.length = 0)
  exact hbytes.trans (List.append_nil _)

/-! ## What is no character -/

/-- More bytes change nothing where a sequence did not end too early. -/
theorem extend_append {missing seen bits : Nat} {bytes : List UInt8}
    (h : extend missing seen bits bytes ≠ .incomplete) (more : List UInt8) :
    extend missing seen bits (bytes ++ more) = extend missing seen bits bytes := by
  induction missing generalizing seen bits bytes with
  | zero => rfl
  | succ missing ih =>
    cases bytes with
    | nil => exact absurd rfl h
    | cons b bytes =>
      obtain ⟨m, -, hextend⟩ | ⟨-, hextend⟩ := extend_cases missing seen bits b
      · rw [hextend] at h
        rw [List.cons_append, hextend, hextend, ih h]
      · rw [List.cons_append, hextend, hextend]

theorem front_append {b : UInt8} {bytes : List UInt8} (h : front b bytes ≠ .incomplete) (more : List UInt8) :
    front b (bytes ++ more) = front b bytes := by
  cases firstCase b with
  | whole _ hfront | none _ hfront => rw [hfront, hfront]
  | lead hlead hnil hcons =>
    cases bytes with
    | nil => exact absurd hnil h
    | cons second bytes =>
      obtain ⟨m, -, hfront⟩ | ⟨-, hfront⟩ := hcons second
      · rw [hfront] at h
        rw [List.cons_append, hfront, hfront, extend_append h]
      · rw [List.cons_append, hfront, hfront]

theorem forall₂_goesOn_replicate (count : Nat) :
    List.Forall₂ GoesOn (List.replicate count (UInt8.ofNat (0 + 0x80))) (List.replicate count 0) := by
  induction count with
  | zero => exact .nil
  | succ count ih => exact .cons (goesOn_ofNat (by decide)) ih

/-- A character that ends too early can be completed, and no sooner than with all the bytes that it needs. -/
theorem exists_of_extend_incomplete {missing seen bits : Nat} {bytes : List UInt8}
    (h : extend missing seen bits bytes = .incomplete) :
    ∃ more c, more ≠ [] ∧ (bytes ++ more).length = missing ∧
      extend missing seen bits (bytes ++ more) = .char c (seen + missing) := by
  induction missing generalizing seen bits bytes with
  | zero => cases h
  | succ missing ih =>
    cases bytes with
    | nil =>
      have hextend := extend_of_goesOn (forall₂_goesOn_replicate (missing + 1)) [] seen bits
      rw [List.length_replicate, List.append_nil] at hextend
      exact ⟨List.replicate (missing + 1) _, _, List.cons_ne_nil _ _, List.length_replicate, hextend⟩
    | cons b bytes =>
      obtain ⟨m, -, hextend⟩ | ⟨-, hextend⟩ := extend_cases missing seen bits b
      · obtain ⟨more, c, hne, hlength, hchar⟩ := ih ((hextend bytes).symm.trans h)
        refine ⟨more, c, hne, congrArg (· + 1) hlength, ?_⟩
        rw [List.cons_append, hextend, hchar, Nat.add_right_comm, Nat.add_assoc]
      · cases (hextend bytes).symm.trans h

/-- The least second byte that a first one allows goes on with the character. -/
theorem exists_isSecond {b : UInt8} {width low high bits : Nat} (h : lead? b = some (width, low, high, bits)) :
    ∃ second m, IsSecond low high second m := by
  have hbounds : 0x80 ≤ low ∧ low ≤ high ∧ high ≤ 0xBF := by
    have htells := lead?_eq_some_iff.mp h
    grind
  refine ⟨_, low - 0x80, goesOn_ofNat (by omega), by omega, by omega⟩

/-- **A sequence ends too early exactly if it is a beginning of the bytes of a character.** -/
theorem front_eq_incomplete_iff {b : UInt8} {bytes : List UInt8} : front b bytes = .incomplete ↔
    ∃ c more, more ≠ [] ∧ b :: (bytes ++ more) = String.utf8EncodeChar c := by
  constructor
  · intro h
    cases firstCase b with
    | whole _ hfront | none _ hfront => cases (hfront bytes).symm.trans h
    | @lead missing low high bits hlead hnil hcons =>
      cases bytes with
      | nil =>
        obtain ⟨second, m, hsecond⟩ := exists_isSecond hlead
        have htails := forall₂_goesOn_replicate missing
        have hchar := front_of_goesOn (by rw [List.length_replicate]; exact hlead) hsecond htails []
        rw [List.append_nil] at hchar
        exact ⟨_, _, List.cons_ne_nil _ _, eq_encode_of_front hchar⟩
      | cons second bytes =>
        obtain ⟨m, -, hfront⟩ | ⟨-, hfront⟩ := hcons second
        · obtain ⟨more, c, hne, hlength, hchar⟩ := exists_of_extend_incomplete ((hfront bytes).symm.trans h)
          refine ⟨c, more, hne, eq_encode_of_front ((hfront _).trans (hchar.trans ?_))⟩
          rw [List.cons_append, List.length_cons, hlength, Nat.add_comm]
        · cases (hfront bytes).symm.trans h
  · rintro ⟨c, more, hne, hbytes⟩
    have hchar := front_eq_char_iff.mpr ⟨[], hbytes.trans (List.append_nil _).symm, rfl⟩
    by_contra h
    rw [front_append h] at hchar
    obtain ⟨rest, hshort, -⟩ := encode_of_front hchar
    have hlength := congrArg List.length hbytes
    have hlength' := congrArg List.length hshort
    have hpos := List.length_pos_iff.mpr hne
    simp only [List.length_cons, List.length_append] at hlength hlength'
    omega

/-- A byte that does not go on with a character, and the bytes before it, which could have begun one. -/
theorem exists_of_extend_invalid {missing seen bits width : Nat} {bytes : List UInt8}
    (h : extend missing seen bits bytes = .invalid width) :
    ∃ before b rest, bytes = before ++ b :: rest ∧ width = before.length + seen ∧
      extend missing seen bits before = .incomplete ∧ extend missing seen bits (before ++ [b]) = .invalid width := by
  induction missing generalizing seen bits bytes with
  | zero => cases h
  | succ missing ih =>
    cases bytes with
    | nil => cases h
    | cons b bytes =>
      obtain ⟨m, -, hextend⟩ | ⟨-, hextend⟩ := extend_cases missing seen bits b
      · obtain ⟨before, b', rest, rfl, rfl, hbefore, hb'⟩ := ih ((hextend bytes).symm.trans h)
        refine ⟨b :: before, b', rest, rfl, ?_, (hextend before).trans hbefore, (hextend _).trans hb'⟩
        rw [List.length_cons, Nat.add_right_comm, Nat.add_assoc]
      · cases (hextend bytes).symm.trans h
        exact ⟨[], b, bytes, rfl, (Nat.zero_add _).symm, rfl, hextend []⟩

/-- **Where no character begins, as many bytes are told as could have begun one**, but at least one: with the byte after
them, or with the only one, no character begins. -/
theorem of_front_invalid {b : UInt8} {bytes : List UInt8} {width : Nat} (h : front b bytes = .invalid width) :
    0 < width ∧ width ≤ bytes.length + 1 ∧ (width = 1 ∨ front b (bytes.take (width - 1)) = .incomplete) ∧
      front b (bytes.take width) = .invalid width := by
  cases firstCase b with
  | whole _ hfront => cases (hfront bytes).symm.trans h
  | none _ hfront =>
    cases (hfront bytes).symm.trans h
    exact ⟨Nat.one_pos, Nat.le_add_left _ _, Or.inl rfl, hfront _⟩
  | lead hlead hnil hcons =>
    cases bytes with
    | nil => cases hnil.symm.trans h
    | cons second bytes =>
      obtain ⟨m, -, hfront⟩ | ⟨-, hfront⟩ := hcons second
      · obtain ⟨before, b', rest, rfl, rfl, hbefore, hb'⟩ := exists_of_extend_invalid ((hfront bytes).symm.trans h)
        have htake : (before ++ b' :: rest).take (before.length + 1) = before ++ [b'] := by
          rw [List.append_cons]
          exact List.take_left' List.length_append
        have hlength : (before ++ b' :: rest).length = before.length + (rest.length + 1) := List.length_append
        refine ⟨by omega, by rw [List.length_cons, hlength]; omega, Or.inr ?_, ?_⟩
        · show front b ((second :: (before ++ b' :: rest)).take (before.length + 1)) = _
          rw [List.take_succ_cons, List.take_left, hfront, hbefore]
        · rw [List.take_succ_cons, htake, hfront, hb']
      · cases (hfront bytes).symm.trans h
        exact ⟨Nat.one_pos, Nat.le_add_left _ _, Or.inl rfl, hfront _⟩

/-! ## The first fault -/

/-- What is wrong where no character is read. -/
inductive Wrong (b : UInt8) (bytes : List UInt8) : Option Nat → Prop
  | invalid {width : Nat} (h : front b bytes = .invalid width) : Wrong b bytes (some width)
  | incomplete (h : front b bytes = .incomplete) : Wrong b bytes none

/-- Nothing is wrong where a character is read. -/
theorem Wrong.not_encode {b : UInt8} {bytes : List UInt8} {width : Option Nat} (h : Wrong b bytes width) (c : Char)
    (rest : List UInt8) : b :: bytes ≠ String.utf8EncodeChar c ++ rest := by
  intro hbytes
  have hchar := front_eq_char_iff.mpr ⟨rest, hbytes, rfl⟩
  cases h with
  | invalid h | incomplete h => cases h.symm.trans hchar

/-- The bytes of characters. -/
def bytesOf (cs : List Char) : List UInt8 :=
  cs.flatMap String.utf8EncodeChar

theorem bytesOf_cons (c : Char) (cs : List Char) : bytesOf (c :: cs) = String.utf8EncodeChar c ++ bytesOf cs :=
  List.flatMap_cons

/-- The characters at the beginning have no fault. -/
theorem faultFrom_bytesOf (cs : List Char) (rest : List UInt8) (index : Nat) :
    faultFrom index (bytesOf cs ++ rest) = faultFrom (index + (bytesOf cs).length) rest := by
  induction cs generalizing index with
  | nil => rfl
  | cons c cs ih =>
    obtain ⟨b, bytes, he, hfront⟩ := front_encode c
    rw [bytesOf_cons, List.append_assoc, List.length_append, he, List.cons_append, faultFrom, hfront]
    dsimp only
    rw [Nat.add_sub_cancel, List.drop_left, ih, List.length_cons, Nat.add_assoc]

/-- A sequence is the bytes of characters, up to its end or to where something is wrong. -/
theorem eq_bytesOf_or_wrong (bytes : List UInt8) : (∃ cs, bytes = bytesOf cs) ∨
    ∃ cs b rest width, bytes = bytesOf cs ++ b :: rest ∧ Wrong b rest width := by
  induction bytes using decodeLossyBytes.induct with
  | case1 => exact Or.inl ⟨[], rfl⟩
  | case2 b bytes c width hfront ih =>
    have hbytes := eq_append_of_front hfront
    obtain ⟨cs, hrest⟩ | ⟨cs, b', rest, width', hrest, hwrong⟩ := ih
    · exact Or.inl ⟨c :: cs, by rw [hbytes, hrest, bytesOf_cons]⟩
    · exact Or.inr ⟨c :: cs, b', rest, width', by rw [hbytes, hrest, bytesOf_cons, List.append_assoc], hwrong⟩
  | case3 b bytes width hfront => exact Or.inr ⟨[], b, bytes, some width, rfl, .invalid hfront⟩
  | case4 b bytes hfront => exact Or.inr ⟨[], b, bytes, none, rfl, .incomplete hfront⟩

theorem faultFrom_wrong {cs : List Char} {b : UInt8} {rest : List UInt8} {width : Option Nat} (h : Wrong b rest width)
    (index : Nat) : faultFrom index (bytesOf cs ++ b :: rest) = some ⟨index + (bytesOf cs).length, width⟩ := by
  rw [faultFrom_bytesOf, faultFrom]
  cases h with
  | invalid h | incomplete h => rw [h]

theorem faultFrom_eq_none (cs : List Char) (index : Nat) : faultFrom index (bytesOf cs) = none := by
  rw [← List.append_nil (bytesOf cs), faultFrom_bytesOf, faultFrom]

/-- **A fault is told exactly where the characters before it end**, with what is wrong there. -/
theorem faultFrom_eq_some_iff {index : Nat} {bytes : List UInt8} {f : Fault} : faultFrom index bytes = some f ↔
    ∃ cs b rest, bytes = bytesOf cs ++ b :: rest ∧ f.index = index + (bytesOf cs).length ∧ Wrong b rest f.width := by
  constructor
  · intro h
    obtain ⟨cs, rfl⟩ | ⟨cs, b, rest, width, rfl, hwrong⟩ := eq_bytesOf_or_wrong bytes
    · rw [faultFrom_eq_none] at h
      cases h
    · rw [faultFrom_wrong hwrong] at h
      cases h
      exact ⟨cs, b, rest, rfl, rfl, hwrong⟩
  · rintro ⟨cs, b, rest, rfl, hindex, hwrong⟩
    rw [faultFrom_wrong hwrong, ← hindex]

theorem faultFrom_eq_none_iff {index : Nat} {bytes : List UInt8} :
    faultFrom index bytes = none ↔ ∃ cs, bytes = bytesOf cs := by
  constructor
  · intro h
    obtain hcs | ⟨cs, b, rest, width, rfl, hwrong⟩ := eq_bytesOf_or_wrong bytes
    · exact hcs
    · rw [faultFrom_wrong hwrong] at h
      cases h
  · rintro ⟨cs, rfl⟩
    exact faultFrom_eq_none cs index

theorem toList_data_utf8Encode (cs : List Char) : cs.utf8Encode.data.toList = bytesOf cs :=
  List.toList_data_toByteArray

/-- **A sequence has no fault exactly if it is UTF-8.** -/
theorem fault?_eq_none_iff {bytes : ByteArray} : fault? bytes = none ↔ bytes.IsValidUTF8 := by
  rw [fault?, faultFrom_eq_none_iff]
  constructor
  · rintro ⟨cs, hcs⟩
    refine ⟨cs, ByteArray.ext (Array.toList_inj.mp ?_)⟩
    rw [hcs, toList_data_utf8Encode]
  · rintro ⟨cs, rfl⟩
    exact ⟨cs, toList_data_utf8Encode cs⟩

/-! ## Reading in spite of faults -/

/-- The characters before a fault are read as they are. -/
theorem decodeLossyBytes_bytesOf (cs : List Char) (rest : List UInt8) :
    decodeLossyBytes (bytesOf cs ++ rest) = cs ++ decodeLossyBytes rest := by
  induction cs with
  | nil => rfl
  | cons c cs ih =>
    obtain ⟨b, bytes, he, hfront⟩ := front_encode c
    rw [bytesOf_cons, List.append_assoc, he, List.cons_append, decodeLossyBytes, hfront]
    dsimp only
    rw [Nat.add_sub_cancel, List.drop_left, ih, List.cons_append]

theorem decodeLossyBytes_eq (cs : List Char) : decodeLossyBytes (bytesOf cs) = cs := by
  rw [← List.append_nil (bytesOf cs), decodeLossyBytes_bytesOf, decodeLossyBytes, List.append_nil]

/-- What is a text is read as it is. -/
theorem decodeLossy_eq (bytes : ByteArray) :
    decodeLossy bytes = String.ofList (decodeLossyBytes bytes.data.toList) := by
  unfold decodeLossy
  by_cases h : bytes.IsValidUTF8
  · have htext : String.fromUTF8? bytes = some (String.fromUTF8 bytes h) := dif_pos h
    obtain ⟨cs, rfl⟩ := h
    rw [htext, toList_data_utf8Encode, decodeLossyBytes_eq]
    rfl
  · have htext : String.fromUTF8? bytes = none := dif_neg h
    rw [htext]

end Text.Utf8

namespace Store

/-! ## Files that are no texts -/

open Text.Utf8

variable {s : Store} {path : String}

/-- **A file that is no text is refused with its first fault.** -/
theorem readText_eq_error_iff {fault : FileFault} : s.readText path = .error fault ↔
    (s.content? path = none ∧ fault = .absent path) ∨
      ∃ content f, s.content? path = some content ∧ fault? content = some f ∧ fault = .notText f := by
  unfold readText
  cases s.content? path with
  | none => simp [eq_comm]
  | some content =>
    dsimp only
    by_cases h : content.IsValidUTF8
    · have htext : String.fromUTF8? content = some (String.fromUTF8 content h) := dif_pos h
      rw [htext]
      simp [fault?_eq_none_iff.mpr h]
    · have htext : String.fromUTF8? content = none := dif_neg h
      obtain ⟨f, hf⟩ := Option.ne_none_iff_exists'.mp (fault?_eq_none_iff.not.mpr h)
      rw [htext, hf]
      simp [hf, eq_comm]

end Store

end Rebuild
