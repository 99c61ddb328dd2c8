import Rebuild.Proofs.Disk.File
import Rebuild.Proofs.Path

/-!
# Plain names

A plain name is one component of ordinary characters, neither of the two that stand for directories. It is spelled as it
is (`IsPlain.spelled_eq`) and leads to its own place in the working directory, written with a dot and a slash before it
or without (`IsPlain.locate_eq`, `IsPlain.find_here`), and different names lead to different places
(`pathOf_append_inj`).
-/

namespace Rebuild.Disk

variable {d : Disk} {name : String}

/-- A text without characters that stand for bytes is spelled as it is. -/
theorem spelled_of_ordinary {s : String} (h : ∀ c ∈ s.toList, Text.isStray c = false) : Text.spelled s = s := by
  have htext : String.fromUTF8? s.toUTF8 = some s := dif_pos s.isValidUTF8
  unfold Text.spelled Text.ofBytes
  rw [htext]
  dsimp only
  rw [if_neg]
  simpa using h

theorem byteLength_of_ordinary {s : String} (h : ∀ c ∈ s.toList, Text.isStray c = false) :
    Text.byteLength s = s.toUTF8.size := by
  unfold Text.byteLength Text.toBytes
  rw [if_neg]
  simpa using h

/-- A name that stands for a file of its own in each directory. -/
structure IsPlain (name : String) : Prop where
  isComponent : Path.IsComponent name
  ne_dots : name ≠ ".."
  ordinary : ∀ c ∈ name.toList, Text.isStray c = false
  noNul : '\x00' ∉ name.toList
  short : Text.byteLength name ≤ 255

theorem parts_of_no_slash {w : String} (h : '/' ∉ w.toList) : parts w = [w] := by
  rw [parts, Path.splitOnP_of_no_slash h, List.map_singleton, String.ofList_toList]

theorem parts_append_slash (p q : String) : parts (p ++ "/" ++ q) = parts p ++ parts q := by
  have hchars : (p ++ "/" ++ q).toList = p.toList ++ '/' :: q.toList := by simp
  rw [parts, hchars, List.splitOnP_append_cons _ _ rfl, List.map_append]
  rfl

namespace IsPlain

variable (h : IsPlain name)
include h

theorem ordinary_here : ∀ c ∈ ("./" ++ name).toList, Text.isStray c = false := by
  rw [String.toList_append]
  exact List.forall_mem_append.mpr ⟨by simp [Text.isStray, Text.strayBase], h.ordinary⟩

theorem join_here : Path.join "." name = "./" ++ name := by
  unfold Path.join
  rw [h.isComponent.isAbsolute_eq, if_neg (by decide), if_neg (by decide)]
  rfl

theorem spelled_eq : Text.spelled name = name :=
  spelled_of_ordinary h.ordinary

/-- It leads to its own place in a directory, where no symbolic link is. -/
theorem follow_eq {place : Place} (henter : d.enter place = .ok ()) (hlink : d.linkAt? (place ++ [name]) = none)
    (followLast : Bool) (links : Nat) : d.follow followLast links place [name] = .ok (place ++ [name]) := by
  have hstay : (name.isEmpty || name == ".") = false := by
    simp [h.isComponent.ne_empty, h.isComponent.ne_dot]
  rw [follow, henter]
  dsimp only
  rw [hstay, if_neg Bool.false_ne_true, if_neg (by simpa using h.ne_dots), if_neg (Nat.not_lt.mpr h.short), hlink]
  dsimp only
  rw [follow]

section

variable (henter : d.enter d.cwd = .ok ()) (hlink : d.linkAt? (d.cwd ++ [name]) = none)
include henter hlink

theorem locate_eq (followLast : Bool) : d.locate followLast name = .ok (d.cwd ++ [name]) := by
  have hshort : Text.byteLength name ≤ 4095 := Nat.le_trans h.short (by decide)
  unfold locate
  rw [if_neg (by simpa using h.noNul), if_neg (by simpa using h.isComponent.ne_empty), if_neg (Nat.not_lt.mpr hshort),
    h.isComponent.isAbsolute_eq, if_neg Bool.false_ne_true, parts_of_no_slash h.isComponent.no_slash]
  exact h.follow_eq henter hlink followLast maxLinks

theorem find_here : d.find (Text.spelled (Path.join "." name)) = .ok (d.cwd ++ [name]) := by
  have hnul : '\x00' ∉ ("./" ++ name).toList := by simpa using h.noNul
  have hshort : Text.byteLength ("./" ++ name) ≤ 4095 := by
    have hname := h.short
    rw [byteLength_of_ordinary h.ordinary] at hname
    rw [byteLength_of_ordinary h.ordinary_here]
    have hsize : ("./" ++ name).toUTF8.size = 2 + name.toUTF8.size := by
      show (("./" ++ name).toByteArray).size = _
      rw [String.toByteArray_append, ByteArray.size_append]
      rfl
    omega
  have hparts : parts ("./" ++ name) = [".", name] := by
    rw [show "./" ++ name = "." ++ "/" ++ name from rfl, parts_append_slash, parts_of_no_slash (by decide),
      parts_of_no_slash h.isComponent.no_slash]
    rfl
  rw [h.join_here, spelled_of_ordinary h.ordinary_here]
  unfold find locate
  rw [if_neg (by simpa using hnul), if_neg (by simp), if_neg (Nat.not_lt.mpr hshort),
    Path.isAbsolute_append (by decide), show Path.isAbsolute "./" = false from rfl, if_neg Bool.false_ne_true, hparts,
    follow, henter]
  dsimp only
  rw [if_pos (by decide)]
  exact h.follow_eq henter hlink true maxLinks

end

end IsPlain

theorem intercalate_append_inj {place : Place} {a b : String}
    (h : "/".intercalate (place ++ [a]) = "/".intercalate (place ++ [b])) : a = b := by
  induction place with
  | nil =>
    rw [List.nil_append, List.nil_append, String.intercalate_singleton, String.intercalate_singleton] at h
    exact h
  | cons c cs ih =>
    rw [List.cons_append, List.cons_append, String.intercalate_cons_of_ne_nil (by simp),
      String.intercalate_cons_of_ne_nil (by simp)] at h
    exact ih ((String.append_right_inj _).mp h)

/-- Different names in a directory are different paths. -/
theorem pathOf_append_inj {place : Place} {a b : String} (h : pathOf (place ++ [a]) = pathOf (place ++ [b])) : a = b :=
  intercalate_append_inj ((String.append_right_inj _).mp h)

end Rebuild.Disk
