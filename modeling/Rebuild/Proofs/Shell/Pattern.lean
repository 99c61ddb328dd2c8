import Mathlib.Algebra.GroupWithZero.Nat
import Mathlib.Data.List.Basic
import Rebuild.Shell.Pattern

/-!
# What patterns match

- The parts of a pattern match what they stand for one after the other (`Matches`, `matchParts_iff`), and a quoted text
  matches itself alone (`matchesPattern_quoted`);
- the search for beginnings that match keeps the places where matching may go on (`Leads`, `leads_placesAfter_iff`), and
  finds exactly the lengths of these beginnings, the shortest first (`mem_matchingLengths`, `pairwise_matchingLengths`);
- so what is taken from the front of a value is its shortest beginning that matches, or its longest
  (`dropMatchingFirst_cases`), and what is taken from its end is the longest end that matches
  (`dropMatchingLast_longest`), or the shortest (`dropMatchingLast_shortest`).
-/

namespace Rebuild.Shell

/-- Parts match bytes: a star any of them, and another part one that it stands for. -/
inductive Matches : List PatternPart → List Char → Prop
  | nil : Matches [] []
  | fits {p : PatternPart} {ps : List PatternPart} {c : Char} {cs : List Char} (hp : p.fits c = true)
    (h : Matches ps cs) : Matches (p :: ps) (c :: cs)
  | any {ps : List PatternPart} {cs : List Char} (skipped : List Char) (h : Matches ps cs) :
    Matches (.any :: ps) (skipped ++ cs)

variable {p : PatternPart} {ps : List PatternPart} {c : Char} {cs : List Char}

theorem matches_nil_iff : Matches [] cs ↔ cs = [] := by
  constructor
  · intro h
    cases h
    rfl
  · rintro rfl
    exact .nil

/-- A star matches nothing, or a byte and then what is left. -/
theorem matches_any_cons : Matches (.any :: ps) (c :: cs) ↔ Matches ps (c :: cs) ∨ Matches (.any :: ps) cs := by
  constructor
  · intro h
    generalize hcs : c :: cs = whole at h
    cases h with
    | fits hp => cases hp
    | any skipped h =>
      cases skipped with
      | nil =>
        obtain rfl : _ = c :: cs := hcs.symm
        exact Or.inl h
      | cons d skipped =>
        obtain ⟨rfl, rfl⟩ := List.cons.inj hcs
        exact Or.inr (.any skipped h)
  · rintro (h | h)
    · exact .any [] h
    · cases h with
      | fits hp => cases hp
      | any skipped h => exact .any (c :: skipped) h

theorem matches_any_nil : Matches (.any :: ps) [] ↔ Matches ps [] := by
  refine ⟨fun h => ?_, .any []⟩
  generalize hcs : ([] : List Char) = whole at h
  cases h with
  | fits hp => cases hp
  | any skipped h =>
    obtain ⟨rfl, rfl⟩ := List.append_eq_nil_iff.mp hcs.symm
    exact h

theorem matches_cons_iff (hp : p ≠ .any) : Matches (p :: ps) (c :: cs) ↔ p.fits c = true ∧ Matches ps cs := by
  constructor
  · intro h
    generalize hcs : c :: cs = whole at h
    cases h with
    | fits hfits h => cases hcs; exact ⟨hfits, h⟩
    | any => exact absurd rfl hp
  · rintro ⟨hfits, h⟩
    exact .fits hfits h

theorem not_matches_nil (hp : p ≠ .any) : ¬ Matches (p :: ps) [] := by
  intro h
  generalize hcs : ([] : List Char) = cs at h
  cases h with
  | fits => cases hcs
  | any => exact hp rfl

/-- **Matching finds out whether parts match.** -/
theorem matchParts_iff : matchParts ps cs = true ↔ Matches ps cs := by
  fun_induction matchParts ps cs with
  | case1 cs => rw [matches_nil_iff, List.isEmpty_iff]
  | case2 ps ih => rw [ih, matches_any_nil]
  | case3 ps c cs ih ih' => rw [Bool.or_eq_true, ih, ih', matches_any_cons]
  | case4 p ps hp => exact iff_of_false nofun (not_matches_nil hp)
  | case5 p ps c cs hp ih => rw [Bool.and_eq_true, ih, matches_cons_iff hp]

/-! ## Quoted texts -/

theorem patternParts_quoted (text : List Char) {fuel : Nat} (h : text.length < fuel) :
    patternParts fuel (text.map (·, true)) = text.map .char := by
  induction text generalizing fuel with
  | nil =>
    obtain ⟨fuel, rfl⟩ := Nat.exists_eq_add_one_of_ne_zero (Nat.ne_zero_of_lt h)
    rfl
  | cons c text ih =>
    obtain ⟨fuel, rfl⟩ := Nat.exists_eq_add_one_of_ne_zero (Nat.ne_zero_of_lt h)
    rw [List.map_cons, patternParts, ih (Nat.lt_of_succ_lt_succ h), List.map_cons]
    all_goals simp

theorem matches_chars_iff {text : List Char} : Matches (text.map .char) cs ↔ cs = text := by
  induction text generalizing cs with
  | nil => exact matches_nil_iff
  | cons c text ih =>
    have hne : PatternPart.char c ≠ .any := nofun
    cases cs with
    | nil => exact iff_of_false (not_matches_nil hne) nofun
    | cons d cs => rw [List.map_cons, matches_cons_iff hne, ih, PatternPart.fits, beq_iff_eq, List.cons.injEq]

/-- **A quoted text matches itself alone.** -/
theorem matchesPattern_quoted (text cs : List Char) : matchesPattern (text.map (·, true)) cs = true ↔ cs = text := by
  rw [matchesPattern, patternParts_quoted text (by rw [List.length_map]; omega), matchParts_iff, matches_chars_iff]

/-! ## Beginnings that match -/

/-- Matching can go on at one of some places and match all of some bytes. -/
def Leads (places : List (List PatternPart)) (cs : List Char) : Prop :=
  ∃ q ∈ places, Matches q cs

/-- The places that matching may go on at: ends of a pattern, and with a star what it may be followed by at once. -/
structure Reached (pattern : List PatternPart) (places : List (List PatternPart)) : Prop where
  suffix : ∀ q ∈ places, q <:+ pattern
  closed : ∀ ps, .any :: ps ∈ places → ∀ q ∈ upcoming ps, q ∈ places

variable {pattern : List PatternPart} {places : List (List PatternPart)}

theorem mem_upcoming_self (ps : List PatternPart) : ps ∈ upcoming ps := by
  cases ps with
  | nil => exact List.mem_singleton_self _
  | cons p ps =>
    by_cases hp : p = .any
    · rw [hp, upcoming]
      exact List.mem_cons_self
    · rw [upcoming]
      · exact List.mem_singleton_self _
      · exact fun _ h => hp (List.cons.inj h).1

theorem reached_upcoming (h : ps <:+ pattern) : Reached pattern (upcoming ps) := by
  induction ps using upcoming.induct with
  | case1 ps ih =>
    have ⟨hsuffix, hclosed⟩ := ih ((List.suffix_cons _ _).trans h)
    rw [upcoming]
    refine ⟨List.forall_mem_cons.mpr ⟨h, hsuffix⟩, fun ps' hps' q hq => List.mem_cons_of_mem _ ?_⟩
    rcases List.mem_cons.mp hps' with heq | hmem
    · cases heq
      exact hq
    · exact hclosed ps' hmem q hq
  | case2 ps hne =>
    rw [upcoming]
    · refine ⟨List.forall_mem_singleton.mpr h, fun ps' hps' => ?_⟩
      exact absurd (List.mem_singleton.mp hps').symm (hne ps')
    · exact hne

/-- What parts match, they match from what may match next. -/
theorem leads_upcoming_iff : Leads (upcoming ps) cs ↔ Matches ps cs := by
  constructor
  · rintro ⟨q, hq, h⟩
    induction ps using upcoming.induct with
    | case1 ps ih =>
      rw [upcoming] at hq
      rcases List.mem_cons.mp hq with rfl | hq
      · exact h
      · exact .any [] (ih hq)
    | case2 ps hne =>
      rw [upcoming] at hq
      · exact List.mem_singleton.mp hq ▸ h
      · exact hne
  · exact fun h => ⟨ps, mem_upcoming_self ps, h⟩

/-- Leaving out what is the same as something before it leaves the members, if only equal ones are the same. -/
theorem mem_eraseDupsBy_iff {α : Type} {same : α → α → Bool} {a : α} :
    ∀ {l : List α}, (∀ x ∈ l, ∀ y ∈ l, same x y = true → x = y) → (a ∈ l.eraseDupsBy same ↔ a ∈ l)
  | [], _ => Iff.rfl
  | x :: l, h => by
    obtain ⟨hx, hl⟩ := List.forall_mem_cons.mp h
    have hrest : ∀ y ∈ l.filter fun y => decide (same y x = false), ∀ z ∈ l.filter fun y => decide (same y x = false),
        same y z = true → y = z := fun y hy z hz =>
      hl y (List.mem_of_mem_filter hy) z (List.mem_cons_of_mem _ (List.mem_of_mem_filter hz))
    rw [List.eraseDupsBy_cons, List.mem_cons, List.mem_cons, mem_eraseDupsBy_iff hrest, List.mem_filter,
      decide_eq_true_eq]
    refine ⟨Or.imp_right And.left, fun hmem => ?_⟩
    rcases hmem with rfl | hmem
    · exact Or.inl rfl
    · cases hsame : same a x with
      | false => exact Or.inr ⟨hmem, rfl⟩
      | true => exact Or.inl (hl a hmem x List.mem_cons_self hsame)
termination_by l => l.length
decreasing_by
  have := List.length_filter_le (fun y => decide (same y x = false)) l
  simp only [List.length_cons]
  omega

/-- The places after one more byte, before repetitions are left out. -/
def allAfter (places : List (List PatternPart)) (c : Char) : List (List PatternPart) :=
  places.flatMap fun
    | .any :: ps => upcoming (.any :: ps)
    | p :: ps => if p.fits c then upcoming ps else []
    | [] => []

theorem mem_allAfter_iff {q : List PatternPart} : q ∈ allAfter places c ↔
    ∃ ps, (.any :: ps ∈ places ∧ q ∈ upcoming (.any :: ps)) ∨
      ∃ p, p ≠ .any ∧ p :: ps ∈ places ∧ p.fits c = true ∧ q ∈ upcoming ps := by
  unfold allAfter
  rw [List.mem_flatMap]
  constructor
  · rintro ⟨place, hplace, hq⟩
    split at hq
    · exact ⟨_, Or.inl ⟨hplace, hq⟩⟩
    · next hne =>
      split at hq
      · next hfits => exact ⟨_, Or.inr ⟨_, hne, hplace, hfits, hq⟩⟩
      · cases hq
    · cases hq
  · rintro ⟨ps, ⟨hplace, hq⟩ | ⟨p, hp, hplace, hfits, hq⟩⟩
    · exact ⟨_, hplace, hq⟩
    · refine ⟨_, hplace, ?_⟩
      split
      · next h => cases h; exact absurd rfl hp
      · next h => cases h; rw [if_pos hfits]; exact hq
      · next h => cases h

theorem reached_allAfter (h : Reached pattern places) (c : Char) : Reached pattern (allAfter places c) := by
  have hupcoming {q : List PatternPart} (hq : q ∈ allAfter places c) :
      ∃ ps, ps <:+ pattern ∧ q ∈ upcoming ps ∧ ∀ r ∈ upcoming ps, r ∈ allAfter places c := by
    obtain ⟨ps, ⟨hplace, hq⟩ | ⟨p, hp, hplace, hfits, hq⟩⟩ := mem_allAfter_iff.mp hq
    · exact ⟨_, h.suffix _ hplace, hq, fun r hr => mem_allAfter_iff.mpr ⟨ps, Or.inl ⟨hplace, hr⟩⟩⟩
    · exact ⟨ps, (List.suffix_cons _ _).trans (h.suffix _ hplace), hq,
        fun r hr => mem_allAfter_iff.mpr ⟨ps, Or.inr ⟨p, hp, hplace, hfits, hr⟩⟩⟩
  constructor
  · intro q hq
    obtain ⟨ps, hsuffix, hmem, -⟩ := hupcoming hq
    exact (reached_upcoming hsuffix).suffix q hmem
  · intro ps hps q hq
    obtain ⟨ps', hsuffix, hmem, hall⟩ := hupcoming hps
    exact hall q ((reached_upcoming hsuffix).closed ps hmem q hq)

/-- Places of the same length are the same, so each is kept once. -/
theorem mem_placesAfter_iff (h : Reached pattern places) {q : List PatternPart} :
    q ∈ placesAfter places c ↔ q ∈ allAfter places c := by
  refine mem_eraseDupsBy_iff fun x hx y hy hlength => ?_
  have hreached := reached_allAfter h c
  rw [beq_iff_eq] at hlength
  exact (List.suffix_of_suffix_length_le (hreached.suffix x hx) (hreached.suffix y hy)
    (Nat.le_of_eq hlength)).eq_of_length hlength

theorem Reached.next (h : Reached pattern places) (c : Char) : Reached pattern (placesAfter places c) := by
  have hreached := reached_allAfter h c
  constructor
  · intro q hq
    exact hreached.suffix q ((mem_placesAfter_iff h).mp hq)
  · intro ps hps q hq
    exact (mem_placesAfter_iff h).mpr (hreached.closed ps ((mem_placesAfter_iff h).mp hps) q hq)

/-- Matching goes on at the places after a byte. -/
theorem leads_placesAfter_iff (h : Reached pattern places) :
    Leads (placesAfter places c) cs ↔ Leads places (c :: cs) := by
  constructor
  · rintro ⟨q, hq, hmatches⟩
    obtain ⟨ps, ⟨hplace, hq⟩ | ⟨p, hp, hplace, hfits, hq⟩⟩ := mem_allAfter_iff.mp ((mem_placesAfter_iff h).mp hq)
    · exact ⟨_, hplace, matches_any_cons.mpr (Or.inr (leads_upcoming_iff.mp ⟨q, hq, hmatches⟩))⟩
    · exact ⟨_, hplace, (matches_cons_iff hp).mpr ⟨hfits, leads_upcoming_iff.mp ⟨q, hq, hmatches⟩⟩⟩
  · rintro ⟨q, hq, hmatches⟩
    have hafter {r : List PatternPart} (hr : r ∈ allAfter places c) (hm : Matches r cs) :
        Leads (placesAfter places c) cs := ⟨r, (mem_placesAfter_iff h).mpr hr, hm⟩
    induction q with
    | nil => cases matches_nil_iff.mp hmatches
    | cons p ps ih =>
      by_cases hp : p = .any
      · subst hp
        rcases matches_any_cons.mp hmatches with hskip | htake
        · exact ih (h.closed ps hq ps (mem_upcoming_self ps)) hskip
        · exact hafter (mem_allAfter_iff.mpr ⟨ps, Or.inl ⟨hq, mem_upcoming_self _⟩⟩) htake
      · obtain ⟨hfits, hrest⟩ := (matches_cons_iff hp).mp hmatches
        exact hafter (mem_allAfter_iff.mpr ⟨ps, Or.inr ⟨p, hp, hq, hfits, mem_upcoming_self ps⟩⟩) hrest

theorem leads_nil_iff (h : Reached pattern places) : Leads places [] ↔ places.any List.isEmpty = true := by
  rw [List.any_eq_true]
  constructor
  · rintro ⟨q, hq, hmatches⟩
    induction q with
    | nil => exact ⟨[], hq, rfl⟩
    | cons p ps ih =>
      by_cases hp : p = .any
      · subst hp
        exact ih (h.closed ps hq ps (mem_upcoming_self ps)) (matches_any_nil.mp hmatches)
      · exact absurd hmatches (not_matches_nil hp)
  · rintro ⟨q, hq, hempty⟩
    rw [List.isEmpty_iff] at hempty
    exact ⟨q, hq, hempty ▸ .nil⟩

theorem matchingLengths_of_nil (seen : Nat) (cs : List Char) : matchingLengths seen [] cs = [] := by
  cases cs <;> rfl

/-- The beginnings that match are the empty one, if it does, and those with a byte more than the others. -/
theorem matchingLengths_cons (seen : Nat) (places : List (List PatternPart)) (c : Char) (cs : List Char) :
    matchingLengths seen places (c :: cs) =
      (if places.any List.isEmpty then [seen] else []) ++ matchingLengths (seen + 1) (placesAfter places c) cs := by
  cases places with
  | nil => exact (matchingLengths_of_nil (seen + 1) cs).symm
  | cons q places => rfl

theorem mem_matchingLengths_from (h : Reached pattern places) (seen : Nat) {n : Nat} :
    n ∈ matchingLengths seen places cs ↔ ∃ k, n = seen + k ∧ k ≤ cs.length ∧ Leads places (cs.take k) := by
  have hhere {places : List (List PatternPart)} {seen : Nat} (h : Reached pattern places) :
      n ∈ (if places.any List.isEmpty then [seen] else []) ↔ n = seen ∧ Leads places [] := by
    rw [leads_nil_iff h]
    split
    · next hempty => simp [hempty]
    · next hempty => simp [hempty]
  induction cs generalizing seen places with
  | nil =>
    rw [matchingLengths, hhere h]
    constructor
    · rintro ⟨rfl, hleads⟩
      exact ⟨0, rfl, Nat.le_refl _, hleads⟩
    · rintro ⟨k, rfl, hk, hleads⟩
      obtain rfl := Nat.le_zero.mp hk
      exact ⟨rfl, hleads⟩
  | cons c cs ih =>
    have hrest : n ∈ matchingLengths (seen + 1) (placesAfter places c) cs ↔ _ := ih (h.next c) (seen + 1)
    rw [matchingLengths_cons, List.mem_append, hhere h, hrest]
    constructor
    · rintro (⟨rfl, hleads⟩ | ⟨k, rfl, hk, hleads⟩)
      · exact ⟨0, rfl, Nat.zero_le _, hleads⟩
      · exact ⟨k + 1, by omega, Nat.succ_le_succ hk, (leads_placesAfter_iff h).mp hleads⟩
    · rintro ⟨k, rfl, hk, hleads⟩
      cases k with
      | zero => exact Or.inl ⟨rfl, hleads⟩
      | succ k =>
        exact Or.inr ⟨k, by omega, Nat.le_of_succ_le_succ hk, (leads_placesAfter_iff h).mpr hleads⟩

/-- **The lengths that are found are those of the beginnings that match.** -/
theorem mem_matchingLengths {n : Nat} : n ∈ matchingLengths 0 (upcoming ps) cs ↔
    n ≤ cs.length ∧ Matches ps (cs.take n) := by
  rw [mem_matchingLengths_from (reached_upcoming (List.suffix_refl ps)) 0]
  simp only [Nat.zero_add, leads_upcoming_iff]
  exact ⟨fun ⟨_, h, hmatches⟩ => h ▸ hmatches, fun h => ⟨n, rfl, h⟩⟩

/-- The shortest comes first. -/
theorem pairwise_matchingLengths (h : Reached pattern places) (seen : Nat) (cs : List Char) :
    (matchingLengths seen places cs).Pairwise (· < ·) := by
  induction cs generalizing seen places with
  | nil =>
    rw [matchingLengths]
    split
    · exact List.pairwise_singleton _ _
    · exact .nil
  | cons c cs ih =>
    rw [matchingLengths_cons]
    split
    · refine List.pairwise_cons.mpr ⟨fun n hn => ?_, ih (h.next c) (seen + 1)⟩
      obtain ⟨k, rfl, -⟩ := (mem_matchingLengths_from (h.next c) (seen + 1)).mp hn
      omega
    · exact ih (h.next c) (seen + 1)

/-! ## What is taken away -/

/-- The shortest, or the longest, of the lengths with a property. -/
def IsBest (longest : Bool) (P : Nat → Prop) (n : Nat) : Prop :=
  P n ∧ ∀ m, P m → if longest then m ≤ n else n ≤ m

theorem isBest_of_pairwise {longest : Bool} {lengths : List Nat} {n : Nat} (h : lengths.Pairwise (· < ·))
    (hn : (if longest then lengths.getLast? else lengths.head?) = some n) : IsBest longest (· ∈ lengths) n := by
  cases longest with
  | false =>
    obtain ⟨rest, rfl⟩ := List.head?_eq_some_iff.mp hn
    refine ⟨List.mem_cons_self, fun m hm => ?_⟩
    rcases List.mem_cons.mp hm with rfl | hm
    · exact Nat.le_refl _
    · exact Nat.le_of_lt ((List.pairwise_cons.mp h).1 m hm)
  | true =>
    obtain ⟨before, rfl⟩ := List.getLast?_eq_some_iff.mp hn
    refine ⟨List.mem_append_right _ (List.mem_singleton_self n), fun m hm => ?_⟩
    rcases List.mem_append.mp hm with hm | hm
    · exact Nat.le_of_lt ((List.pairwise_append.mp h).2.2 m hm n (List.mem_singleton_self n))
    · exact Nat.le_of_eq (List.mem_singleton.mp hm)

/-- **What is taken from the front of a value is the shortest or the longest beginning of its first argument that
matches**; if it is all of that argument, the longest takes the others with it. -/
theorem dropMatchingFirst_cases (longest : Bool) (pattern : Marked) (value : ValueBytes) :
    let matching (n : Nat) : Prop := n ≤ (firstArgument value).length ∧
      Matches (patternParts (pattern.length + 1) pattern) ((firstArgument value).take n)
    ((∀ n, ¬ matching n) ∧ dropMatchingFirst longest pattern value = value) ∨
      ∃ n, IsBest longest matching n ∧ dropMatchingFirst longest pattern value =
        if longest && n == (firstArgument value).length then [] else value.drop n := by
  intro matching
  have hpairwise := pairwise_matchingLengths
    (reached_upcoming (List.suffix_refl (patternParts (pattern.length + 1) pattern))) 0 (firstArgument value)
  have hmem : (· ∈ matchingLengths 0 (upcoming (patternParts (pattern.length + 1) pattern)) (firstArgument value)) =
      matching := funext fun n => propext mem_matchingLengths
  unfold dropMatchingFirst
  dsimp only
  generalize matchingLengths 0 (upcoming (patternParts (pattern.length + 1) pattern)) (firstArgument value) = lengths
    at hpairwise hmem
  rw [← hmem]
  cases hn : if longest then lengths.getLast? else lengths.head? with
  | some n => exact Or.inr ⟨n, isBest_of_pairwise hpairwise hn, rfl⟩
  | none =>
    refine Or.inl ⟨fun n hmem => ?_, rfl⟩
    cases longest with
    | false => exact List.ne_nil_of_mem hmem (List.head?_eq_none_iff.mp hn)
    | true => exact List.ne_nil_of_mem hmem (List.getLast?_eq_none_iff.mp hn)

/-! ## Ends that match -/

theorem endsOf_eq (cs : List Char) : endsOf cs = (List.range (cs.length + 1)).map cs.drop := by
  induction cs with
  | nil => rfl
  | cons c cs ih =>
    rw [endsOf, ih, List.length_cons, @List.range_succ_eq_map (cs.length + 1), List.map_cons, List.map_map]
    rfl

/-- The beginnings of the ends that parts match. -/
def endPlaces (parts : List PatternPart) (cs : List Char) : List Nat :=
  (List.range (cs.length + 1)).filter fun n => matchParts parts (cs.drop n)

variable {parts : List PatternPart}

theorem mem_endPlaces {n : Nat} : n ∈ endPlaces parts cs ↔ n ≤ cs.length ∧ Matches parts (cs.drop n) := by
  rw [endPlaces, List.mem_filter, List.mem_range, matchParts_iff, Nat.lt_succ_iff]

theorem pairwise_endPlaces (parts : List PatternPart) (cs : List Char) : (endPlaces parts cs).Pairwise (· < ·) :=
  List.pairwise_lt_range.filter _

theorem findIdx?_endsOf (parts : List PatternPart) (cs : List Char) :
    (endsOf cs).findIdx? (matchParts parts) = (endPlaces parts cs).head? := by
  rw [endsOf_eq, List.findIdx?_map, endPlaces, List.head?_filter]
  ext n
  simp [List.findIdx?_eq_some_iff_getElem, List.find?_range_eq_some]

theorem find?_endsOf (parts : List PatternPart) (cs : List Char) :
    ((endsOf cs).zipIdx.reverse.find? fun tail => matchParts parts tail.1).map Prod.snd =
      (endPlaces parts cs).getLast? := by
  have hzip : (endsOf cs).zipIdx = (List.range (cs.length + 1)).map fun n => (cs.drop n, n) := by
    rw [endsOf_eq]
    exact List.ext_getElem (by simp) (by simp)
  rw [← List.head?_filter, List.filter_reverse, List.head?_reverse, hzip, List.filter_map, List.getLast?_map,
    Option.map_map]
  exact Option.map_id_apply

theorem endPlaces_eq_nil_iff : endPlaces parts cs = [] ↔ ∀ n, ¬ (n ≤ cs.length ∧ Matches parts (cs.drop n)) := by
  rw [List.eq_nil_iff_forall_not_mem]
  simp only [mem_endPlaces]

theorem shortestEnd?_cons (parts : List PatternPart) (start : Nat) (cs : List Char) (arguments : List (List Char)) :
    shortestEnd? parts start (cs :: arguments) = (shortestEnd? parts (start + cs.length + 1) arguments).or
      ((endPlaces parts cs).getLast?.map (start + ·)) := by
  rw [shortestEnd?, ← find?_endsOf, Option.map_map, Option.orElse_eq_or]
  rfl

/-- The place that is found is in the last argument with an end that matches, where the shortest such end begins. -/
theorem shortestEnd?_cases (parts : List PatternPart) (start : Nat) (arguments : List (List Char)) :
    ((∀ cs ∈ arguments, endPlaces parts cs = []) ∧ shortestEnd? parts start arguments = none) ∨
      ∃ before cs after n, arguments = before ++ cs :: after ∧ (∀ other ∈ after, endPlaces parts other = []) ∧
        IsBest true (· ∈ endPlaces parts cs) n ∧
        shortestEnd? parts start arguments = some (start + (before.map fun other => other.length + 1).sum + n) := by
  induction arguments generalizing start with
  | nil => exact Or.inl ⟨nofun, rfl⟩
  | cons cs arguments ih =>
    obtain ⟨hnone, hrest⟩ | ⟨before, cs', after, n, rfl, hafter, hbest, hrest⟩ := ih (start + cs.length + 1)
    · cases hn : (endPlaces parts cs).getLast? with
      | none =>
        refine Or.inl ⟨List.forall_mem_cons.mpr ⟨List.getLast?_eq_none_iff.mp hn, hnone⟩, ?_⟩
        rw [shortestEnd?_cons, hrest, hn]
        rfl
      | some n =>
        refine Or.inr ⟨[], cs, arguments, n, rfl, hnone, isBest_of_pairwise (pairwise_endPlaces parts cs) hn, ?_⟩
        rw [shortestEnd?_cons, hrest, hn]
        rfl
    · refine Or.inr ⟨cs :: before, cs', after, n, rfl, hafter, hbest, ?_⟩
      rw [shortestEnd?_cons, hrest, Option.some_or, List.map_cons, List.sum_cons]
      congr 1
      omega

/-- **The longest end that is taken away is that of the first argument.** -/
theorem dropMatchingLast_longest (pattern : Marked) (value : ValueBytes) :
    let matching (n : Nat) : Prop := n ≤ (firstArgument value).length ∧
      Matches (patternParts (pattern.length + 1) pattern) ((firstArgument value).drop n)
    ((∀ n, ¬ matching n) ∧ dropMatchingLast true pattern value = value) ∨
      ∃ n, IsBest false matching n ∧ dropMatchingLast true pattern value = value.take n := by
  intro matching
  have hmem : (· ∈ endPlaces (patternParts (pattern.length + 1) pattern) (firstArgument value)) = matching :=
    funext fun n => propext mem_endPlaces
  unfold dropMatchingLast
  rw [← hmem]
  dsimp only
  rw [if_pos rfl, findIdx?_endsOf]
  cases hn : (endPlaces (patternParts (pattern.length + 1) pattern) (firstArgument value)).head? with
  | none => exact Or.inl ⟨fun n hmem => List.ne_nil_of_mem hmem (List.head?_eq_none_iff.mp hn), rfl⟩
  | some n => exact Or.inr ⟨n, isBest_of_pairwise (pairwise_endPlaces _ _) hn, rfl⟩

/-- **The shortest end that is taken away is that of the last argument which has one**, with what comes after it. -/
theorem dropMatchingLast_shortest (pattern : Marked) (value : ValueBytes) :
    let matching (argument : List Char) (n : Nat) : Prop := n ≤ argument.length ∧
      Matches (patternParts (pattern.length + 1) pattern) (argument.drop n)
    let arguments := (value.splitOnP Option.isNone).map fun argument => argument.filterMap id
    ((∀ argument ∈ arguments, ∀ n, ¬ matching argument n) ∧ dropMatchingLast false pattern value = value) ∨
      ∃ before argument after n, arguments = before ++ argument :: after ∧
        (∀ other ∈ after, ∀ n, ¬ matching other n) ∧ IsBest true (matching argument) n ∧
        dropMatchingLast false pattern value =
          value.take ((before.map fun other => other.length + 1).sum + n) := by
  intro matching arguments
  have hmem (argument : List Char) :
      (· ∈ endPlaces (patternParts (pattern.length + 1) pattern) argument) = matching argument :=
    funext fun n => propext mem_endPlaces
  have hdrop : dropMatchingLast false pattern value =
      ((shortestEnd? (patternParts (pattern.length + 1) pattern) 0 arguments).map value.take).getD value := by
    unfold dropMatchingLast
    dsimp only
    rw [if_neg Bool.false_ne_true]
    cases shortestEnd? (patternParts (pattern.length + 1) pattern) 0 arguments <;> rfl
  obtain ⟨hnone, hplace⟩ | ⟨before, argument, after, n, harguments, hafter, hbest, hplace⟩ :=
    shortestEnd?_cases (patternParts (pattern.length + 1) pattern) 0 arguments
  · rw [hplace] at hdrop
    exact Or.inl ⟨fun argument h => endPlaces_eq_nil_iff.mp (hnone argument h), hdrop⟩
  · rw [hplace, Nat.zero_add] at hdrop
    exact Or.inr ⟨before, argument, after, n, harguments, fun other h => endPlaces_eq_nil_iff.mp (hafter other h),
      hmem argument ▸ hbest, hdrop⟩

end Rebuild.Shell
