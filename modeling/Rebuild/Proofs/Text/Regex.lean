import Rebuild.Text.Regex.Basic

/-!
# The match that counts

`Matches` says which stretches an expression matches. For expressions that do not refer back to groups:

- the ends that are found from a place on are those of the stretches that match there (`reaches_ends_iff`), although
  repetition is cut off after as many rounds as there are places, and goes on only from places that are new
  (`Repeats.shorten`, `reaches_rounds`);
- the match at a place is the longest that begins there (`matchAt?_cases`);
- the match that counts begins first, and is the longest of those that begin there, and there is one if anything
  matches (`find?_cases`).
-/

namespace Rebuild.Text.Regex

/-- One stretch after the other, so many of them. -/
def Repeats (R : Nat → Nat → Prop) : Nat → Nat → Nat → Prop
  | 0, i, j => i = j
  | n + 1, i, j => ∃ k, R i k ∧ Repeats R n k j

/-- The stretches that an expression matches; one that refers back to a group is none of those that are told here. -/
def Matches (s : Subject) : Regex → Nat → Nat → Prop
  | .empty, i, j => j = i
  | .char c, i, j => j = i + 1 ∧ ∃ d, s.at? i = some d ∧ s.same c d = true
  | .any, i, j => j = i + 1 ∧ i < s.chars.size
  | .oneOf negated ranges, i, j => j = i + 1 ∧ ∃ c, s.at? i = some c ∧ s.isIn ranges c ≠ negated
  | .start, i, j => j = i ∧ (i = 0 ∨ s.hasLines = true ∧ s.at? (i - 1) = some '\n')
  | .stop, i, j => j = i ∧ (i = s.chars.size ∨ s.hasLines = true ∧ s.at? i = some '\n')
  | .textStart, i, j => j = i ∧ i = 0
  | .textStop, i, j => j = i ∧ i = s.chars.size
  | .wordEdge, i, j => j = i ∧ (s.wordsAround i).1 ≠ (s.wordsAround i).2
  | .noWordEdge, i, j => j = i ∧ (s.wordsAround i).1 = (s.wordsAround i).2
  | .wordStart, i, j => j = i ∧ s.wordsAround i = (false, true)
  | .wordStop, i, j => j = i ∧ s.wordsAround i = (true, false)
  | .noWordBefore, i, j => j = i ∧ (s.wordsAround i).1 = false
  | .noWordAfter, i, j => j = i ∧ (s.wordsAround i).2 = false
  | .group _ r, i, j => Matches s r i j
  | .sequence a b, i, j => ∃ k, Matches s a i k ∧ Matches s b k j
  | .either a b, i, j => Matches s a i j ∨ Matches s b i j
  | .times least most r, i, j =>
    ∃ n, least ≤ n ∧ (∀ m, most = some m → n ≤ max least m) ∧ Repeats (Matches s r) n i j
  | .back _, _, _ => False

/-! ## Repetition -/

section

variable {R : Nat → Nat → Prop} {m n i j k : Nat}

theorem repeats_add_iff : Repeats R (m + n) i j ↔ ∃ k, Repeats R m i k ∧ Repeats R n k j := by
  induction m generalizing i with
  | zero =>
    rw [Nat.zero_add]
    exact ⟨fun h => ⟨i, rfl, h⟩, fun ⟨_, h, h'⟩ => h ▸ h'⟩
  | succ m ih =>
    rw [Nat.add_right_comm]
    constructor
    · rintro ⟨l, hl, h⟩
      obtain ⟨k, hk, h⟩ := ih.mp h
      exact ⟨k, ⟨l, hl, hk⟩, h⟩
    · rintro ⟨k, ⟨l, hl, hk⟩, h⟩
      exact ⟨l, hl, ih.mpr ⟨k, hk, h⟩⟩

/-- Repetition stays between where it begins and a bound, as each stretch does. -/
theorem Repeats.le {size : Nat} (hR : ∀ i j, R i j → i ≤ j ∧ j ≤ max i size) (h : Repeats R n i j) :
    i ≤ j ∧ j ≤ max i size := by
  induction n generalizing i with
  | zero =>
    obtain rfl : i = j := h
    omega
  | succ n ih =>
    obtain ⟨k, hk, h⟩ := h
    have hfirst := hR i k hk
    have hrest := ih h
    omega

/-- Without the stretches that are empty there are no more than places passed. -/
theorem Repeats.shorten (hR : ∀ i j, R i j → i ≤ j) (h : Repeats R n i j) : i ≤ j ∧ ∃ m ≤ j - i, Repeats R m i j := by
  induction n generalizing i with
  | zero =>
    obtain rfl : i = j := h
    exact ⟨Nat.le_refl _, 0, Nat.zero_le _, rfl⟩
  | succ n ih =>
    obtain ⟨k, hk, h⟩ := h
    obtain ⟨hle, m, hm, hrest⟩ := ih h
    have hik := hR i k hk
    refine ⟨Nat.le_trans hik hle, ?_⟩
    rcases Nat.eq_or_lt_of_le hik with rfl | hlt
    · exact ⟨m, hm, hrest⟩
    · exact ⟨m + 1, by omega, k, hk, hrest⟩

/-- A repetition that begins in a set either stays in it or leaves it to another one, if no stretch leads elsewhere. -/
theorem Repeats.stay_or_leave {A B : Nat → Prop} (hstep : ∀ i j, A i → R i j → A j ∨ B j) (h : Repeats R n i j)
    (hi : A i) : A j ∨ ∃ m < n, ∃ k, B k ∧ Repeats R m k j := by
  induction n generalizing i with
  | zero =>
    obtain rfl : i = j := h
    exact Or.inl hi
  | succ n ih =>
    obtain ⟨k, hk, h⟩ := h
    rcases hstep i k hi hk with hA | hB
    · exact (ih h hA).imp id fun ⟨m, hm, hrest⟩ => ⟨m, Nat.lt_succ_of_lt hm, hrest⟩
    · exact Or.inr ⟨n, Nat.lt_succ_self n, k, hB, h⟩

end

/-- A match goes on from where it begins, and not beyond the text. -/
theorem Matches.le {s : Subject} {r : Regex} {i j : Nat} (h : Matches s r i j) : i ≤ j ∧ j ≤ max i s.chars.size := by
  have hlt {i : Nat} {c : Char} (hc : s.at? i = some c) : i < s.chars.size := (Array.getElem?_eq_some_iff.mp hc).1
  induction r generalizing i j with
  | char c =>
    obtain ⟨rfl, d, hd, -⟩ := h
    have := hlt hd
    omega
  | any =>
    obtain ⟨rfl, h⟩ := h
    omega
  | oneOf negated ranges =>
    obtain ⟨rfl, c, hc, -⟩ := h
    have := hlt hc
    omega
  | group _ r ih => exact ih h
  | sequence a b iha ihb =>
    obtain ⟨k, ha, hb⟩ := h
    have := iha ha
    have := ihb hb
    omega
  | either a b iha ihb => exact h.elim iha ihb
  | times least most r ih =>
    obtain ⟨n, -, -, h⟩ := h
    exact h.le fun i j hij => ih hij
  | back => exact h.elim
  | empty =>
    obtain rfl : j = i := h
    omega
  | _ =>
    obtain ⟨rfl, -⟩ := h
    omega

/-! ## Progress without repetitions -/

/-- A place that is reached. -/
def Reaches (ps : List Progress) (j : Nat) : Prop :=
  ∃ p ∈ ps, p.place = j

section

variable {ps qs : List Progress} {p : Progress} {i j : Nat}

theorem reaches_cons : Reaches (p :: ps) j ↔ p.place = j ∨ Reaches ps j := by
  simp [Reaches]

theorem reaches_append : Reaches (ps ++ qs) j ↔ Reaches ps j ∨ Reaches qs j := by
  simp only [Reaches, List.mem_append, or_and_right, exists_or]

theorem reaches_reverse : Reaches ps.reverse j ↔ Reaches ps j := by
  simp [Reaches]

theorem reaches_mergeSort {le : Progress → Progress → Bool} : Reaches (ps.mergeSort le) j ↔ Reaches ps j := by
  simp [Reaches, List.mem_mergeSort]

/-- Where groups do not count, progress is known if its place is reached. -/
theorem isKnown_iff : isKnown false ps p = true ↔ Reaches ps p.place := by
  simp [isKnown, Reaches]

/-- Leaving out repetitions leaves the places. -/
theorem reaches_distinct : Reaches (distinct false ps) j ↔ Reaches ps j := by
  have hfold (found : List Progress) :
      Reaches (ps.foldl (fun found p => if isKnown false found p then found else p :: found) found) j ↔
        Reaches found j ∨ Reaches ps j := by
    induction ps generalizing found with
    | nil => simp [Reaches]
    | cons p ps ih =>
      rw [List.foldl_cons, ih, reaches_cons]
      split
      · next hknown =>
        rw [isKnown_iff] at hknown
        grind
      · rw [reaches_cons]
        grind
  rw [distinct, reaches_reverse]
  exact (hfold []).trans (or_iff_right (by simp [Reaches]))

theorem reaches_filter_new {reached : List Progress} :
    Reaches (ps.filter fun p => !isKnown false reached p) j ↔ Reaches ps j ∧ ¬ Reaches reached j := by
  have hnew (p : Progress) :
      p ∈ (ps.filter fun p => !isKnown false reached p) ↔ p ∈ ps ∧ ¬ Reaches reached p.place := by
    rw [List.mem_filter, Bool.not_eq_true', ← Bool.not_eq_true, isKnown_iff]
  simp only [Reaches, hnew]
  constructor
  · rintro ⟨p, ⟨hp, hp'⟩, rfl⟩
    exact ⟨⟨p, hp, rfl⟩, hp'⟩
  · rintro ⟨⟨p, hp, rfl⟩, hp'⟩
    exact ⟨p, ⟨hp, hp'⟩, rfl⟩

end

section

variable {R : Nat → Nat → Prop} {step : Progress → List Progress} (hstep : ∀ p j, Reaches (step p) j ↔ R p.place j)
include hstep

theorem reaches_flatMap {ps : List Progress} {j : Nat} :
    Reaches (ps.flatMap step) j ↔ ∃ i, Reaches ps i ∧ R i j := by
  simp only [Reaches, List.mem_flatMap]
  constructor
  · rintro ⟨q, ⟨p, hp, hq⟩, rfl⟩
    exact ⟨p.place, ⟨p, hp, rfl⟩, (hstep p q.place).mp ⟨q, hq, rfl⟩⟩
  · rintro ⟨_, ⟨p, hp, rfl⟩, hR⟩
    obtain ⟨q, hq, rfl⟩ := (hstep p j).mpr hR
    exact ⟨q, ⟨p, hp, hq⟩, rfl⟩

theorem reaches_repeated {count : Nat} {ps : List Progress} {j : Nat} :
    Reaches (repeated false step count ps) j ↔ ∃ i, Reaches ps i ∧ Repeats R count i j := by
  induction count generalizing ps with
  | zero => exact ⟨fun h => ⟨j, h, rfl⟩, fun ⟨_, h, heq⟩ => heq ▸ h⟩
  | succ count ih =>
    rw [repeated, ih]
    simp only [reaches_distinct, reaches_flatMap hstep]
    constructor
    · rintro ⟨k, ⟨i, hi, hk⟩, h⟩
      exact ⟨i, hi, k, hk, h⟩
    · rintro ⟨i, hi, k, hk, h⟩
      exact ⟨k, ⟨i, hi, hk⟩, h⟩

/-- **Rounds reach what is reached by so many repetitions**, if before them only from what is new a step leads to places
that were not reached. -/
theorem reaches_rounds {limit : Nat} {reached new : List Progress} (hnew : ∀ i, Reaches new i → Reaches reached i)
    (hclosed : ∀ i j, Reaches reached i → R i j → Reaches new i ∨ Reaches reached j) {j : Nat} :
    Reaches (rounds false step limit reached new) j ↔
      Reaches reached j ∨ ∃ n ≤ limit, ∃ i, Reaches new i ∧ Repeats R n i j := by
  induction limit generalizing reached new with
  | zero =>
    refine ⟨Or.inl, fun h => h.elim id ?_⟩
    rintro ⟨n, hn, i, hi, h⟩
    obtain rfl := Nat.le_zero.mp hn
    obtain rfl : i = j := h
    exact hnew i hi
  | succ limit ih =>
    rw [rounds]
    have hnext (k : Nat) :
        Reaches ((distinct false (new.flatMap step)).filter fun p => !isKnown false reached p) k ↔
          (∃ i, Reaches new i ∧ R i k) ∧ ¬ Reaches reached k := by
      rw [reaches_filter_new, reaches_distinct, reaches_flatMap hstep]
    generalize (distinct false (new.flatMap step)).filter (fun p => !isKnown false reached p) = next at hnext
    have hleave (i j : Nat) (hi : Reaches reached i) (hR : R i j) : Reaches reached j ∨ Reaches next j := by
      by_cases hj : Reaches reached j
      · exact Or.inl hj
      · exact Or.inr ((hnext j).mpr ⟨⟨i, (hclosed i j hi hR).resolve_right hj, hR⟩, hj⟩)
    split
    · next hempty =>
      refine ⟨Or.inl, fun h => h.elim id ?_⟩
      rintro ⟨n, -, i, hi, h⟩
      rcases h.stay_or_leave hleave (hnew i hi) with hj | ⟨m, -, k, ⟨p, hp, -⟩, -⟩
      · exact hj
      · rw [List.isEmpty_iff.mp hempty] at hp
        cases hp
    · rw [ih (fun i hi => reaches_append.mpr (Or.inr hi)), reaches_append]
      · constructor
        · rintro ((hj | hj) | ⟨n, hn, i, hi, h⟩)
          · exact Or.inl hj
          · obtain ⟨⟨i, hi, hR⟩, -⟩ := (hnext j).mp hj
            exact Or.inr ⟨1, by omega, i, hi, j, hR, rfl⟩
          · obtain ⟨⟨k, hk, hR⟩, -⟩ := (hnext i).mp hi
            exact Or.inr ⟨n + 1, Nat.succ_le_succ hn, k, hk, i, hR, h⟩
        · rintro (hj | ⟨n, hn, i, hi, h⟩)
          · exact Or.inl (Or.inl hj)
          · rcases h.stay_or_leave hleave (hnew i hi) with hj | ⟨m, hm, k, hk, h⟩
            · exact Or.inl (Or.inl hj)
            · exact Or.inr ⟨m, by omega, k, hk, h⟩
      · intro i j hi hR
        rcases reaches_append.mp hi with hi | hi
        · exact Or.inr (reaches_append.mpr (hleave i j hi hR))
        · exact Or.inl hi

end

/-! ## The ends of matches -/

section

variable {s : Subject} {p : Progress} {i j : Nat}

theorem reaches_if {P : Prop} [Decidable P] {place : Nat} {groups : List (Nat × Nat × Nat)} :
    Reaches (if P then [⟨place, groups⟩] else []) j ↔ j = place ∧ P := by
  by_cases h : P <;> simp [Reaches, h, eq_comm]

/-- As many repetitions as there are places are enough. -/
theorem matches_times_none_iff {least : Nat} {r : Regex} : Matches s (.times least none r) i j ↔
    ∃ n ≤ s.chars.size + 1, Repeats (Matches s r) (least + n) i j := by
  constructor
  · rintro ⟨n, hn, -, h⟩
    obtain ⟨m, rfl⟩ := Nat.exists_eq_add_of_le hn
    obtain ⟨k, hk, h⟩ := repeats_add_iff.mp h
    have hbound := h.le fun i j hij => hij.le
    obtain ⟨-, m', hm', h⟩ := h.shorten fun i j hij => hij.le.1
    exact ⟨m', by omega, repeats_add_iff.mpr ⟨k, hk, h⟩⟩
  · rintro ⟨n, -, h⟩
    exact ⟨least + n, Nat.le_add_right _ _, nofun, h⟩

theorem matches_times_some_iff {least most : Nat} {r : Regex} : Matches s (.times least (some most) r) i j ↔
    ∃ n ≤ most - least, Repeats (Matches s r) (least + n) i j := by
  constructor
  · rintro ⟨n, hn, hmost, h⟩
    obtain ⟨m, rfl⟩ := Nat.exists_eq_add_of_le hn
    have := hmost most rfl
    exact ⟨m, by omega, h⟩
  · rintro ⟨n, hn, h⟩
    refine ⟨least + n, Nat.le_add_right _ _, ?_, h⟩
    intro m hm
    cases hm
    omega

theorem reaches_times {R : Nat → Nat → Prop} {step : Progress → List Progress}
    (hstep : ∀ p j, Reaches (step p) j ↔ R p.place j) (least limit : Nat) {p : Progress} {j : Nat} :
    Reaches (rounds false step limit (repeated false step least [p]) (repeated false step least [p])) j ↔
      ∃ n ≤ limit, Repeats R (least + n) p.place j := by
  have hfirst (i : Nat) : Reaches (repeated false step least [p]) i ↔ Repeats R least p.place i := by
    rw [reaches_repeated hstep]
    simp [Reaches]
  rw [reaches_rounds hstep (fun _ => id) fun _ _ hi _ => Or.inl hi]
  simp only [hfirst, repeats_add_iff]
  constructor
  · rintro (h | ⟨n, hn, i, hi, h⟩)
    · exact ⟨0, Nat.zero_le _, j, h, rfl⟩
    · exact ⟨n, hn, i, hi, h⟩
  · rintro ⟨n, hn, i, hi, h⟩
    exact Or.inr ⟨n, hn, i, hi, h⟩

/-- **The ends that are found are those of the stretches that match.** -/
theorem reaches_ends_iff {r : Regex} (hr : r.refersBack = false) {p : Progress} {j : Nat} :
    Reaches (r.ends s false p) j ↔ Matches s r p.place j := by
  induction r generalizing p j with
  | empty => simp [ends, Reaches, Matches, eq_comm]
  | char c => rw [ends, reaches_if, Matches, Option.any_eq_true]
  | any => rw [ends, reaches_if, Matches]
  | oneOf negated ranges =>
    rw [ends, reaches_if, Matches, Option.any_eq_true]
    simp only [bne_iff_ne]
  | start | stop =>
    rw [ends, reaches_if, Matches]
    simp only [Bool.or_eq_true, Bool.and_eq_true, beq_iff_eq]
  | textStart | textStop => rw [ends, reaches_if, Matches, beq_iff_eq]
  | wordEdge => rw [ends, reaches_if, Matches, bne_iff_ne]
  | noWordEdge => rw [ends, reaches_if, Matches, beq_iff_eq]
  | wordStart | wordStop =>
    rw [ends, reaches_if, Matches]
    simp [Prod.ext_iff]
  | noWordBefore | noWordAfter =>
    rw [ends, ← ite_not, reaches_if, Matches, Bool.not_eq_true]
  | group number r ih =>
    rw [ends, Matches, ← ih hr]
    simp only [Reaches, List.mem_map]
    constructor
    · rintro ⟨_, ⟨q, hq, rfl⟩, h⟩
      exact ⟨q, hq, h⟩
    · rintro ⟨q, hq, h⟩
      exact ⟨_, ⟨q, hq, rfl⟩, h⟩
  | sequence a b iha ihb =>
    obtain ⟨ha, hb⟩ := Bool.or_eq_false_iff.mp hr
    rw [ends, reaches_distinct, reaches_flatMap fun p j => ihb hb]
    simp only [iha ha]
    rfl
  | either a b iha ihb =>
    obtain ⟨ha, hb⟩ := Bool.or_eq_false_iff.mp hr
    rw [ends, reaches_mergeSort, reaches_distinct, reaches_append, iha ha, ihb hb]
    rfl
  | times least most r ih =>
    cases most with
    | none =>
      rw [matches_times_none_iff, ← reaches_times fun p j => ih hr]
      exact reaches_mergeSort
    | some most =>
      rw [matches_times_some_iff, ← reaches_times fun p j => ih hr]
      exact reaches_mergeSort
  | back number => cases hr

end

/-! ## The match that counts -/

/-- A match goes as far as any that begins with it. -/
def IsLongest (s : Subject) (r : Regex) (m : Match) : Prop :=
  Matches s r m.first m.last ∧ ∀ j, Matches s r m.first j → j ≤ m.last

theorem exists_foldl_farther (ps : List Progress) (q : Progress) :
    ∃ best, ps.foldl farther (some q) = some best ∧ (best = q ∨ best ∈ ps) ∧ q.place ≤ best.place ∧
      ∀ p ∈ ps, p.place ≤ best.place := by
  induction ps generalizing q with
  | nil => exact ⟨q, rfl, Or.inl rfl, Nat.le_refl _, nofun⟩
  | cons p ps ih =>
    obtain ⟨hp, hq, hnext⟩ : p.place ≤ (if q.place < p.place then p else q).place ∧
        q.place ≤ (if q.place < p.place then p else q).place ∧
        farther (some q) p = some (if q.place < p.place then p else q) := by
      unfold farther
      split <;> simp <;> omega
    obtain ⟨best, hbest, hmem, hle, hall⟩ := ih (if q.place < p.place then p else q)
    refine ⟨best, by rw [List.foldl_cons, hnext, hbest], ?_, Nat.le_trans hq hle,
      List.forall_mem_cons.mpr ⟨Nat.le_trans hp hle, hall⟩⟩
    rcases hmem with rfl | hmem
    · split
      · exact Or.inr List.mem_cons_self
      · exact Or.inl rfl
    · exact Or.inr (List.mem_cons_of_mem _ hmem)

section

variable {r : Regex} {s : Subject} {limit place : Nat}

theorem findWithin?_of_some {m : Match} (h : r.matchAt? s place = some m) : r.findWithin? s limit place = some m := by
  unfold findWithin?
  rw [h]

theorem findWithin?_zero_of_none (h : r.matchAt? s place = none) : r.findWithin? s 0 place = none := by
  unfold findWithin?
  rw [h]

theorem findWithin?_succ_of_none (h : r.matchAt? s place = none) :
    r.findWithin? s (limit + 1) place = r.findWithin? s limit (place + 1) := by
  conv =>
    lhs
    unfold findWithin?
  rw [h]

end

section

variable {r : Regex} (hr : r.refersBack = false)
include hr

/-- What is found at a place is the longest match that begins there, and nothing is found only if nothing matches. -/
theorem matchAt?_cases (s : Subject) (place : Nat) :
    ((∀ j, ¬ Matches s r place j) ∧ r.matchAt? s place = none) ∨
      ∃ m, r.matchAt? s place = some m ∧ m.first = place ∧ IsLongest s r m := by
  have hends (j : Nat) : Reaches (r.ends s false ⟨place, []⟩) j ↔ Matches s r place j := reaches_ends_iff hr
  rw [matchAt?, hr]
  cases hps : r.ends s false ⟨place, []⟩ with
  | nil =>
    refine Or.inl ⟨fun j hj => ?_, rfl⟩
    obtain ⟨p, hp, -⟩ := (hends j).mpr hj
    rw [hps] at hp
    cases hp
  | cons p ps =>
    obtain ⟨best, hbest, hmem, hle, hall⟩ := exists_foldl_farther ps p
    rw [hps] at hends
    refine Or.inr ⟨⟨place, best.place, best.groups⟩, ?_, rfl, ?_, fun j hj => ?_⟩
    · rw [List.foldl_cons]
      exact congrArg (Option.map _) hbest
    · exact (hends best.place).mp ⟨best, List.mem_cons.mpr hmem, rfl⟩
    · obtain ⟨q, hq, rfl⟩ := (hends j).mpr hj
      rcases List.mem_cons.mp hq with rfl | hq
      · exact hle
      · exact hall q hq

theorem findWithin?_cases (s : Subject) (limit place : Nat) :
    ((∀ i, place ≤ i → i ≤ place + limit → ∀ j, ¬ Matches s r i j) ∧ r.findWithin? s limit place = none) ∨
      ∃ m, r.findWithin? s limit place = some m ∧ place ≤ m.first ∧ m.first ≤ place + limit ∧ IsLongest s r m ∧
        ∀ i, place ≤ i → i < m.first → ∀ j, ¬ Matches s r i j := by
  induction limit generalizing place with
  | zero =>
    obtain ⟨hnone, hfind⟩ | ⟨m, hfind, rfl, hm⟩ := matchAt?_cases hr s place
    · refine Or.inl ⟨fun i hi hi' => ?_, findWithin?_zero_of_none hfind⟩
      obtain rfl : i = place := by omega
      exact hnone
    · exact Or.inr ⟨m, findWithin?_of_some hfind, Nat.le_refl _, Nat.le_refl _, hm, fun i hi hi' => by omega⟩
  | succ limit ih =>
    obtain ⟨hnone, hfind⟩ | ⟨m, hfind, rfl, hm⟩ := matchAt?_cases hr s place
    · have hhere {i : Nat} (hi : place ≤ i) (h : place + 1 ≤ i → ∀ j, ¬ Matches s r i j) : ∀ j, ¬ Matches s r i j := by
        rcases Nat.eq_or_lt_of_le hi with rfl | hlt
        · exact hnone
        · exact h hlt
      rw [findWithin?_succ_of_none hfind]
      obtain ⟨hall, hnext⟩ | ⟨m, hnext, hplace, hlimit, hm, hbefore⟩ := ih (place + 1)
      · exact Or.inl ⟨fun i hi hi' => hhere hi fun hlt => hall i hlt (by omega), hnext⟩
      · exact Or.inr ⟨m, hnext, by omega, by omega, hm, fun i hi hi' => hhere hi fun hlt => hbefore i hlt hi'⟩
    · exact Or.inr ⟨m, findWithin?_of_some hfind, Nat.le_refl _, Nat.le_add_right _ _, hm, fun i hi hi' => by omega⟩

/-- **The match that counts begins first, and is the longest of those that begin there**; if there is none, nothing
matches from that place on. -/
theorem find?_cases (s : Subject) (place : Nat) :
    ((∀ i, place ≤ i → i ≤ s.chars.size → ∀ j, ¬ Matches s r i j) ∧ r.find? s place = none) ∨
      ∃ m, r.find? s place = some m ∧ place ≤ m.first ∧ m.first ≤ s.chars.size ∧ IsLongest s r m ∧
        ∀ i, place ≤ i → i < m.first → ∀ j, ¬ Matches s r i j := by
  by_cases h : s.chars.size < place
  · exact Or.inl ⟨fun i hi hi' => by omega, by rw [find?, if_pos h]⟩
  · have hplace : place + (s.chars.size - place) = s.chars.size := by omega
    have hcases := findWithin?_cases hr s (s.chars.size - place) place
    rw [hplace] at hcases
    rw [find?, if_neg h]
    exact hcases

end

end Rebuild.Text.Regex
