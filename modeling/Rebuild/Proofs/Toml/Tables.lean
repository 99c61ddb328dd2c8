import Mathlib.Data.List.Nodup
import Mathlib.Data.Nat.Init
import Rebuild.Toml.Document

/-!
# Tables without repeated keys

No table of a document has a key twice, at whatever depth (`Value.Distinct`). What is added to a table has a new key,
and what is changed keeps its key, so each statement keeps this (`DistinctKeys.add?`), and so does each entry of a table
in braces (`distinct_of_value?`). A whole document has it (`distinctKeys_of_entries?`), and so a key of it has one
value: the one that is looked up.
-/

namespace Rebuild.Toml

/-- No table within a value has a key twice. -/
inductive Value.Distinct : Value → Prop
  | string (text : String) : Distinct (.string text)
  | integer (n : Int) : Distinct (.integer n)
  | float (f : FloatText) : Distinct (.float f)
  | boolean (b : Bool) : Distinct (.boolean b)
  | dateTime : Distinct .dateTime
  | nonNumber : Distinct .nonNumber
  | array {ofHeaders : Bool} {elements : List Value} (helements : ∀ v ∈ elements, v.Distinct) :
    Distinct (.array ofHeaders elements)
  | table {origin : Origin} {entries : Entries} (hkeys : (entries.map Prod.fst).Nodup)
    (hvalues : ∀ e ∈ entries, e.2.Distinct) : Distinct (.table origin entries)

/-- No key comes twice, here or in a table within a value. -/
structure DistinctKeys (entries : Entries) : Prop where
  keys : (entries.map Prod.fst).Nodup
  values : ∀ e ∈ entries, e.2.Distinct

namespace DistinctKeys

variable {entries entries' inner : Entries} {key : String} {value : Value}

theorem nil : DistinctKeys [] := ⟨List.nodup_nil, by simp⟩

theorem table (h : DistinctKeys entries) (origin : Origin) : (Value.table origin entries).Distinct :=
  .table h.keys h.values

theorem of_table {origin : Origin} (h : (Value.table origin entries).Distinct) : DistinctKeys entries := by
  cases h with
  | table hkeys hvalues => exact ⟨hkeys, hvalues⟩

/-- What is looked up has no key twice. -/
theorem distinct_of_lookup (h : DistinctKeys entries) (hlookup : entries.lookup key = some value) : value.Distinct := by
  obtain ⟨before, after, rfl, _⟩ := List.lookup_eq_some_iff.mp hlookup
  exact h.values (key, value) (by simp)

/-- An entry under a new key is added. -/
theorem concat (h : DistinctKeys entries) (hnew : entries.lookup key = none) (hvalue : value.Distinct) :
    DistinctKeys (entries ++ [(key, value)]) where
  keys := by
    have hkey : key ∉ entries.map Prod.fst := fun hmem => by
      obtain ⟨e, he, rfl⟩ := List.mem_map.mp hmem
      simpa using List.lookup_eq_none_iff.mp hnew e he
    rw [List.map_append]
    exact List.nodup_append_comm.mp (List.nodup_cons.mpr ⟨hkey, h.keys⟩)
  values := by
    intro e he
    rcases List.mem_append.mp he with he | he
    · exact h.values e he
    · rw [List.mem_singleton.mp he]
      exact hvalue

/-- A value is replaced under its key. -/
theorem replace (h : DistinctKeys entries) (hvalue : value.Distinct) : DistinctKeys (replace entries key value) where
  keys := by
    have hkeys : (Toml.replace entries key value).map Prod.fst = entries.map Prod.fst := by
      unfold Toml.replace
      rw [List.map_map]
      refine List.map_congr_left fun e _ => ?_
      dsimp only [Function.comp_apply]
      split
      · next he => exact (eq_of_beq he).symm
      · rfl
    rw [hkeys]
    exact h.keys
  values := by
    intro e he
    obtain ⟨e', he', rfl⟩ := List.mem_map.mp he
    split
    · exact hvalue
    · exact h.values e' he'

/-- The last table of an array is replaced. -/
theorem array_concat {elements : List Value} {origin : Origin} (h : (Value.array true elements).Distinct)
    (hinner : DistinctKeys inner) : (Value.array true (elements.dropLast ++ [.table origin inner])).Distinct := by
  cases h with
  | array helements =>
    refine .array fun v hv => ?_
    rcases List.mem_append.mp hv with hv | hv
    · exact helements v (List.dropLast_subset _ hv)
    · rw [List.mem_singleton.mp hv]
      exact hinner.table origin

theorem of_getLast? {elements : List Value} {origin : Origin} (h : (Value.array true elements).Distinct)
    (hlast : elements.getLast? = some (.table origin inner)) : DistinctKeys inner := by
  cases h with
  | array helements => exact of_table (helements _ (List.mem_of_getLast? hlast))

end DistinctKeys

/-- Whether a change of entries lets no key come twice. -/
def KeepsKeys (f : Entries → Option Entries) : Prop :=
  ∀ entries entries', f entries = some entries' → DistinctKeys entries → DistinctKeys entries'

namespace KeepsKeys

variable {f : Entries → Option Entries}

theorem insert? (key : String) {value : Value} (hvalue : value.Distinct) : KeepsKeys (insert? key value) := by
  intro entries entries' h hentries
  unfold Toml.insert? at h
  split at h
  · next hnew => cases h; exact hentries.concat hnew hvalue
  · cases h

theorem alterAtHeader (hf : KeepsKeys f) (path : List String) : KeepsKeys (alterAtHeader f · path) := by
  induction path with
  | nil => exact hf
  | cons key path ih =>
    intro entries entries' h hentries
    dsimp only [Toml.alterAtHeader] at h
    split at h
    · next hnew =>
      obtain ⟨inner, hinner, rfl⟩ := Option.map_eq_some_iff.mp h
      exact hentries.concat hnew ((ih _ _ hinner .nil).table .path)
    · cases h
    · next origin inner _ hlookup =>
      obtain ⟨inner', hinner, rfl⟩ := Option.map_eq_some_iff.mp h
      exact hentries.replace ((ih _ _ hinner (.of_table (hentries.distinct_of_lookup hlookup))).table origin)
    · next elements hlookup =>
      have harray := hentries.distinct_of_lookup hlookup
      split at h
      · next origin inner hlast =>
        obtain ⟨inner', hinner, rfl⟩ := Option.map_eq_some_iff.mp h
        exact hentries.replace (DistinctKeys.array_concat harray (ih _ _ hinner (.of_getLast? harray hlast)))
      · cases h
    · cases h

theorem alterAtKeys (hf : KeepsKeys f) (origin : Origin) (path : List String) :
    KeepsKeys (alterAtKeys f origin · path) := by
  induction path generalizing origin with
  | nil =>
    intro entries entries' h hentries
    dsimp only [Toml.alterAtKeys] at h
    split at h
    · exact hf _ _ h hentries
    · cases h
  | cons key path ih =>
    intro entries entries' h hentries
    dsimp only [Toml.alterAtKeys] at h
    split at h
    · next hnew =>
      obtain ⟨inner, hinner, rfl⟩ := Option.map_eq_some_iff.mp h
      exact hentries.concat hnew ((ih _ _ _ hinner .nil).table .dotted)
    · cases h
    · cases h
    · next origin inner _ _ hlookup =>
      obtain ⟨inner', hinner, rfl⟩ := Option.map_eq_some_iff.mp h
      exact hentries.replace ((ih _ _ _ hinner (.of_table (hentries.distinct_of_lookup hlookup))).table origin)
    · next elements hlookup =>
      have harray := hentries.distinct_of_lookup hlookup
      split at h
      · next origin inner hlast =>
        obtain ⟨inner', hinner, rfl⟩ := Option.map_eq_some_iff.mp h
        exact hentries.replace (DistinctKeys.array_concat harray (ih _ _ _ hinner (.of_getLast? harray hlast)))
      · cases h
    · cases h

theorem insertAtKeys? (keys : List String) {value : Value} (hvalue : value.Distinct) :
    KeepsKeys (insertAtKeys? keys value) := by
  intro entries entries' h hentries
  unfold Toml.insertAtKeys? at h
  split at h
  · cases h
  · next key _ =>
    split at h
    · exact insert? key hvalue _ _ h hentries
    · next path _ => exact (insert? key hvalue).alterAtKeys _ _ _ _ h hentries

theorem openTable? (key : String) : KeepsKeys (openTable? key) := by
  intro entries entries' h hentries
  unfold Toml.openTable? at h
  split at h
  · next hnew => cases h; exact hentries.concat hnew (DistinctKeys.nil.table .header)
  · next inner hlookup =>
    cases h
    exact hentries.replace ((DistinctKeys.of_table (hentries.distinct_of_lookup hlookup)).table .header)
  · cases h

theorem openElement? (key : String) : KeepsKeys (openElement? key) := by
  intro entries entries' h hentries
  have hnew : (Value.table .header []).Distinct := DistinctKeys.nil.table .header
  unfold Toml.openElement? at h
  split at h
  · next hlookup =>
    cases h
    exact hentries.concat hlookup (.array (by simpa using hnew))
  · next elements hlookup =>
    cases h
    refine hentries.replace ?_
    cases hentries.distinct_of_lookup hlookup with
    | array helements => exact .array (List.forall_mem_append.mpr ⟨helements, by simpa using hnew⟩)
  · cases h

end KeepsKeys

/-! ## Values -/

theorem distinct_of_scalar? {text : String} {v : Value} (h : scalar? text = some v) : v.Distinct := by
  unfold scalar? at h
  dsimp only at h
  split at h
  · cases h; exact .boolean true
  split at h
  · cases h; exact .boolean false
  split at h
  · cases h; exact .integer _
  split at h
  · cases h; exact .float _
  split at h
  · cases h; exact .dateTime
  split at h
  · cases h; exact .nonNumber
  · cases h

theorem distinct_of_unquoted? {first : String} {ts : List Token} {r} (h : unquoted? first ts = some r) :
    r.1.Distinct := by
  unfold unquoted? at h
  dsimp only at h
  split at h
  · split at h
    all_goals
      obtain ⟨v, hv, rfl⟩ := Option.map_eq_some_iff.mp h
      exact distinct_of_scalar? hv
  · obtain ⟨v, hv, rfl⟩ := Option.map_eq_some_iff.mp h
    exact distinct_of_scalar? hv

section

variable {depth : Nat} (hvalue : ∀ ts r, value? depth ts = some r → r.1.Distinct)
include hvalue

theorem distinct_of_elements? (ts : List Token) : ∀ r, elements? depth ts = some r → ∀ v ∈ r.1, v.Distinct := by
  intro r h
  unfold elements? at h
  split at h
  · cases h; simp
  · split at h
    · cases h
    · next v rest hv =>
      dsimp only at h
      split at h
      · cases h
        exact List.forall_mem_singleton.mpr (hvalue _ _ hv)
      · next more hmore =>
        obtain ⟨⟨vs, after⟩, hvs, rfl⟩ := Option.map_eq_some_iff.mp h
        have hlt : more.length < ts.length := by
          have hstart := (List.dropWhile_sublist isFiller (l := ts)).length_le
          have hrest := (rest.dropWhile isFiller).2
          rw [hmore, List.length_cons] at hrest
          omega
        exact List.forall_mem_cons.mpr ⟨hvalue _ _ hv, distinct_of_elements? more _ hvs⟩
      · cases h
termination_by ts.length

theorem distinctKeys_of_fields? (entries : Entries) (ts : List Token) (hentries : DistinctKeys entries) :
    ∀ r, fields? depth entries ts = some r → DistinctKeys r.1 := by
  intro r h
  unfold fields? at h
  split at h
  · cases h; exact hentries
  · split at h
    · cases h
    · next keys rest hkeys =>
      dsimp only at h
      split at h
      · next start hstart =>
        split at h
        · cases h
        · next v after hv =>
          split at h
          · cases h
          · next entries' hinsert =>
            have hentries' := KeepsKeys.insertAtKeys? keys (hvalue _ _ hv) _ _ hinsert hentries
            split at h
            · cases h; exact hentries'
            · next more hmore =>
              obtain ⟨⟨fields, last⟩, hfields, rfl⟩ := Option.map_eq_some_iff.mp h
              have hlt : more.length < ts.length := by
                have hfield := (List.dropWhile_sublist isFiller (l := ts)).length_le
                have hvalue := (List.dropWhile_sublist isFiller (l := start)).length_le
                have hrest := (rest.dropWhile isFiller).2
                have hafter := (after.dropWhile isFiller).2
                rw [hstart, List.length_cons] at hrest
                rw [hmore, List.length_cons] at hafter
                omega
              exact distinctKeys_of_fields? entries' more hentries' _ hfields
            · cases h
      · cases h
termination_by ts.length

end

theorem distinct_of_value? (depth : Nat) (ts : List Token) : ∀ r, value? depth ts = some r → r.1.Distinct := by
  intro r h
  unfold value? at h
  split at h
  · cases h; exact .string _
  · obtain ⟨⟨v, rest⟩, hv, rfl⟩ := Option.map_eq_some_iff.mp h
    exact distinct_of_unquoted? hv
  · split at h
    · cases h
    · next depth =>
      obtain ⟨⟨vs, rest⟩, hvs, rfl⟩ := Option.map_eq_some_iff.mp h
      exact .array (distinct_of_elements? (distinct_of_value? depth) _ _ hvs)
  · split at h
    · cases h
    · next depth =>
      obtain ⟨⟨entries, rest⟩, hentries, rfl⟩ := Option.map_eq_some_iff.mp h
      exact (distinctKeys_of_fields? (distinct_of_value? depth) _ _ .nil _ hentries).table .braces
  · cases h
termination_by depth

/-! ## Documents -/

/-- No table in the value of a statement has a key twice. -/
def Statement.Distinct : Statement → Prop
  | .entry _ value => value.Distinct
  | _ => True

theorem distinct_of_statement? {ts : List Token} {r} (h : statement? ts = some r) : r.1.Distinct := by
  unfold statement? at h
  split at h
  · obtain ⟨⟨path, rest⟩, _, h⟩ := Option.bind_eq_some_iff.mp h
    dsimp only at h
    split at h
    · obtain ⟨line, _, h⟩ := Option.bind_eq_some_iff.mp h
      cases h; trivial
    · cases h
  · obtain ⟨⟨path, rest⟩, _, h⟩ := Option.bind_eq_some_iff.mp h
    dsimp only at h
    split at h
    · obtain ⟨line, _, h⟩ := Option.bind_eq_some_iff.mp h
      cases h; trivial
    · cases h
  · obtain ⟨⟨keys, rest⟩, _, h⟩ := Option.bind_eq_some_iff.mp h
    dsimp only at h
    split at h
    · obtain ⟨⟨v, after⟩, hv, h⟩ := Option.bind_eq_some_iff.mp h
      obtain ⟨line, _, h⟩ := Option.bind_eq_some_iff.mp h
      cases h
      exact distinct_of_value? _ _ _ hv
    · cases h

theorem distinct_of_statements? (ts : List Token) : ∀ l, statements? ts = some l → ∀ s ∈ l, s.Distinct := by
  fun_induction statements? ts with
  | case1 => intro l h; cases h; simp
  | case2 => intro l h; cases h
  | case3 t ts _ _ ih => exact ih
  | case4 => intro l h; cases h
  | case5 t ts _ s rest hs ih =>
    intro l h
    obtain ⟨l', hl, rfl⟩ := Option.map_eq_some_iff.mp h
    exact List.forall_mem_cons.mpr ⟨distinct_of_statement? hs, ih l' hl⟩

/-- A statement lets no key of the document come twice. -/
theorem DistinctKeys.add? {r r' : Reading} {s : Statement} (h : DistinctKeys r.entries) (hs : s.Distinct)
    (hadd : r.add? s = some r') : DistinctKeys r'.entries := by
  have hlast {f : String → Entries → Option Entries} (hf : ∀ key, KeepsKeys (f key)) (path : List String) :
      KeepsKeys (alterAtLast f path) := by
    intro entries entries' he hentries
    unfold alterAtLast at he
    split at he
    · cases he
    · exact (hf _).alterAtHeader _ _ _ he hentries
  cases s with
  | table path =>
    obtain ⟨entries, he, rfl⟩ := Option.map_eq_some_iff.mp hadd
    exact hlast KeepsKeys.openTable? path _ _ he h
  | element path =>
    obtain ⟨entries, he, rfl⟩ := Option.map_eq_some_iff.mp hadd
    exact hlast KeepsKeys.openElement? path _ _ he h
  | entry keys value =>
    obtain ⟨entries, he, rfl⟩ := Option.map_eq_some_iff.mp hadd
    exact (KeepsKeys.insertAtKeys? keys hs).alterAtHeader r.path _ _ he h

/-- Statements, one after the other, let no key come twice. -/
theorem DistinctKeys.foldlM_add? : ∀ {l : List Statement} {r r' : Reading}, DistinctKeys r.entries →
    (∀ s ∈ l, s.Distinct) → l.foldlM Reading.add? r = some r' → DistinctKeys r'.entries
  | [], _, _, h, _, hadd => by cases hadd; exact h
  | s :: l, r, r', h, hl, hadd => by
    obtain ⟨hs, hl⟩ := List.forall_mem_cons.mp hl
    rw [List.foldlM_cons] at hadd
    obtain ⟨next, hnext, hadd⟩ := Option.bind_eq_some_iff.mp hadd
    exact (h.add? hs hnext).foldlM_add? hl hadd

/-- **No table of a document has a key twice.** -/
theorem distinctKeys_of_entries? {text : String} {entries : Entries} (h : entries? text = some entries) :
    DistinctKeys entries := by
  obtain ⟨ts, _, h⟩ := Option.bind_eq_some_iff.mp h
  obtain ⟨l, hl, h⟩ := Option.bind_eq_some_iff.mp h
  obtain ⟨reading, hreading, h⟩ := Option.bind_eq_some_iff.mp h
  cases h
  exact DistinctKeys.nil.foldlM_add? (distinct_of_statements? ts l hl) hreading

end Rebuild.Toml
