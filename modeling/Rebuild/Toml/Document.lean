import Rebuild.Toml.Scalar

/-!
# TOML documents

A document is read in two passes. The first reads its statements: headers and entries, with dotted keys not yet taken
apart. The second puts the entries in their tables, and fails where a key is given twice or a complete table is added
to. `entries?` is both.
-/

namespace Rebuild.Toml

/-! ## Adding to tables -/

/-- The entries with another value for a key that is there. -/
def replace (entries : Entries) (key : String) (value : Value) : Entries :=
  entries.map fun e => if e.1 == key then (key, value) else e

/-- Changes the entries at the end of a header's path. A table on the path is made if it is not there, and of an array
of tables the last is meant. -/
def alterAtHeader (f : Entries → Option Entries) (entries : Entries) : List String → Option Entries
  | [] => f entries
  | key :: path =>
    match entries.lookup key with
    | none => (alterAtHeader f [] path).map fun inner => entries ++ [(key, .table .path inner)]
    | some (.table .braces _) => none
    | some (.table origin inner) =>
      (alterAtHeader f inner path).map fun inner => replace entries key (.table origin inner)
    | some (.array true elements) =>
      match elements.getLast? with
      | some (.table origin inner) =>
        (alterAtHeader f inner path).map fun inner =>
          replace entries key (.array true (elements.dropLast ++ [.table origin inner]))
      | _ => none
    | some _ => none

/-- Changes the entries at the end of a dotted key's path, if dotted keys may add to the table there. -/
def alterAtKeys (f : Entries → Option Entries) (origin : Origin) (entries : Entries) : List String → Option Entries
  | [] => if origin == .dotted then f entries else none
  | key :: path =>
    match entries.lookup key with
    | none => (alterAtKeys f .dotted [] path).map fun inner => entries ++ [(key, .table .dotted inner)]
    | some (.table .braces _) | some (.table .header _) => none
    | some (.table origin inner) =>
      (alterAtKeys f origin inner path).map fun inner => replace entries key (.table origin inner)
    | some (.array true elements) =>
      match elements.getLast? with
      | some (.table origin inner) =>
        (alterAtKeys f origin inner path).map fun inner =>
          replace entries key (.array true (elements.dropLast ++ [.table origin inner]))
      | _ => none
    | some _ => none

/-- Adds an entry under a new key. -/
def insert? (key : String) (value : Value) (entries : Entries) : Option Entries :=
  match entries.lookup key with
  | none => some (entries ++ [(key, value)])
  | some _ => none

/-- Adds an entry under a key, or under the last of dotted keys, the others of which lead to it. -/
def insertAtKeys? (keys : List String) (value : Value) (entries : Entries) : Option Entries :=
  match keys.getLast? with
  | none => none
  | some key =>
    match keys.dropLast with
    | [] => insert? key value entries
    | path => alterAtKeys (insert? key value) .header entries path

/-- Opens the table of a header, which must be new or lie on the path of earlier headers only. -/
def openTable? (key : String) (entries : Entries) : Option Entries :=
  match entries.lookup key with
  | none => some (entries ++ [(key, .table .header [])])
  | some (.table .path inner) => some (replace entries key (.table .header inner))
  | some _ => none

/-- Opens a further table of an array that headers make. -/
def openElement? (key : String) (entries : Entries) : Option Entries :=
  match entries.lookup key with
  | none => some (entries ++ [(key, .array true [.table .header []])])
  | some (.array true elements) => some (replace entries key (.array true (elements ++ [.table .header []])))
  | some _ => none

/-! ## Keys and values -/

/-- Whether a token is blank space. -/
def isBlanks : Token → Bool
  | .blanks _ => true
  | _ => false

/-- Whether a token may stand anywhere between the parts of an array or of a table in braces. -/
def isFiller : Token → Bool
  | .blanks _ | .newline | .comment => true
  | _ => false

/-- What follows a part and the blank space after it. -/
def skipBlanks {ts : List Token} (r : Shorter ts) : Shorter ts :=
  r.dropWhile isBlanks

/-- The key that a token stands for. -/
def keyOfToken? : Token → Option String
  | .quoted false text => some text
  | .atom text =>
    if text.toList.all fun c => c.isAlphanum || c == '_' || c == '-' then some text else none
  | _ => none

/-- A key, or any number of keys with dots between them, and what follows them and the blank space after them. -/
def keyParts? : (ts : List Token) → Option (List String × Shorter ts)
  | [] => none
  | t :: ts =>
    match keyOfToken? t with
    | none => none
    | some key =>
      let rest := skipBlanks (.tail t ts)
      match hrest : rest.1 with
      | .dot :: more =>
        match keyParts? (more.dropWhile isBlanks) with
        | none => none
        | some (keys, r) =>
          some (key :: keys, ⟨r.1, by
            have h1 := r.2
            have h2 := (List.dropWhile_sublist isBlanks (l := more)).length_le
            have h3 := rest.2
            rw [hrest] at h3
            simp at h3 ⊢; omega⟩)
      | _ => some ([key], rest)
termination_by ts => ts.length
decreasing_by
  have h2 := (List.dropWhile_sublist isBlanks (l := more)).length_le
  have h3 := rest.2
  rw [hrest] at h3
  simp at h3 ⊢; omega

/-- How many levels of brackets and braces a value may open, and of how many parts a dotted key may be. -/
def maxDepth : Nat := 80

/-- A key, or keys with dots between them, and what follows them and the blank space after them. -/
def keys? (ts : List Token) : Option (List String × Shorter ts) :=
  (keyParts? ts).filter fun (keys, _) => keys.length ≤ maxDepth

/-- Whether a token is a piece of an unquoted value. -/
def isPiece : Token → Bool
  | .atom _ | .dot => true
  | _ => false

/-- The text of the pieces of an unquoted value. -/
def piecesText (ts : List Token) : String :=
  String.join (ts.map fun
    | .atom text => text
    | .dot => "."
    | _ => "")

/-- An unquoted value. A time of day may follow a date and one space. -/
def unquoted? (first : String) (ts : List Token) : Option (Value × { r : List Token // r.length ≤ ts.length }) :=
  let rest := ts.dropWhile isPiece
  have hrest : rest.length ≤ ts.length := (List.dropWhile_sublist isPiece).length_le
  let text := first ++ piecesText (ts.takeWhile isPiece)
  match h : rest with
  | .blanks " " :: .atom time :: more =>
    if afterDate? text.toList == some [] && (time.toList.head?.any Char.isDigit) then
      (scalar? (text ++ " " ++ time ++ piecesText (more.takeWhile isPiece))).map fun v =>
        (v, ⟨more.dropWhile isPiece, by
          have := (List.dropWhile_sublist isPiece (l := more)).length_le
          simp at hrest; omega⟩)
    else (scalar? text).map fun v => (v, ⟨rest, by rw [h]; exact hrest⟩)
  | _ => (scalar? text).map fun v => (v, ⟨rest, by rw [h]; exact hrest⟩)

mutual

/-- A value, in which so many levels of brackets and braces may still be opened. -/
def value? (depth : Nat) (ts : List Token) : Option (Value × Shorter ts) :=
  match ts with
  | .quoted _ text :: ts => some (.string text, .tail _ ts)
  | .atom text :: ts => (unquoted? text ts).map fun (v, r) => (v, ⟨r.1, by have := r.2; simp; omega⟩)
  | .openBracket :: ts =>
    match depth with
    | 0 => none
    | depth + 1 => (elements? depth ts).map fun (vs, r) => (.array false vs, r.cons _)
  | .openBrace :: ts =>
    match depth with
    | 0 => none
    | depth + 1 => (fields? depth [] ts).map fun (entries, r) => (.table .braces entries, r.cons _)
  | _ => none
termination_by (depth, ts.length, 0)
decreasing_by
  · exact Prod.Lex.left _ _ (Nat.lt_succ_self _)
  · exact Prod.Lex.left _ _ (Nat.lt_succ_self _)

/-- The elements of an array, up to its closing bracket. -/
def elements? (depth : Nat) (ts : List Token) : Option (List Value × Shorter ts) :=
  match h : ts.dropWhile isFiller with
  | .closeBracket :: rest =>
    some ([], ⟨rest, by
      have := (List.dropWhile_sublist isFiller (l := ts)).length_le
      rw [h] at this; simp at this; omega⟩)
  | start =>
    have hstart : start.length ≤ ts.length := h ▸ (List.dropWhile_sublist isFiller).length_le
    match value? depth start with
    | none => none
    | some (v, rest) =>
      let rest := rest.dropWhile isFiller
      match hrest : rest.1 with
      | .closeBracket :: more =>
        some ([v], ⟨more, by have := rest.2; rw [hrest] at this; simp at this; omega⟩)
      | .comma :: more =>
        (elements? depth more).map fun (vs, r) =>
          (v :: vs, ⟨r.1, by have := rest.2; have := r.2; simp_all; omega⟩)
      | _ => none
termination_by (depth, ts.length, 1)
decreasing_by
  · rcases Nat.lt_or_eq_of_le hstart with hlt | heq
    · exact Prod.Lex.right _ (Prod.Lex.left _ _ hlt)
    · rw [heq]; exact Prod.Lex.right _ (Prod.Lex.right _ (by decide))
  · refine Prod.Lex.right _ (Prod.Lex.left _ _ ?_)
    have := rest.2; rw [hrest] at this; simp at this; omega

/-- The entries of a table in braces after the given ones, up to the closing brace. -/
def fields? (depth : Nat) (entries : Entries) (ts : List Token) : Option (Entries × Shorter ts) :=
  match h : ts.dropWhile isFiller with
  | .closeBrace :: rest =>
    some (entries, ⟨rest, by
      have := (List.dropWhile_sublist isFiller (l := ts)).length_le
      rw [h] at this; simp at this; omega⟩)
  | field =>
    have hfield : field.length ≤ ts.length := h ▸ (List.dropWhile_sublist isFiller).length_le
    match keys? field with
    | none => none
    | some (keys, rest) =>
      let rest := rest.dropWhile isFiller
      match hrest : rest.1 with
      | .equals :: start =>
        have hstart : (start.dropWhile isFiller).length < ts.length := by
          have h1 := (List.dropWhile_sublist isFiller (l := start)).length_le
          have h2 := rest.2; rw [hrest] at h2; simp at h2; omega
        match value? depth (start.dropWhile isFiller) with
        | none => none
        | some (v, after) =>
          match insertAtKeys? keys v entries with
          | none => none
          | some entries =>
            let after := after.dropWhile isFiller
            match hafter : after.1 with
            | .closeBrace :: more =>
              some (entries, ⟨more, by have := after.2; rw [hafter] at this; simp at this; omega⟩)
            | .comma :: more =>
              (fields? depth entries more).map fun (entries, r) =>
                (entries, ⟨r.1, by have := r.2; have := after.2; rw [hafter] at this; simp at this; omega⟩)
            | _ => none
      | _ => none
termination_by (depth, ts.length, 1)
decreasing_by
  · exact Prod.Lex.right _ (Prod.Lex.left _ _ hstart)
  · refine Prod.Lex.right _ (Prod.Lex.left _ _ ?_)
    have h3 := after.2; rw [hafter] at h3; simp at h3; omega

end

/-! ## Statements -/

/-- A statement of a document. -/
inductive Statement where
  /-- The entries that follow are of the table at this path. -/
  | table (path : List String)
  /-- The entries that follow are of a new table at the end of the array at this path. -/
  | element (path : List String)
  | entry (keys : List String) (value : Value)

/-- What follows the end of a line, at which only blank space and a comment may stand. -/
def endOfLine? {ts : List Token} (r : Shorter ts) : Option (Shorter ts) :=
  let rest := skipBlanks r
  let rest := rest.dropWhile (· == .comment)
  match h : rest.1 with
  | [] => some rest
  | .newline :: more => some ⟨more, by have := rest.2; rw [h] at this; simp at this; omega⟩
  | _ => none

/-- A statement at the beginning of a line, and what follows the line. -/
def statement? (ts : List Token) : Option (Statement × Shorter ts) :=
  match ts with
  | .openBracket :: .openBracket :: rest => do
    let (path, r) ← keys? (rest.dropWhile isBlanks)
    match h : r.1 with
    | .closeBracket :: .closeBracket :: more =>
      let line : Shorter (Token.openBracket :: .openBracket :: rest) := ⟨more, by
        have h1 := (List.dropWhile_sublist isBlanks (l := rest)).length_le
        have h2 := r.2; rw [h] at h2; simp at h2 ⊢; omega⟩
      let r ← endOfLine? line
      some (.element path, r)
    | _ => none
  | .openBracket :: rest => do
    let (path, r) ← keys? (rest.dropWhile isBlanks)
    match h : r.1 with
    | .closeBracket :: more =>
      let line : Shorter (Token.openBracket :: rest) := ⟨more, by
        have h1 := (List.dropWhile_sublist isBlanks (l := rest)).length_le
        have h2 := r.2; rw [h] at h2; simp at h2 ⊢; omega⟩
      let r ← endOfLine? line
      some (.table path, r)
    | _ => none
  | ts => do
    let (keys, r) ← keys? ts
    match h : r.1 with
    | .equals :: start =>
      let (v, after) ← value? maxDepth (start.dropWhile isBlanks)
      let line : Shorter ts := ⟨after.1, by
        have h1 := (List.dropWhile_sublist isBlanks (l := start)).length_le
        have h2 := r.2; rw [h] at h2
        have h3 := after.2; simp at h2; omega⟩
      let r ← endOfLine? line
      some (.entry keys v, r)
    | _ => none

/-- The statements of a document. -/
def statements? (ts : List Token) : Option (List Statement) :=
  match ts with
  | [] => some []
  | t :: ts =>
    if isFiller t then
      if t == .comment && !(ts.isEmpty || ts.head? == some .newline) then none else statements? ts
    else
      match statement? (t :: ts) with
      | none => none
      | some (s, rest) => (statements? rest.1).map (s :: ·)
termination_by ts.length
decreasing_by
  · simp
  · exact rest.2

/-! ## Documents -/

/-- The entries of a document so far, and the path of the last header. -/
structure Reading where
  entries : Entries
  path : List String

/-- Applies a change under the last key of a path. -/
def alterAtLast (f : String → Entries → Option Entries) (path : List String) (entries : Entries) : Option Entries :=
  match path.getLast? with
  | none => none
  | some key => alterAtHeader (f key) entries path.dropLast

/-- The document after one more statement. -/
def Reading.add? (r : Reading) : Statement → Option Reading
  | .table path => (alterAtLast openTable? path r.entries).map (⟨·, path⟩)
  | .element path => (alterAtLast openElement? path r.entries).map (⟨·, path⟩)
  | .entry keys value => (alterAtHeader (insertAtKeys? keys value) r.entries r.path).map (⟨·, r.path⟩)

/-- The entries of a document, if it is well-formed. -/
def entries? (text : String) : Option Entries := do
  let ts ← tokens text
  let statements ← statements? ts
  let reading ← statements.foldlM Reading.add? ⟨[], []⟩
  some reading.entries

end Rebuild.Toml
