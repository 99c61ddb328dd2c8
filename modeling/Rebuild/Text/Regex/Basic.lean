/-!
# Regular expressions

An expression matches a stretch of a text. Of all matches the one that begins first counts, and of these the longest; a
group tells the stretch that its part of the expression matched last. `Regex.ends` finds the ends of all matches from a
place on, `Regex.find?` the match that counts.
-/

namespace Rebuild.Text

/-- A regular expression. -/
inductive Regex where
  /-- Matches nothing but the empty stretch. -/
  | empty
  | char (c : Char)
  /-- Any character; a line end only if that is asked for. -/
  | any
  /-- A character in one of some ranges, or in none of them. -/
  | oneOf (negated : Bool) (ranges : List (Char × Char))
  /-- The beginning of the text, or of a line in it if lines count. -/
  | start
  /-- The end of the text, or of a line in it if lines count. -/
  | stop
  /-- The beginning and the end of the whole text. -/
  | textStart
  | textStop
  /-- The edge of a word. -/
  | wordEdge
  | noWordEdge
  | wordStart
  | wordStop
  /-- A place before which, and after which, no word goes on. -/
  | noWordBefore
  | noWordAfter
  | group (number : Nat) (r : Regex)
  | sequence (a b : Regex)
  | either (a b : Regex)
  /-- From so many times on up to so many, if there is a bound. -/
  | times (least : Nat) (most : Option Nat) (r : Regex)
  /-- What a group matched. -/
  | back (number : Nat)
deriving DecidableEq, Repr

namespace Regex

/-- A text in which matches are looked for. -/
structure Subject where
  chars : Array Char
  ignoresCase : Bool
  /-- Whether the text is seen as lines. -/
  hasLines : Bool

/-- How far a match is: where it stands, and the stretches of the groups, the last first. -/
structure Progress where
  place : Nat
  groups : List (Nat × Nat × Nat)
deriving DecidableEq, Repr

namespace Subject

/-- The character at a place. -/
def at? (s : Subject) (place : Nat) : Option Char :=
  s.chars[place]?

/-- Whether two characters count as the same. -/
def same (s : Subject) (a b : Char) : Bool :=
  a == b || (s.ignoresCase && a.toLower == b.toLower)

/-- Whether a character is in one of some ranges. -/
def isIn (s : Subject) (ranges : List (Char × Char)) (c : Char) : Bool :=
  let fits (c : Char) : Bool := ranges.any fun (a, b) => a ≤ c && c ≤ b
  fits c || (s.ignoresCase && (fits c.toLower || fits c.toUpper))

/-- Whether a character is part of a word. -/
def isWordChar (c : Char) : Bool :=
  c.isAlphanum || c == '_'

/-- Whether a word goes on right before a place, and right after it. -/
def wordsAround (s : Subject) (place : Nat) : Bool × Bool :=
  (place != 0 && (s.at? (place - 1)).any isWordChar, (s.at? place).any isWordChar)

/-- The characters of a stretch. -/
def stretch (s : Subject) (first last : Nat) : List Char :=
  (s.chars.extract first last).toList

end Subject

/-- Whether progress repeats what is there: the place, and what the groups matched if that counts, too. -/
def isKnown (keepsGroups : Bool) (ps : List Progress) (p : Progress) : Bool :=
  ps.any fun q => q.place == p.place && (!keepsGroups || q.groups == p.groups)

/-- Progress without repetitions. -/
def distinct (keepsGroups : Bool) (ps : List Progress) : List Progress :=
  let step (found : List Progress) (p : Progress) : List Progress :=
    if isKnown keepsGroups found p then found else p :: found
  (ps.foldl step []).reverse

/-- Whether an expression refers to what a group matched. -/
def refersBack : Regex → Bool
  | .back _ => true
  | .group _ r | .times _ _ r => r.refersBack
  | .sequence a b | .either a b => a.refersBack || b.refersBack
  | _ => false

/-- What is reached by repeating a step, in rounds of which each goes on from what the one before it reached; what was
reached before counts no more. -/
def rounds (keepsGroups : Bool) (step : Progress → List Progress) (limit : Nat) (reached new : List Progress) :
    List Progress :=
  match limit with
  | 0 => reached
  | limit + 1 =>
    let next := (distinct keepsGroups (new.flatMap step)).filter fun p => !isKnown keepsGroups reached p
    if next.isEmpty then reached else rounds keepsGroups step limit (reached ++ next) next

/-- What is reached by a step that is repeated exactly so many times. -/
def repeated (keepsGroups : Bool) (step : Progress → List Progress) (count : Nat) (ps : List Progress) :
    List Progress :=
  match count with
  | 0 => ps
  | count + 1 => repeated keepsGroups step count (distinct keepsGroups (ps.flatMap step))

/-- The ends of the matches of an expression from a place on, those first that count more. -/
def ends (s : Subject) (keepsGroups : Bool) (p : Progress) : Regex → List Progress
  | .empty => [p]
  | .char c => if (s.at? p.place).any (s.same c) then [{ p with place := p.place + 1 }] else []
  | .any => if p.place < s.chars.size then [{ p with place := p.place + 1 }] else []
  | .oneOf negated ranges =>
    if (s.at? p.place).any fun c => s.isIn ranges c != negated then [{ p with place := p.place + 1 }] else []
  | .start =>
    if p.place == 0 || (s.hasLines && s.at? (p.place - 1) == some '\n') then [p] else []
  | .stop =>
    if p.place == s.chars.size || (s.hasLines && s.at? p.place == some '\n') then [p] else []
  | .textStart => if p.place == 0 then [p] else []
  | .textStop => if p.place == s.chars.size then [p] else []
  | .wordEdge => let (a, b) := s.wordsAround p.place; if a != b then [p] else []
  | .noWordEdge => let (a, b) := s.wordsAround p.place; if a == b then [p] else []
  | .wordStart => let (a, b) := s.wordsAround p.place; if !a && b then [p] else []
  | .wordStop => let (a, b) := s.wordsAround p.place; if a && !b then [p] else []
  | .noWordBefore => if (s.wordsAround p.place).1 then [] else [p]
  | .noWordAfter => if (s.wordsAround p.place).2 then [] else [p]
  | .group number r =>
    (r.ends s keepsGroups p).map fun q => { q with groups := (number, p.place, q.place) :: q.groups }
  | .sequence a b => distinct keepsGroups ((a.ends s keepsGroups p).flatMap fun q => b.ends s keepsGroups q)
  | .either a b =>
    (distinct keepsGroups (a.ends s keepsGroups p ++ b.ends s keepsGroups p)).mergeSort fun x y => y.place ≤ x.place
  | .times least most r =>
    let step (q : Progress) : List Progress := r.ends s keepsGroups q
    let first := repeated keepsGroups step least [p]
    let limit := match most with
      | some most => most - least
      | none => s.chars.size + 1
    (rounds keepsGroups step limit first first).mergeSort fun x y => y.place ≤ x.place
  | .back number =>
    match p.groups.find? (·.1 == number) with
    | none => []
    | some (_, first, last) =>
      let wanted := s.stretch first last
      let there := s.stretch p.place (p.place + wanted.length)
      if wanted.length == there.length && (wanted.zip there).all fun (a, b) => s.same a b then
        [{ p with place := p.place + wanted.length }]
      else []

/-- A match: where it begins and ends, and the stretches of its groups. -/
structure Match where
  first : Nat
  last : Nat
  groups : List (Nat × Nat × Nat)
deriving DecidableEq, Repr

/-- Of two ends the farther, or the one that was found before. -/
def farther (best : Option Progress) (p : Progress) : Option Progress :=
  match best with
  | some q => if q.place < p.place then some p else best
  | none => some p

/-- The longest match that begins at a place. -/
def matchAt? (r : Regex) (s : Subject) (place : Nat) : Option Match :=
  ((r.ends s r.refersBack ⟨place, []⟩).foldl farther none).map fun p => ⟨place, p.place, p.groups⟩

/-- The first match from a place on, at most so many places further. -/
def findWithin? (r : Regex) (s : Subject) (limit place : Nat) : Option Match :=
  match r.matchAt? s place, limit with
  | some m, _ => some m
  | none, 0 => none
  | none, limit + 1 => findWithin? r s limit (place + 1)

/-- The match that counts from a place on. -/
def find? (r : Regex) (s : Subject) (place : Nat) : Option Match :=
  if s.chars.size < place then none else r.findWithin? s (s.chars.size - place) place

/-- The stretch of a group, or of the whole match for the number zero. -/
def Match.group? (m : Match) (number : Nat) : Option (Nat × Nat) :=
  if number == 0 then some (m.first, m.last) else (m.groups.find? (·.1 == number)).map Prod.snd

end Regex

end Rebuild.Text
