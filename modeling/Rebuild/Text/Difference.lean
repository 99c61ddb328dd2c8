/-!
# Differences of sequences

Two sequences are told apart by as few members as possible that are only in one of them. `Changes.between` finds these:
it searches from both ends along the diagonals of the table of pairs and divides the sequences where the searches meet.
Among equal neighbours it prefers later members, or those that face a change in the other sequence. `Changes.hunks` are
the stretches that differ.
-/

namespace Rebuild.Text

/-- The members of two sequences that are only in one of them. -/
structure Changes where
  inFirst : Array Bool
  inSecond : Array Bool
deriving Repr

/-- A stretch of the first sequence in the place of which there is one of the second: where they begin, and how long
they are. -/
structure Hunk where
  first : Nat
  firstCount : Nat
  second : Nat
  secondCount : Nat
deriving DecidableEq, Repr

namespace Difference

/-! ## Searching along diagonals -/

/-- Two sequences, and the part of them that is compared. -/
structure Window where
  a : Array Nat
  b : Array Nat
  left : Int
  right : Int
  top : Int
  bottom : Int

/-- How far a search got on each diagonal between two of them; every other one counts. -/
structure Front where
  reached : Array Int
  low : Int
  high : Int

/-- Whether two sequences have the same member at places. -/
def Window.same (w : Window) (x y : Int) : Bool :=
  w.a[x.toNat]? == w.b[y.toNat]?

/-- The place of a diagonal in an array. -/
def Window.index (w : Window) (d : Int) : Nat :=
  (d + w.b.size + 1).toNat

/-- How far a search got on a diagonal. -/
def Front.at (f : Front) (w : Window) (d : Int) : Int :=
  (f.reached[w.index d]?).getD 0

/-- Notes how far a search got on a diagonal. -/
def Front.note (f : Front) (w : Window) (d x : Int) : Front :=
  { f with reached := f.reached.setIfInBounds (w.index d) x }

/-- A search that has got nowhere but to a start on its diagonal. -/
def Front.start (w : Window) (d x : Int) : Front :=
  ({ reached := Array.replicate (w.a.size + w.b.size + 3) 0, low := d, high := d } : Front).note w d x

/-- Takes in the diagonals beside those of a search, as far as there are any. -/
def Front.widen (f : Front) (w : Window) (edge : Int) : Front :=
  let f := if w.left - w.bottom < f.low then { f with low := f.low - 1 }.note w (f.low - 2) edge
    else { f with low := f.low + 1 }
  if f.high < w.right - w.top then { f with high := f.high + 1 }.note w (f.high + 2) edge
  else { f with high := f.high - 1 }

/-- Goes on along a diagonal to the right as long as the members are the same. -/
def Window.slideDown (w : Window) (limit : Nat) (x y : Int) : Int :=
  match limit with
  | 0 => x
  | limit + 1 => if x < w.right && y < w.bottom && w.same x y then w.slideDown limit (x + 1) (y + 1) else x

/-- Goes on along a diagonal to the left as long as the members are the same. -/
def Window.slideUp (w : Window) (limit : Nat) (x y : Int) : Int :=
  match limit with
  | 0 => x
  | limit + 1 => if w.left < x && w.top < y && w.same (x - 1) (y - 1) then w.slideUp limit (x - 1) (y - 1) else x

/-- Goes one step on, from the left, on every other diagonal down from one. Tells where it meets the search from the
right, if that is to be watched. -/
def forward (w : Window) (watched : Bool) (back : Front) (limit : Nat) (d : Int) (f : Front) :
    Front × Option (Int × Int) :=
  match limit with
  | 0 => (f, none)
  | limit + 1 =>
    if d < f.low then (f, none)
    else
      let below := f.at w (d - 1)
      let above := f.at w (d + 1)
      let start := if below < above then above else below + 1
      let x := w.slideDown w.a.size start (start - d)
      let f := f.note w d x
      if watched && back.low ≤ d && d ≤ back.high && back.at w d ≤ x then (f, some (x, x - d))
      else forward w watched back limit (d - 2) f

/-- Goes one step on, from the right, on every other diagonal down from one. Tells where it meets the search from the
left, if that is to be watched. -/
def backward (w : Window) (watched : Bool) (front : Front) (limit : Nat) (d : Int) (f : Front) :
    Front × Option (Int × Int) :=
  match limit with
  | 0 => (f, none)
  | limit + 1 =>
    if d < f.low then (f, none)
    else
      let below := f.at w (d - 1)
      let above := f.at w (d + 1)
      let start := if below < above then below else above - 1
      let x := w.slideUp w.a.size start (start - d)
      let f := f.note w d x
      if watched && front.low ≤ d && d ≤ front.high && x ≤ front.at w d then (f, some (x, x - d))
      else backward w watched front limit (d - 2) f

/-- Where searches from both ends meet. -/
def meeting (w : Window) (isOdd : Bool) (limit : Nat) (f b : Front) : Int × Int :=
  match limit with
  | 0 => (w.left, w.top)
  | limit + 1 =>
    let count := w.a.size + w.b.size + 2
    let f := f.widen w (-1)
    match forward w isOdd b count f.high f with
    | (_, some place) => place
    | (f, none) =>
      let b := b.widen w (w.a.size + w.b.size + 1)
      match backward w (!isOdd) f count b.high b with
      | (_, some place) => place
      | (b, none) => meeting w isOdd limit f b

/-- Notes that all members between two places are only in one sequence. -/
def mark (flags : Array Bool) (start stop : Int) : Array Bool :=
  (List.range (stop - start).toNat).foldl (fun flags i => flags.setIfInBounds (start.toNat + i) true) flags

/-- Adds the members that are only in one of the sequences in a window. -/
def compareWithin (limit : Nat) (w : Window) (c : Changes) : Changes :=
  match limit with
  | 0 => c
  | limit + 1 =>
    let left := w.slideDown w.a.size w.left w.top
    let w := { w with left, top := w.top + (left - w.left) }
    let right := w.slideUp w.a.size w.right w.bottom
    let w := { w with right, bottom := w.bottom - (w.right - right) }
    if w.left == w.right then { c with inSecond := mark c.inSecond w.top w.bottom }
    else if w.top == w.bottom then { c with inFirst := mark c.inFirst w.left w.right }
    else
      let start := w.left - w.top
      let stop := w.right - w.bottom
      let (x, y) := meeting w ((start - stop) % 2 != 0) (w.a.size + w.b.size + 2) (.start w start w.left)
        (.start w stop w.right)
      compareWithin limit { w with left := x, top := y } (compareWithin limit { w with right := x, bottom := y } c)

/-! ## Moving changes -/

/-- Whether a member is only in one sequence; none beyond the ends is. -/
def isMarked (flags : Array Bool) (i : Int) : Bool :=
  0 ≤ i && (flags[i.toNat]?).getD false

/-- Changes the note on a member. -/
def note (flags : Array Bool) (i : Int) (value : Bool) : Array Bool :=
  flags.setIfInBounds i.toNat value

/-- A run of changed members: its two ends, and the place in the other sequence that faces its end. -/
structure Run where
  flags : Array Bool
  start : Int
  stop : Int
  facing : Int

/-- The place at or after one that is not marked. -/
def afterMarked (flags : Array Bool) (limit : Nat) (i : Int) : Int :=
  match limit with
  | 0 => i
  | limit + 1 => if isMarked flags i then afterMarked flags limit (i + 1) else i

/-- The place at or before one that is not marked. -/
def beforeMarked (flags : Array Bool) (limit : Nat) (i : Int) : Int :=
  match limit with
  | 0 => i
  | limit + 1 => if isMarked flags i then beforeMarked flags limit (i - 1) else i

/-- Moves a run back by one member, with the changes that it meets. -/
def Run.stepBack (r : Run) (other : Array Bool) : Run :=
  let flags := note (note r.flags (r.start - 1) true) (r.stop - 1) false
  { flags, start := beforeMarked flags flags.size (r.start - 2) + 1, stop := r.stop - 1,
    facing := beforeMarked other other.size (r.facing - 1) }

/-- Moves a run back as far as the member before it is the same as its last one. -/
def Run.back (values : Array Nat) (other : Array Bool) (limit : Nat) (r : Run) : Run :=
  match limit with
  | 0 => r
  | limit + 1 =>
    if 0 < r.start && values[(r.start - 1).toNat]? == values[(r.stop - 1).toNat]? then
      (r.stepBack other).back values other limit
    else r

/-- Moves a run forward as far as the member after it is the same as its first one. The last end at which it faces a
change is told. -/
def Run.forth (values : Array Nat) (other : Array Bool) (limit : Nat) (r : Run) (matching : Int) : Run × Int :=
  match limit with
  | 0 => (r, matching)
  | limit + 1 =>
    if r.stop < values.size && values[r.start.toNat]? == values[r.stop.toNat]? then
      let flags := note (note r.flags r.start false) r.stop true
      let stop := afterMarked flags flags.size (r.stop + 1)
      let facing := afterMarked other other.size (r.facing + 1)
      Run.forth values other limit ⟨flags, r.start + 1, stop, facing⟩
        (if r.facing + 1 < facing then stop else matching)
    else (r, matching)

/-- Moves a run to and fro until it no longer grows. The last end at which it faces a change is told. -/
def Run.settle (values : Array Nat) (other : Array Bool) (limit : Nat) (r : Run) : Run × Int :=
  match limit with
  | 0 => (r, r.stop)
  | limit + 1 =>
    let length := r.stop - r.start
    let r := r.back values other values.size
    let (r, matching) :=
      r.forth values other values.size (if isMarked other (r.facing - 1) then r.stop else values.size)
    if r.stop - r.start == length then (r, matching) else Run.settle values other limit r

/-- Moves a run back to an end. -/
def Run.backTo (other : Array Bool) (limit : Nat) (stop : Int) (r : Run) : Run :=
  match limit with
  | 0 => r
  | limit + 1 =>
    if stop < r.stop then
      let flags := note (note r.flags (r.start - 1) true) (r.stop - 1) false
      Run.backTo other limit stop
        ⟨flags, r.start - 1, r.stop - 1, beforeMarked other other.size (r.facing - 1)⟩
    else r

/-- Moves the runs of changes from a place on. -/
def moveRuns (values : Array Nat) (other : Array Bool) (limit : Nat) (i facing : Int) (flags : Array Bool) :
    Array Bool :=
  match limit with
  | 0 => flags
  | limit + 1 =>
    if values.size ≤ i then flags
    else if isMarked flags i then
      let start : Run := ⟨flags, i, afterMarked flags flags.size i, afterMarked other other.size facing⟩
      let (r, matching) := start.settle values other (values.size + 1)
      let r := r.backTo other values.size matching
      moveRuns values other limit r.stop r.facing r.flags
    else moveRuns values other limit (i + 1) (afterMarked other other.size facing + 1) flags

end Difference

open Difference

namespace Changes

/-- For each number up to the greatest of some whether it is among them. -/
def presence (values : Array Nat) : Array Bool :=
  values.foldl (fun flags v => flags.setIfInBounds v true) (Array.replicate (values.foldl max 0 + 1) false)

/-- The members of two sequences that are only in one of them. Members that are nowhere in the other sequence are left
out of the search, unless it is thorough. -/
def between (isThorough : Bool) (a b : Array Nat) : Changes :=
  let kept (values : Array Nat) (others : Array Bool) : List (Nat × Nat) :=
    (values.toList.zipIdx).filter fun (v, _) => isThorough || (others[v]?).getD false
  let keptA := kept a (presence b)
  let keptB := kept b (presence a)
  let shortA := (keptA.map Prod.fst).toArray
  let shortB := (keptB.map Prod.fst).toArray
  let size := shortA.size + shortB.size
  let short := compareWithin (size + 1) ⟨shortA, shortB, 0, shortA.size, 0, shortB.size⟩
    ⟨Array.replicate shortA.size false, Array.replicate shortB.size false⟩
  let spread (values : Array Nat) (kept : List (Nat × Nat)) (flags : Array Bool) : Array Bool :=
    ((kept.zip flags.toList).filter fun (_, flag) => !flag).foldl (fun all ((_, i), _) => note all i false)
      (Array.replicate values.size true)
  let inFirst := spread a keptA short.inFirst
  let inSecond := spread b keptB short.inSecond
  let inFirst := moveRuns a inSecond (a.size + 1) 0 0 inFirst
  ⟨inFirst, moveRuns b inFirst (b.size + 1) 0 0 inSecond⟩

/-- The stretches that differ, from places on. -/
def hunksFrom (c : Changes) (limit i j : Nat) : List Hunk :=
  match limit with
  | 0 => []
  | limit + 1 =>
    if c.inFirst.size ≤ i && c.inSecond.size ≤ j then []
    else
      let iEnd := (afterMarked c.inFirst c.inFirst.size i).toNat
      let jEnd := (afterMarked c.inSecond c.inSecond.size j).toNat
      if i == iEnd && j == jEnd then c.hunksFrom limit (i + 1) (j + 1)
      else ⟨i, iEnd - i, j, jEnd - j⟩ :: c.hunksFrom limit iEnd jEnd

/-- The stretches that differ. -/
def hunks (c : Changes) : List Hunk :=
  c.hunksFrom (c.inFirst.size + c.inSecond.size + 1) 0 0

end Changes

end Rebuild.Text
