import Std.Data.HashMap
import Rebuild.Text.Difference
import Rebuild.Tool.Differing.Style

/-!
# Which lines differ

Two files are compared as sequences of lines, which are numbered so that lines with the same number count as the same.
Lines that are the same at the beginning and at the end are left out of the comparison, up to as many as the horizon
says. `Sides.hunks` are the stretches that differ, `Sides.kind?` tells what a group of them is if it counts.
-/

namespace Rebuild.Tool

open Text

/-- A file as it is compared: its path, the time of its last change, and its bytes. -/
structure Side where
  path : String
  time : Time
  bytes : ByteArray

/-- The lines of two files that are compared. -/
structure Sides where
  first : Array Line
  second : Array Line

/-- What a group of differences is: lines are gone, or new, or changed. -/
inductive HunkKind where
  | gone
  | new
  | changed
deriving DecidableEq, Repr

/-- Whether lines are gone. -/
def HunkKind.hasGone : HunkKind → Bool
  | .new => false
  | _ => true

/-- Whether lines are new. -/
def HunkKind.hasNew : HunkKind → Bool
  | .gone => false
  | _ => true

/-- The stretches of both files that a group of differences covers. -/
structure Extents where
  first : Nat
  firstStop : Nat
  second : Nat
  secondStop : Nat
deriving DecidableEq, Repr

/-- The stretches that a group of differences covers. -/
def extentsOf (hunks : List Hunk) : Extents :=
  match hunks.head?, hunks.getLast? with
  | some h, some l => ⟨h.first, l.first + l.firstCount, h.second, l.second + l.secondCount⟩
  | _, _ => ⟨0, 0, 0, 0⟩

namespace DiffStyle

/-- A text without the returns before the ends of lines. -/
def withoutReturns : List Char → List Char
  | '\r' :: '\n' :: rest => '\n' :: withoutReturns rest
  | c :: rest => c :: withoutReturns rest
  | [] => []

/-- The lines of a file with their ends. The last one gets an end if the form asks for it. -/
def linesIn (s : DiffStyle) (bytes : ByteArray) : Array Line :=
  let cs := charsOfBytes bytes
  let isOpen := cs.getLast?.any (· != '\n')
  let cs := if s.dropsReturns then withoutReturns cs else cs
  let cs := if isOpen then cs ++ ['\n'] else cs
  let lines := ((cs.splitOnP (· == '\n')).dropLast.map (· ++ ['\n'])).toArray
  if isOpen && s.form.allowsOpenEnd then lines.modify (lines.size - 1) List.dropLast else lines

/-- Numbers for keys, the same for those that are the same, given the numbers of some. -/
def numberedFrom (known : Std.HashMap String Nat) (keys : List String) : Std.HashMap String Nat × Array Nat :=
  keys.foldl (fun (known, numbers) key =>
    match known[key]? with
    | some n => (known, numbers.push n)
    | none => (known.insert key known.size, numbers.push known.size)) (known, #[])

/-- How many lines two sequences have in common from places on, at most so many. -/
def sameCount (limit : Nat) (same : Nat → Bool) : Nat :=
  ((List.range limit).takeWhile same).length

/-- The stretches in which two files differ. -/
def hunks (s : DiffStyle) (x : Sides) : List Hunk :=
  let (m, n) := (x.first.size, x.second.size)
  let start := sameCount (min m n) (fun i => x.first[i]? == x.second[i]?) - s.horizon
  let same (i : Nat) : Bool := x.first[m - 1 - i]? == x.second[n - 1 - i]?
  let stop := sameCount (min m n - start) same - s.horizon
  let inside (lines : Array Line) : List String := ((lines.toList.drop start).take (lines.size - start - stop)).map
    fun line => String.ofList (s.key line)
  let (known, a) := numberedFrom {} (inside x.first)
  let (_, b) := numberedFrom known (inside x.second)
  (Changes.between s.isMinimal a b).hunks.map fun h => { h with first := start + h.first, second := start + h.second }

end DiffStyle

namespace Sides

/-- A stretch of the lines of the first file. -/
def gone (x : Sides) (e : Extents) : List Line :=
  (x.first.extract e.first e.firstStop).toList

/-- A stretch of the lines of the second file. -/
def new (x : Sides) (e : Extents) : List Line :=
  (x.second.extract e.second e.secondStop).toList

/-- What a group of differences is, if not all of its lines are idle. -/
def kind? (s : DiffStyle) (x : Sides) (hunks : List Hunk) : Option HunkKind :=
  let isIdle (h : Hunk) : Bool :=
    let e := extentsOf [h]
    (x.gone e).all s.isIdle && (x.new e).all s.isIdle
  if s.hasIdleLines && hunks.all isIdle then none
  else
    match hunks.any (0 < ·.firstCount), hunks.any (0 < ·.secondCount) with
    | true, true => some .changed
    | true, false => some .gone
    | false, true => some .new
    | false, false => none

/-- Groups of differences that are told together. Before one that counts there are at most twice the lines of the
context, before another fewer than these. -/
def groups (s : DiffStyle) (x : Sides) : List Hunk → List (List Hunk)
  | [] => []
  | h :: rest =>
    match groups s x rest with
    | (next :: group) :: others =>
      let reach := if (x.kind? s [next]).isNone then s.context else 2 * s.context + 1
      if next.first - (h.first + h.firstCount) < reach then (h :: next :: group) :: others
      else [h] :: (next :: group) :: others
    | others => [h] :: others

end Sides

end Rebuild.Tool
