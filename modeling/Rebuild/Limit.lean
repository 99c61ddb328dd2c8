/-!
# Limits of a process

A process may use so much of each resource. Of each limit there are two values: the one that counts, and the highest to
which a process may raise it. Programs that it starts have the same limits.
-/

namespace Rebuild

/-- A limit: the letter and the title by which it is asked for, in which unit it is told, and its two values in the
units of the system; none is no limit. -/
structure Limit where
  letter : Char
  title : String
  unit : Nat
  soft : Option Nat
  hard : Option Nat
deriving DecidableEq, Repr

namespace Limit

/-- The limits where nothing else was said. -/
def usual : List Limit :=
  [⟨'t', "time(seconds)", 1, none, none⟩, ⟨'f', "file(blocks)", 512, none, none⟩,
   ⟨'d', "data(kbytes)", 1024, none, none⟩, ⟨'s', "stack(kbytes)", 1024, some (8192 * 1024), none⟩,
   ⟨'c', "coredump(blocks)", 512, none, none⟩, ⟨'m', "memory(kbytes)", 1024, none, none⟩,
   ⟨'l', "locked memory(kbytes)", 1024, some (8192 * 1024), some (8192 * 1024)⟩, ⟨'p', "process", 1, none, none⟩,
   ⟨'n', "nofiles", 1, some 1048576, some 1048576⟩, ⟨'v', "vmemory(kbytes)", 1024, none, none⟩,
   ⟨'w', "locks", 1, none, none⟩, ⟨'r', "rtprio", 1, some 0, some 0⟩]

/-- The limit with a letter. -/
def find? (limits : List Limit) (letter : Char) : Option Limit :=
  List.find? (·.letter == letter) limits

/-- Whether the value that counts is at most the highest one. -/
def isSound (l : Limit) : Bool :=
  match l.soft, l.hard with
  | _, none => true
  | none, some _ => false
  | some soft, some hard => soft ≤ hard

/-- Whether the highest value is above that of another limit. -/
def isRaised (l old : Limit) : Bool :=
  match l.hard, old.hard with
  | _, none => false
  | none, some _ => true
  | some new, some old => old < new

/-- A value in the unit in which it is told. -/
def valueText (l : Limit) (value : Option Nat) : String :=
  match value with
  | none => "unlimited"
  | some n => toString (n / l.unit)

/-- The limits with another in the place of the one with its letter. -/
def set (limits : List Limit) (l : Limit) : List Limit :=
  limits.map fun old => if old.letter == l.letter then l else old

end Limit

end Rebuild
