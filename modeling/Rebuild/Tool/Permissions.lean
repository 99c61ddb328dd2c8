/-!
# Changes of permissions

A change is an octal number, or clauses that add, remove or set letters for the owner, the group, the others or all of
them. Where a clause names nobody, it changes what the mask leaves. The bits by which a directory gives its owner or
group to what is made in it stay as they are unless they are mentioned.
-/

namespace Rebuild.Tool

/-- From where a clause takes the bits that it changes. -/
inductive Grant where
  /-- It gives them. -/
  | given
  /-- It gives them, and those of execution for directories and for what somebody may execute. -/
  | execution
  /-- They are those that the owner, the group or the others have. -/
  | copied
deriving DecidableEq, Repr

/-- A clause: how it changes bits, whose, which, and which of them it mentions. -/
structure Clause where
  operator : Char
  grant : Grant
  affected : Nat
  value : Nat
  mentioned : Nat
deriving DecidableEq, Repr

/-- A change of permissions: clauses, one after the other. -/
structure PermissionChange where
  clauses : List Clause
deriving DecidableEq, Repr

namespace PermissionChange

/-- All bits but those in a set. -/
def without (bits : Nat) : Nat :=
  0o7777 ^^^ bits

/-- The bits of a letter that names somebody. -/
def whoBits? (c : Char) : Option Nat :=
  match c with
  | 'u' => some 0o4700
  | 'g' => some 0o2070
  | 'o' => some 0o1007
  | 'a' => some 0o7777
  | _ => none

/-- The bits of a letter that names a permission. -/
def grantBits? (c : Char) : Option Nat :=
  match c with
  | 'r' => some 0o444
  | 'w' => some 0o222
  | 'x' => some 0o111
  | 's' => some 0o6000
  | 't' => some 0o1000
  | 'X' => some 0
  | _ => none

/-- Whether a letter is an operator. -/
def isOperator (c : Char) : Bool :=
  c == '+' || c == '-' || c == '='

/-- Whether a character is an octal digit. -/
def isOctal (c : Char) : Bool :=
  '0' ≤ c && c ≤ '7'

/-- The number that octal digits spell, if it is one of permissions. -/
def octal? (digits : List Char) : Option Nat :=
  let mode := digits.foldl (fun n c => 8 * n + (c.toNat - 48)) 0
  if mode ≤ 0o7777 then some mode else none

/-- The change to a number; with few digits it mentions only the bits that it sets of those that directories keep. -/
def ofNumber (isLong : Bool) (mode : Nat) : PermissionChange :=
  ⟨[⟨'=', .given, 0o7777, mode, if isLong then 0o7777 else (mode &&& 0o6000) ||| 0o1777⟩]⟩

/-- The clause that an operator and what follows it make, and what is left. -/
def clause? (affected : Nat) (operator : Char) (cs : List Char) : Option (Clause × List Char) :=
  let mentionedOf (value : Nat) : Nat := if affected == 0 then value else affected &&& value
  let digits := cs.takeWhile isOctal
  if !digits.isEmpty then
    let rest := cs.drop digits.length
    if affected != 0 || !(rest.isEmpty || rest.head? == some ',') then none
    else (octal? digits).map fun mode => (⟨operator, .given, 0o7777, mode, 0o7777⟩, rest)
  else
    match cs with
    | 'u' :: rest => some (⟨operator, .copied, affected, 0o700, mentionedOf 0o700⟩, rest)
    | 'g' :: rest => some (⟨operator, .copied, affected, 0o070, mentionedOf 0o070⟩, rest)
    | 'o' :: rest => some (⟨operator, .copied, affected, 0o007, mentionedOf 0o007⟩, rest)
    | cs =>
      let letters := cs.takeWhile fun c => (grantBits? c).isSome
      let value := letters.foldl (fun bits c => bits ||| (grantBits? c).getD 0) 0
      let grant := if letters.contains 'X' then Grant.execution else .given
      some (⟨operator, grant, affected, value, mentionedOf value⟩, cs.drop letters.length)

/-- The clauses of a text after the letters that name somebody, at most so many; the text is a part between commas. -/
def actions? (limit affected : Nat) (cs : List Char) : Option (List Clause) :=
  match limit, cs with
  | _, [] => some []
  | limit + 1, operator :: cs =>
    if !isOperator operator then none
    else do
      let (clause, rest) ← clause? affected operator cs
      let clauses ← actions? limit affected rest
      some (clause :: clauses)
  | 0, _ => none

/-- The clauses between two commas. -/
def clauses? (cs : List Char) : Option (List Clause) :=
  let who := cs.takeWhile fun c => (whoBits? c).isSome
  let affected := who.foldl (fun bits c => bits ||| (whoBits? c).getD 0) 0
  let rest := cs.drop who.length
  if rest.isEmpty then none else actions? (rest.length + 1) affected rest

/-- The change that a text asks for. -/
def ofText? (text : String) : Option PermissionChange :=
  let cs := text.toList
  if cs.head?.any isOctal then
    if cs.all isOctal then (octal? cs).map (ofNumber (5 ≤ cs.length)) else none
  else ((cs.splitOnP (· == ',')).mapM clauses?).map fun parts => ⟨parts.flatten⟩

/-- The bits that a clause grants or takes, given those of a node. -/
def bitsFor (isDirectory : Bool) (mode : Nat) (clause : Clause) : Nat :=
  match clause.grant with
  | .given => clause.value
  | .execution => if isDirectory || mode &&& 0o111 != 0 then clause.value ||| 0o111 else clause.value
  | .copied =>
    let bits := clause.value &&& mode
    let part (all : Nat) : Nat := if bits &&& all != 0 then all else 0
    part 0o444 ||| part 0o222 ||| part 0o111

/-- What a clause makes of the permissions of a node, and of the bits that were changed so far. -/
def applyClause (isDirectory : Bool) (mask : Nat) (state : Nat × Nat) (clause : Clause) : Nat × Nat :=
  let (mode, changed) := state
  let omitted := (if isDirectory then 0o6000 else 0) &&& without clause.mentioned
  let allowed := if clause.affected == 0 then without mask else clause.affected
  let value := bitsFor isDirectory mode clause &&& allowed &&& without omitted
  match clause.operator with
  | '+' => (mode ||| value, changed ||| value)
  | '-' => (mode &&& without value, changed ||| value)
  | _ =>
    let kept := (if clause.affected == 0 then 0 else without clause.affected) ||| omitted
    ((mode &&& kept) ||| value, changed ||| without kept)

/-- What a change makes of the permissions of a node, and the bits that it changes. -/
def applied (isDirectory : Bool) (mask mode : Nat) (change : PermissionChange) : Nat × Nat :=
  change.clauses.foldl (applyClause isDirectory mask) (mode, 0)

/-- What a change makes of the permissions of a node. -/
def apply (isDirectory : Bool) (mask mode : Nat) (change : PermissionChange) : Nat :=
  (applied isDirectory mask mode change).1

/-- The permissions that a change asks for of a new directory. With one of the bits that are not permissions it is made
without those by which others write, and gets them only if the change names them. -/
def ofNewDirectory (mask : Nat) (change : PermissionChange) : Nat :=
  let (mode, changed) := applied true mask 0o777 change
  let start := mode &&& 0o1755
  if (changed &&& 0o6000) ||| (mode &&& 0o1000) == 0 || (start ^^^ mode) &&& changed != 0 then mode else start

end PermissionChange

end Rebuild.Tool
