import Rebuild.Tool.Differing.Columns
import Rebuild.Tool.Differing.Merged
import Rebuild.Tool.Node
import Rebuild.Tool.Order

/-!
# Comparing files and directories

`diff` compares two files line by line, or the files with the same names in two directories. A file is compared with the
file of its name in a directory. What is only in one directory is told, or counts as empty in the other.
-/

namespace Rebuild.Tool

open Text

namespace DiffStyle

/-- Whether bytes are no text: there is a null among the first of them. -/
def isBinary (bytes : ByteArray) : Bool :=
  (bytes.extract 0 4096).data.contains 0

/-- The name by which a side is told. -/
def told (s : DiffStyle) (number : Nat) (path : String) : String :=
  (s.labels[number]?).getD path

/-- What is written of two files as far as their differences count, without a heading. -/
def text (s : DiffStyle) (x : Sides) (hunks : List Hunk) : Line :=
  let counted := hunks.filterMap fun h => (x.kind? s [h]).map (h, ·)
  let each (write : Sides → Extents → HunkKind → Line) (counted : List (Hunk × HunkKind)) : Line :=
    counted.flatMap fun (h, kind) => write x (extentsOf [h]) kind
  match s.form with
  | .plain => each s.plainHunk counted
  | .script => each s.scriptHunk counted.reverse
  | .forward => each s.forwardHunk counted
  | .counted => each s.countedHunk counted
  | .context => (x.groups s hunks).flatMap fun group => ((x.kind? s group).map (s.contextGroup x group)).getD []
  | .unified =>
    (x.groups s hunks).flatMap fun group => if (x.kind? s group).isSome then s.unifiedGroup x group else []
  | .columns => s.rowsFrom x 0 0 (counted.map Prod.fst)
  | .merged => s.mergedFrom x 0 0 counted

/-- What is told of two files before their names: how they are compared, and the two lines that name them. -/
def heading (s : DiffStyle) (isInner : Bool) (a b : Side) : Line :=
  (if isInner then
    byteChars s!"diff{s.words} {shownPath (s.told 0 a.path)} {shownPath (s.told 1 b.path)}\n"
  else []) ++ s.headers a b

/-- Compares two files. -/
def compare (s : DiffStyle) (isInner : Bool) (a b : Side) : ToolM Nat := do
  let differing (kind : String) : String := s!"{kind} {s.told 0 a.path} and {s.told 1 b.path} differ\n"
  if !s.isText && (isBinary a.bytes || isBinary b.bytes) then
    if a.bytes == b.bytes then pure 0
    else if s.isBrief then
      say s.name (differing "Files")
      pure 1
    else
      say s.name (differing "Binary files")
      pure 2
  else
    let x : Sides := ⟨s.linesIn a.bytes, s.linesIn b.bytes⟩
    let hunks := s.hunks x
    let differs := hunks.any fun h => (x.kind? s [h]).isSome
    if s.isBrief then
      if differs then say s.name (differing "Files")
      return if differs then 1 else 0
    if differs || !s.isSilentIfSame then
      let text := s.text x hunks
      if s.form == .columns || !text.isEmpty then put s.name (bytesOfChars (s.heading isInner a b ++ text))
    let isOpen (side : Side) : Bool := !side.bytes.isEmpty && side.bytes.data.back? != some 10
    if s.form.allowsOpenEnd then pure (if differs then 1 else 0)
    else
      for (side, i) in [(a, 0), (b, 1)] do
        if isOpen side then complain s.name s!"{s.told i side.path}: No newline at end of file\n"
      pure (if isOpen a || isOpen b then 2 else if differs then 1 else 0)

end DiffStyle

/-- What is found where a side of a comparison should be. -/
inductive Found where
  | missing
  | input
  | node (node : DiskNode)
  | fault (fault : SystemFault)

/-- Whether a directory is found. -/
def Found.isDirectory : Found → Bool
  | .node n => isDirectoryNode n
  | _ => false

/-- The kind of what is found. -/
def Found.kind : Found → String
  | .node n =>
    match n.item with
    | .directory => "directory"
    | .file bytes => if bytes.isEmpty then "regular empty file" else "regular file"
    | .program _ => "regular file"
    | .link _ => "symbolic link"
    | .device _ => "character special file"
  | _ => "fifo"

/-- Whether files can be compared. -/
def Found.isComparable : Found → Bool
  | .node n => match n.item with
    | .device _ => false
    | _ => true
  | _ => true

/-- The text of a symbolic link. -/
def Found.target? : Found → Option String
  | .node n => match n.item with
    | .link target => some target
    | _ => none
  | _ => none

/-- The time of the last change of what is found, given that of now. -/
def Found.time (now : Time) : Found → Time
  | .node n => n.modified
  | .input => now
  | _ => 0

namespace DiffStyle

/-- Looks for a side of a comparison. -/
def look (s : DiffStyle) (path : String) (isThere : Bool) : ToolM Found := do
  let p ← getThe Process
  if !isThere then pure .missing
  else if path == "-" then pure (if (p.file? 0).isSome then .input else .fault .badDescriptor)
  else
    match if s.keepsLinks then p.disk.getName path else p.disk.get path with
    | .ok n => pure (.node n)
    | .error fault => pure (.fault fault)

/-- What is found counts as missing if it does not exist but its counterpart does, or if it is empty and nobody may use
it, provided that what is missing counts as empty. -/
def missingIfEmpty (s : DiffStyle) (isFirst isInner : Bool) (found other : Found) : Found :=
  if !(s.countsMissing || (isFirst && s.countsMissingFirst)) then found
  else
    match found, other with
    | .node n, _ => match n.item with
      | .file bytes => if bytes.isEmpty && n.mode % 512 == 0 then .missing else found
      | _ => found
    | .fault .noEntry, .node _ | .fault .noEntry, .input => if isInner then found else .missing
    | _, _ => found

/-- Complains of what cannot be found. -/
def complainOf (s : DiffStyle) (path : String) (found : Found) : ToolM Bool := do
  match found with
  | .fault fault =>
    complain s.name s!"{path}: {fault.text}"
    pure true
  | _ => pure false

/-- The names in a directory that are compared. -/
def namesIn (s : DiffStyle) (isInner : Bool) (path : String) (found : Found) : ToolM (List String) := do
  match found, (← disk).find path with
  | .node _, .ok place =>
    let names := ((← disk).names place).filter fun name =>
      !s.excluded.any fun (pattern, ignoresCase) => fits ignoresCase pattern name
    pure (names.filter fun name =>
      isInner || !s.firstName?.any fun first => compareBytes (byteChars name) (byteChars first) == .lt)
  | _, _ => pure []

/-- Reads a side of a comparison. -/
def readSide (s : DiffStyle) (path : String) (found : Found) : ToolM (Option Side) := do
  let time := found.time (← disk).clock
  match found with
  | .missing => pure (some ⟨path, time, .empty⟩)
  | _ =>
    match ← readOperand path with
    | .ok bytes => pure (some ⟨path, time, bytes⟩)
    | .error fault =>
      complain s.name s!"{path}: {fault.text}"
      pure none

/-- Compares two symbolic links, or a link with something else. -/
def compareLinks (s : DiffStyle) (first second : String) (a b : Found) : ToolM Nat := do
  match a.target?, b.target? with
  | some one, some two =>
    if one == two then pure 0
    else
      say s.name s!"Symbolic links {first} and {second} differ\n"
      pure 1
  | _, _ =>
    say s.name s!"File {s.told 0 first} is a {a.kind} while file {s.told 1 second} is a {b.kind}\n"
    pure 1

/-- Compares two paths, of which one may be missing, in directories that are compared or by themselves. -/
def comparePaths (s : DiffStyle) (limit : Nat) (parents? : Option (String × String)) (first second : String)
    (isThereFirst isThereSecond : Bool) : ToolM Nat := do
  match limit with
  | 0 => pure 2
  | limit + 1 =>
    let isInner := parents?.isSome
    let onlyIn (isFirst : Bool) : ToolM Nat := do
      let (one, two) := parents?.getD (first, second)
      say s.name s!"Only in {if isFirst then one else two}: {lastName first}\n"
      pure 1
    if !(isThereFirst && isThereSecond || s.countsMissingFirst && isThereSecond || s.countsMissing) then
      return ← onlyIn isThereFirst
    let a ← s.look first isThereFirst
    let b ← s.look second isThereSecond
    let (a, b) := (s.missingIfEmpty true isInner a b, s.missingIfEmpty false isInner b a)
    let isBad ← s.complainOf first a
    if (← s.complainOf second b) || isBad then return 2
    let (first, second, a, b) ←
      if isInner || a.isDirectory == b.isDirectory || (a matches .missing) || (b matches .missing) then
        pure (first, second, a, b)
      else do
        let name := if a.isDirectory then second else first
        let path := inDirectory (if a.isDirectory then first else second) (lastName name)
        if name == "-" then fail s.name "cannot compare '-' to a directory" 2
        let found ← s.look path true
        if ← s.complainOf path found then quit 2
        pure (if a.isDirectory then (path, second, found, b) else (first, path, a, found))
    let d ← disk
    let number? (path : String) : Option Nat :=
      if path == "-" then none
      else ((if s.keepsLinks then d.findName path else d.find path).toOption).bind d.number?
    let isSame := !(a matches .missing) && !(b matches .missing) &&
      (first == second || (number? first).isSome && number? first == number? second)
    let areDirectories := (a.isDirectory || (a matches .missing)) && (b.isDirectory || (b matches .missing)) &&
      (a.isDirectory || b.isDirectory)
    let code ←
      if isSame && s.isSilentIfSame then pure 0
      else if areDirectories then
        if s.form == .merged then fail s.name "-D option not supported with directories" 2
        else if isInner && !s.isRecursive then do
          say s.name s!"Common subdirectories: {first} and {second}\n"
          pure 0
        else do
          let names ← s.namesIn isInner first a
          let others ← s.namesIn isInner second b
          let all := (names ++ others).eraseDups.mergeSort fun x y => compareBytes (byteChars x) (byteChars y) != .gt
          eachOf all fun name =>
            s.comparePaths limit (some (first, second)) (inDirectory first name) (inDirectory second name)
              (names.contains name) (others.contains name)
      else if a.isDirectory || b.isDirectory || (isInner && !(a.isComparable && b.isComparable)) then
        if (a matches .missing) || (b matches .missing) then onlyIn (b matches .missing)
        else do
          say s.name s!"File {s.told 0 first} is a {a.kind} while file {s.told 1 second} is a {b.kind}\n"
          pure 1
      else if a.target?.isSome || b.target?.isSome then s.compareLinks first second a b
      else do
        let one ← s.readSide first a
        let two ← if first == second && !(b matches .missing) && !(a matches .missing)
          then pure (one.map fun side => { side with path := second })
          else s.readSide second b
        match one, two with
        | some one, some two => s.compare isInner one two
        | _, _ => pure 2
    if code == 0 && s.tellsSame && !(a.isDirectory || b.isDirectory) then
      say s.name s!"Files {s.told 0 first} and {s.told 1 second} are identical\n"
    pure code

end DiffStyle

/-- How many directories are gone through within each other. -/
def deepestComparison : Nat := 1000

/-- The words that are no operands, each after a blank. -/
def optionWords (args : List String) : String :=
  let count (words : List String) : Nat := ((sortedWords diffRules false words).1.filterMap SortedWord.operand?).length
  String.join (args.zipIdx.map fun (word, i) =>
    if count (args.take i) < count (args.take (i + 1)) then "" else " " ++ shellWord word)

/-- Compares files line by line. -/
def diff : Tool := fun name args => do
  let (found, fault?) := sortedWords diffRules false args
  let (s, _) ← (found.filterMap SortedWord.option?).foldlM (fun state given =>
    if given.1 == "help" || given.1 == "version" then quit 0 else DiffStyle.take state given)
    (({ name } : DiffStyle), false)
  match fault? with
  | some fault => failInComparison name fault.text
  | none => pure ()
  let s := { s.completed with words := optionWords args }
  let operands := found.filterMap SortedWord.operand?
  let compare (first second : String) : ToolM Nat := s.comparePaths deepestComparison none first second true true
  match s.fromPath?, s.toPath?, operands with
  | some _, some _, _ => fail name "--from-file and --to-file both specified" 2
  | some path, none, operands => eachOf operands (compare path)
  | none, some path, operands => eachOf operands (compare · path)
  | none, none, [first, second] => compare first second
  | none, none, _ :: _ :: extra :: _ => failInComparison name s!"extra operand '{extra}'"
  | none, none, _ => failInComparison name s!"missing operand after '{args.getLast?.getD name}'"

end Rebuild.Tool
