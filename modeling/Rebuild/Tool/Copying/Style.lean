import Rebuild.Tool.Backup

/-!
# How files are copied

A copy follows symbolic links or not, is made of the bytes of a file or is another name for it, and keeps some of what
is known of it. What is there already is replaced, kept, or asked for.
-/

namespace Rebuild.Tool

open Text

/-- What happens to a file that is there already. -/
inductive Reply where
  | overwrite
  | keep
  | ask
deriving DecidableEq, Repr

/-- What is made of a file. -/
inductive Making where
  | copy
  | link
  | symbolicLink
deriving DecidableEq, Repr

/-- Which symbolic links are followed. -/
inductive CopyFollows where
  | never
  | operands
  | always
deriving DecidableEq, Repr

/-- How files are copied. -/
structure CopyStyle where
  /-- The name of the program. -/
  name : String
  follows : CopyFollows := .never
  isRecursive : Bool := false
  /-- Whether the old name is gone afterwards. -/
  isMove : Bool := false
  /-- Whether what is there is removed first. -/
  removesFirst : Bool := false
  /-- Whether what cannot be written is removed. -/
  isForced : Bool := false
  reply : Reply := .overwrite
  /-- Whether only older files are replaced. -/
  isUpdate : Bool := false
  keepsMode : Bool := false
  keepsTimes : Bool := false
  keepsLinks : Bool := false
  /-- Whether new files get the permissions of new files, whatever those of the source are. -/
  dropsMode : Bool := false
  /-- The permissions of copies, if they are given. -/
  mode? : Option Nat := none
  making : Making := .copy
  copiesBytes : Bool := true
  backup? : Option BackupStyle := none
  isVerbose : Bool := false

/-! ## Options -/

/-- The options that copying and moving share. -/
def targetRules : List OptionRule :=
  backupRules ++
  [⟨"f", "force", .none⟩, ⟨"i", "interactive", .none⟩,
   ⟨"n", "no-clobber", .none⟩, ⟨"T", "no-target-directory", .none⟩, ⟨"", "strip-trailing-slashes", .none⟩,
   ⟨"t", "target-directory", .required⟩, ⟨"u", "update", .none⟩, ⟨"v", "verbose", .none⟩,
   ⟨"Z", "context", .none⟩]

/-- The options of copying. -/
def copyRules : List OptionRule :=
  [⟨"a", "archive", .none⟩, ⟨"", "attributes-only", .none⟩, ⟨"", "copy-contents", .none⟩, ⟨"L", "dereference", .none⟩,
   ⟨"l", "link", .none⟩, ⟨"P", "no-dereference", .none⟩, ⟨"", "no-preserve", .required⟩,
   ⟨"x", "one-file-system", .none⟩,
   ⟨"", "parents", .none⟩, ⟨"p", "", .none⟩, ⟨"", "preserve", .optional⟩, ⟨"Rr", "recursive", .none⟩,
   ⟨"", "remove-destination", .none⟩, ⟨"", "reflink", .optional⟩, ⟨"", "sparse", .required⟩,
   ⟨"s", "symbolic-link", .none⟩, ⟨"d", "", .none⟩, ⟨"H", "", .none⟩] ++ targetRules

/-- The parts of a list that commas separate. -/
def listed (text : String) : List String :=
  (text.toList.splitOnP (· == ',')).map String.ofList

namespace CopyStyle

/-- What can be known of a file. -/
inductive Property where
  | mode
  | times
  | owner
  | links
  | context
  | attributes
  | all
deriving DecidableEq, Repr

/-- The names of what can be known of a file. -/
def properties : List (String × Property) :=
  [("mode", .mode), ("timestamps", .times), ("ownership", .owner), ("links", .links), ("context", .context),
   ("xattr", .attributes), ("all", .all)]

/-- Keeps a property, or does not. -/
def withProperty (isKept : Bool) (s : CopyStyle) (p : Property) : CopyStyle :=
  match p with
  | .mode => { s with keepsMode := isKept, dropsMode := !isKept }
  | .times => { s with keepsTimes := isKept }
  | .links => { s with keepsLinks := isKept }
  | .all => { s with keepsMode := isKept, dropsMode := !isKept, keepsTimes := isKept, keepsLinks := isKept }
  | .owner | .context | .attributes => s

/-- Keeps the properties in a list, or does not. -/
def withProperties (s : CopyStyle) (option : String) (isKept : Bool) (text : String) : ToolM CopyStyle := do
  let found ← (listed text).mapM (readChoice s.name option 1 properties)
  if isKept && found.contains .context then
    fail s.name "cannot preserve security context without an SELinux-enabled kernel" 1
  pure (found.foldl (withProperty isKept) s)

/-- Takes an option. -/
def take (s : CopyStyle) (given : Given) : ToolM CopyStyle := do
  match given with
  | ("archive", _) =>
    pure { s with follows := .never, isRecursive := true, keepsMode := true, keepsTimes := true, keepsLinks := true }
  | ("attributes-only", _) => pure { s with copiesBytes := false }
  | ("d", _) => pure { s with follows := .never, keepsLinks := true }
  | ("dereference", _) => pure { s with follows := .always }
  | ("no-dereference", _) => pure { s with follows := .never }
  | ("H", _) => pure { s with follows := .operands }
  | ("force", _) => pure { s with isForced := true, reply := if s.isMove then .overwrite else s.reply }
  | ("interactive", _) => pure { s with reply := .ask }
  | ("no-clobber", _) => pure { s with reply := .keep }
  | ("link", _) => pure { s with making := .link }
  | ("symbolic-link", _) => pure { s with making := .symbolicLink }
  | ("no-preserve", some text) => s.withProperties "--no-preserve" false text
  | ("preserve", some text) => s.withProperties "--preserve" true text
  | ("p", _) | ("preserve", none) => pure { s with keepsMode := true, keepsTimes := true }
  | ("recursive", _) => pure { s with isRecursive := true }
  | ("remove-destination", _) => pure { s with removesFirst := true }
  | ("reflink", some text) => do
    let choices : List (String × Nat) := [("auto", 0), ("always", 1), ("never", 2)]
    let _ ← readChoice s.name "--reflink" 1 choices text
    pure s
  | ("sparse", some text) => do
    let choices : List (String × Nat) := [("never", 0), ("auto", 1), ("always", 2)]
    let _ ← readChoice s.name "--sparse" 1 choices text
    pure s
  | ("update", _) => pure { s with isUpdate := true }
  | ("verbose", _) => pure { s with isVerbose := true }
  | _ => pure s

/-- How files are copied by options that were given. Links below operands are not followed if directories are copied
with all that is in them, unless that is asked for. -/
def complete (s : CopyStyle) (options : List Given) : ToolM CopyStyle := do
  if has options "link" && has options "symbolic-link" then
    failWithHelp s.name "cannot make both hard and symbolic links" 1
  let isUpdate := s.isUpdate && s.reply != .keep
  let backup? ← BackupStyle.ofOptions? s.name options
  let saysLinks := options.any fun given =>
    ["archive", "d", "dereference", "no-dereference", "H"].contains given.1
  let follows := if saysLinks || s.isMove then s.follows
    else if s.isRecursive && s.making != .link then .never
    else .always
  pure { s with isUpdate, backup?, follows }

/-! ## Saying -/

/-- Tells what was done, if that is wanted. -/
def tell (s : CopyStyle) (text : String) : ToolM Unit := do
  if s.isVerbose then say s.name (text ++ "\n")

/-- Tells from where something came, where it is, and the backup of what was there before. -/
def tellPair (s : CopyStyle) (verb source target : String) (backup? : Option String) : ToolM Unit :=
  s.tell (verb ++ shellQuoted source ++ " -> " ++ shellQuoted target ++
    ((backup?.map fun path => " (backup: " ++ shellQuoted path ++ ")").getD ""))

/-- Complains, and goes on with the rest. -/
def refuse (s : CopyStyle) (text : String) : ToolM Bool := do
  complain s.name text
  pure false

end CopyStyle

end Rebuild.Tool
