import Rebuild.Tool.Input
import Rebuild.User

/-!
# Who runs programs, and where

All programs are run by the user `root`, without a terminal. These programs tell that, and what the system is.
-/

namespace Rebuild.Tool

open Text

/-- Complains of the first of some operands, if there is one. -/
def refuseOperands (name : String) (operands : List String) : ToolM Unit := do
  match operands with
  | extra :: _ => failWithHelp name s!"extra operand {plainlyQuoted extra}" 1
  | [] => pure ()

/-- Prints the name of the user. -/
def whoami : Tool := fun name args => do
  let (_, operands) ← readOptions name [] false 1 args
  refuseOperands name operands
  say name "root\n"
  pure 0

/-- Prints the numbers or names of users and their groups. -/
def identity : Tool := fun name args => do
  let rules : List OptionRule :=
    [⟨"a", "", .none⟩, ⟨"u", "user", .none⟩, ⟨"g", "group", .none⟩, ⟨"G", "groups", .none⟩, ⟨"n", "name", .none⟩,
     ⟨"r", "real", .none⟩, ⟨"z", "zero", .none⟩]
  let (options, operands) ← readOptions name rules false 1 args
  let wanted := ["user", "group", "groups"].filter (has options)
  if 1 < wanted.length then fail name "cannot print \"only\" of more than one choice" 1
  if wanted.isEmpty && (has options "name" || has options "real") then
    fail name "cannot print only names or real IDs in default format" 1
  let ending := if has options "zero" then "\x00" else "\n"
  let textOf (user : User) : String :=
    if wanted.isEmpty then
      s!"uid={user.number}({user.name}) gid={user.groupNumber}({user.group}) groups={user.groupNumber}({user.group})"
    else if has options "user" then if has options "name" then user.name else toString user.number
    else if has options "name" then user.group
    else toString user.groupNumber
  eachOf (if operands.isEmpty then ["root"] else operands) fun operand => do
    match User.ofText? operand with
    | some user => do
      say name (textOf user ++ ending)
      pure 0
    | none => do
      complain name s!"{plainlyQuoted operand}: no such user"
      pure 1

/-- Prints the groups of users. -/
def userGroups : Tool := fun name args => do
  let (_, operands) ← readOptions name [] false 1 args
  if operands.isEmpty then
    say name "root\n"
    pure 0
  else
    eachOf operands fun operand => do
      match User.named? operand with
      | some user => do
        say name s!"{user.name} : {user.group}\n"
        pure 0
      | none => do
        complain name s!"{plainlyQuoted operand}: no such user"
        pure 1

/-- Prints the name under which the user came to a terminal, which there is not. -/
def logname : Tool := fun name args => do
  let (_, operands) ← readOptions name [] false 1 args
  refuseOperands name operands
  complain name "no login name"
  pure 1

/-- Prints the terminal of the input, which there is not. -/
def tty : Tool := fun name args => do
  let (options, operands) ← readOptions name [⟨"s", "silent", .none⟩, ⟨"", "quiet", .none⟩] false 2 args
  match operands with
  | extra :: _ => failWithHelp name s!"extra operand {plainlyQuoted extra}" 2
  | [] => pure ()
  unless has options "silent" || has options "quiet" do say name "not a tty\n"
  pure 1

/-- Prints what the system is. -/
def uname : Tool := fun name args => do
  let rules : List OptionRule :=
    [⟨"a", "all", .none⟩, ⟨"s", "kernel-name", .none⟩, ⟨"n", "nodename", .none⟩, ⟨"r", "kernel-release", .none⟩,
     ⟨"v", "kernel-version", .none⟩, ⟨"m", "machine", .none⟩, ⟨"p", "processor", .none⟩,
     ⟨"i", "hardware-platform", .none⟩, ⟨"o", "operating-system", .none⟩]
  let (options, operands) ← readOptions name rules false 1 args
  refuseOperands name operands
  let parts : List (String × String) :=
    [("kernel-name", "Linux"), ("nodename", "localhost"), ("kernel-release", "6.1.0"), ("kernel-version", "#1 SMP"),
     ("machine", "x86_64"), ("processor", "unknown"), ("hardware-platform", "unknown"),
     ("operating-system", "GNU/Linux")]
  let isWanted (part : String × String) : Bool :=
    if options.isEmpty then part.1 == "kernel-name"
    else if has options "all" then part.2 != "unknown"
    else has options part.1
  say name (" ".intercalate ((parts.filter isWanted).map Prod.snd) ++ "\n")
  pure 0

/-- Prints what the processor is. -/
def arch : Tool := fun name args => do
  let (_, operands) ← readOptions name [] false 1 args
  refuseOperands name operands
  say name "x86_64\n"
  pure 0

/-- Prints the paths of programs. -/
def which : Tool := fun name args => do
  let (options, operands) ← match optionsOf [⟨"a", "", .none⟩, ⟨"s", "", .none⟩] true args with
    | .ok found => pure found
    | .error fault =>
      let letter := match fault with
        | .unknownLetter letter => letter
        | _ => '-'
      ExceptT.lift (Process.sayError (s!"Illegal option -{letter}" ++ "\n"))
      say name "Usage: /usr/bin/which [-as] args\n"
      quit 2
  if operands.isEmpty then quit 1
  let p ← get
  let directories := (p.environment.lookup "PATH").getD Process.usualDirectories
  eachOf operands fun program => do
    let paths := if program.toList.contains '/' then [program] else Process.pathsIn directories program
    let found := paths.filter fun path => (p.disk.get path).toOption.any Process.isRunnable
    unless has options "s" do
      for path in if has options "a" then found else found.take 1 do say name (path ++ "\n")
    pure (if found.isEmpty then 1 else 0)

end Rebuild.Tool
