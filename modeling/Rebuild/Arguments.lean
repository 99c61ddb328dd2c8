import Rebuild.LogLevel

/-!
# Command line arguments

The program has one command, `build`, before and after which options may stand. `--rules` may be repeated; `--log-level`
and `--dry-run` may not be, at one level. What is given after the command counts instead of what is given before it.

A value in an argument of its own is looked at only when the next option or name is read or the arguments end; before
the command it is looked at after all that follows the command.
-/

namespace Rebuild

/-- What the command line asks for. -/
structure Arguments where
  rules : List String
  logLevel : Option LogLevel
  target : Option String
  dryRun : Bool
deriving DecidableEq, Repr

namespace Arguments

/-- Why nothing is to be built. -/
inductive Stop where
  /-- Help was asked for. -/
  | help
  /-- The version was asked for. -/
  | version
  /-- The arguments do not fit. -/
  | usage
deriving DecidableEq, Repr

/-- The exit code that goes with it. -/
def Stop.exitCode : Stop → Nat
  | .usage => 2
  | _ => 0

/-- An option that takes a value. -/
inductive Valued where
  | rules
  | logLevel
deriving DecidableEq, Repr

/-- What an option stands for. -/
inductive Meaning where
  | valued (option : Valued)
  | dryRun
  | help
  | version
deriving DecidableEq, Repr

/-- Where an option stands: before the command or after it. -/
inductive Level where
  | program
  | build
deriving DecidableEq, Repr

/-- What has been read at one level. -/
structure Reading where
  rules : List String
  logLevel : Option LogLevel
  target : Option String
  dryRun : Bool
  /-- The last option with a value of its own, not looked at yet, and the value once it is read. -/
  pending : Option (Valued × Option String)
deriving DecidableEq, Repr

namespace Reading

/-- Nothing read. -/
def empty : Reading := ⟨[], none, none, false, none⟩

/-- Takes the value of an option. -/
def give (s : Reading) (option : Valued) (value : String) : Except Stop Reading :=
  match option with
  | .rules => .ok { s with rules := s.rules ++ [value] }
  | .logLevel =>
    match s.logLevel, LogLevel.ofName? value with
    | none, some level => .ok { s with logLevel := some level }
    | _, _ => .error .usage

/-- Looks at the pending option. -/
def settle (s : Reading) : Except Stop Reading :=
  match s.pending with
  | none => .ok s
  | some (_, none) => .error .usage
  | some (option, some value) => ({ s with pending := none } : Reading).give option value

/-- The option that still needs its value. -/
def awaiting? (s : Reading) : Option Valued :=
  match s.pending with
  | some (option, none) => some option
  | _ => none

/-- Takes an option, with its value if that is attached. -/
def take (s : Reading) (meaning : Meaning) (attached : Option String) : Except Stop Reading := do
  let s ← s.settle
  match meaning, attached with
  | .valued option, some value => s.give option value
  | .valued option, none => .ok { s with pending := some (option, none) }
  | .dryRun, _ => if s.dryRun then .error .usage else .ok { s with dryRun := true }
  | .help, _ => .error .help
  | .version, _ => .error .version

/-- Takes the name of a target. -/
def takeTarget (s : Reading) (name : String) : Except Stop Reading := do
  let s ← s.settle
  match s.target with
  | none => .ok { s with target := some name }
  | some _ => .error .usage

end Reading

/-! ## Options -/

/-- An argument by its form. -/
inductive Form where
  /-- Two dashes: no options follow. -/
  | dashes
  | long (name : List Char) (value : Option String)
  /-- One dash and letters. -/
  | short (letters : List Char)
  | plain

/-- The form of an argument. A lone dash is plain. -/
def form (arg : String) : Form :=
  match arg.toList with
  | ['-', '-'] => .dashes
  | '-' :: '-' :: cs =>
    match cs.dropWhile (· != '=') with
    | [] => .long cs none
    | _ :: value => .long (cs.takeWhile (· != '=')) (some (String.ofList value))
  | '-' :: c :: cs => .short (c :: cs)
  | _ => .plain

/-- The meaning of a long option. -/
def longMeaning? (level : Level) (name : List Char) : Option Meaning :=
  if name == "rules".toList then some (.valued .rules)
  else if name == "log-level".toList then some (.valued .logLevel)
  else if name == "help".toList then some .help
  else if name == "version".toList && level == .program then some .version
  else if name == "dry-run".toList && level == .build then some .dryRun
  else none

/-- The meaning of a short option. -/
def shortMeaning? (level : Level) (c : Char) : Option Meaning :=
  if c == 'r' then some (.valued .rules)
  else if c == 'h' then some .help
  else if c == 'V' && level == .program then some .version
  else none

/-- Takes a long option. Only an option with a value may have one attached. -/
def takeLong (level : Level) (s : Reading) (name : List Char) (value : Option String) : Except Stop Reading :=
  match longMeaning? level name, value with
  | none, _ => .error .usage
  | some (.valued option), value => s.take (.valued option) value
  | some _, some _ => .error .usage
  | some meaning, none => s.take meaning none

/-- Takes short options written together. What follows one with a value is its value, without an equals sign. -/
def takeShort (level : Level) (s : Reading) : List Char → Except Stop Reading
  | [] => .ok s
  | c :: cs =>
    match shortMeaning? level c with
    | none => .error .usage
    | some (.valued option) =>
      match cs with
      | [] => s.take (.valued option) none
      | '=' :: value => s.take (.valued option) (some (String.ofList value))
      | value => s.take (.valued option) (some (String.ofList value))
    | some meaning => do
      let s ← s.take meaning none
      takeShort level s cs

/-! ## Commands -/

/-- Reads what follows the command; `ended` tells whether two dashes have ended the options. -/
def readBuild (s : Reading) (ended : Bool) : List String → Except Stop Reading
  | [] => s.settle
  | arg :: args =>
    if ended then do readBuild (← s.takeTarget arg) true args
    else
      match form arg with
      | .dashes => readBuild s true args
      | .long name value => do readBuild (← takeLong .build s name value) false args
      | .short letters => do readBuild (← takeShort .build s letters) false args
      | .plain =>
        match s.awaiting? with
        | some option => readBuild { s with pending := some (option, some arg) } false args
        | none => do readBuild (← s.takeTarget arg) false args

/-- What a request for help on these commands comes to. -/
def helpOn (commands : List String) : Stop :=
  match commands with
  | [] | ["build"] | ["help"] => .help
  | _ => .usage

/-- Reads the arguments from the options before the command. -/
def readProgram (s : Reading) : List String → Except Stop Arguments
  | [] => .error .usage
  | arg :: args =>
    match form arg with
    | .dashes => .error .usage
    | .long name value => do readProgram (← takeLong .program s name value) args
    | .short letters => do readProgram (← takeShort .program s letters) args
    | .plain =>
      match s.awaiting? with
      | some option => readProgram { s with pending := some (option, some arg) } args
      | none =>
        if arg == "build" then do
          let b ← readBuild .empty false args
          let s ← s.settle
          .ok ⟨if b.rules.isEmpty then s.rules else b.rules, b.logLevel <|> s.logLevel, b.target, b.dryRun⟩
        else if arg == "help" then .error (helpOn args)
        else .error .usage

/-- What the arguments ask for. -/
def read (args : List String) : Except Stop Arguments :=
  readProgram .empty args

end Arguments

end Rebuild
