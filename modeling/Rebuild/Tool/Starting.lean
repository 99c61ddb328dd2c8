import Rebuild.Text.Format
import Rebuild.Tool.Input
import Rebuild.Tool.Moment

/-!
# Programs that start a program

They go on as the program that their operands name, after they changed what it sees: its environment, its directory, its
signals, its time. How a program is started is a parameter of this module.
-/

namespace Rebuild.Tool

section Starting

variable (launch : Launcher)

/-- Starts a program by its name and waits for its end. A file that is no program is run as a script. -/
def startNamed (words : List String) : ProcessM (Except SystemFault ExitStatus) := fun p =>
  match p.programPath (words.headD "") with
  | .error fault => (.error fault, p)
  | .ok path =>
    let action : ProcessM (Except SystemFault ExitStatus) := do
      match ← launch path words with
      | .error .notProgram => launch "/bin/sh" ("/bin/sh" :: path :: words.drop 1)
      | result => pure result
    Process.inside action p

/-- The exit code of a program that cannot start another. -/
def startingCode (fault : SystemFault) : Nat :=
  if fault == .noEntry then 127 else 126

/-- Goes on as another program. What is said if that cannot be started is a parameter. -/
def become (name : String) (words : List String) (complaint : String → String) : ToolM Nat := do
  match ← ExceptT.lift (startNamed launch words) with
  | .ok status => throw status
  | .error fault =>
    complain name (complaint (words.headD "") ++ s!": {fault.text}")
    pure (startingCode fault)

/-! ## Environments -/

/-- What is wrong with a text that is to be divided into words. -/
inductive SplitFault where
  | noQuote
  | badEscape (c : Char)
  | lastBackslash
  | endingInQuotes
  | badReference (text : String)
deriving DecidableEq, Repr

/-- The wording of what is wrong with a text that is to be divided into words. -/
def SplitFault.text : SplitFault → String
  | .noQuote => "no terminating quote in -S string"
  | .badEscape c => s!"invalid sequence '\\{c}' in -S"
  | .lastBackslash => "invalid backslash at end of string in -S"
  | .endingInQuotes => "'\\c' must not appear in double-quoted -S string"
  | .badReference text => "only $\x7bVARNAME\x7d expansion is supported, error at: " ++ text

/-- The character that a letter after a backslash stands for. -/
def splitEscape? (c : Char) : Option Char :=
  match c with
  | 'f' => some '\x0c'
  | 'n' => some '\n'
  | 'r' => some '\r'
  | 't' => some '\t'
  | 'v' => some '\x0b'
  | '#' | '$' | '"' | '\'' | '\\' => some c
  | _ => none

/-- The words of a text, after those that were found, of which the last may be unfinished. Quotes and backslashes keep
characters from dividing; variables are named in braces after a dollar sign. -/
def splitWords (valueOf : String → Option String) (limit : Nat) (quote : Option Char) (words : List String)
    (current : Option (List Char)) (cs : List Char) : Except SplitFault (List String) :=
  let ended : List String := (current.map fun word => String.ofList word.reverse).toList ++ words
  let add (more : List Char) : Option (List Char) := some (more.reverse ++ current.getD [])
  match limit, cs with
  | 0, _ => .ok ended.reverse
  | _, [] => if quote.isSome then .error .noQuote else .ok ended.reverse
  | limit + 1, c :: rest =>
    if quote == some c then splitWords valueOf limit none words (add []) rest
    else if quote.isNone && (c == '"' || c == '\'') then splitWords valueOf limit (some c) words (add []) rest
    else if quote.isNone && (c == ' ' || ('\t' ≤ c && c ≤ '\r')) then splitWords valueOf limit none ended none rest
    else if quote.isNone && current.isNone && c == '#' then .ok ended.reverse
    else if c == '\\' then
      match rest with
      | [] => .error .lastBackslash
      | d :: rest =>
        if quote == some '\'' then
          splitWords valueOf limit quote words (add (if d == '\\' || d == '\'' then [d] else ['\\', d])) rest
        else if d == '_' then
          if quote.isSome then splitWords valueOf limit quote words (add [' ']) rest
          else splitWords valueOf limit quote ended none rest
        else if d == 'c' then if quote.isSome then .error .endingInQuotes else .ok ended.reverse
        else
          match splitEscape? d with
          | some e => splitWords valueOf limit quote words (add [e]) rest
          | none => .error (.badEscape d)
    else if c == '$' && quote != some '\'' then
      let name := (rest.drop 1).takeWhile fun d => d.isAlphanum || d == '_'
      match rest.head?, rest[name.length + 1]?, name with
      | some '\x7b', some '\x7d', _ :: _ =>
        splitWords valueOf limit quote words (add ((valueOf (String.ofList name)).getD "").toList)
          (rest.drop (name.length + 2))
      | _, _, _ => .error (.badReference (String.ofList cs))
    else splitWords valueOf limit quote words (add [c]) rest

/-- The arguments of `env`, in which a text that is to be divided into words has been, if it is the first. -/
def withSplitText (name : String) (args : List String) : ToolM (List String) := do
  let environment := (← get).environment
  let divide (text : String) (rest : List String) : ToolM (List String) := do
    match splitWords (fun v => environment.lookup v) (text.length + 1) none [] none text.toList with
    | .ok words => pure (words ++ rest)
    | .error fault => fail name fault.text 125
  match args with
  | [] => pure []
  | word :: rest =>
    match rest with
    | text :: rest =>
      if word == "-S" || word == "-vS" || word == "--split-string" then divide text rest
      else attached divide word (text :: rest)
    | [] => attached divide word rest
where
  /-- Divides the text that stands in one word with its option. -/
  attached (divide : String → List String → ToolM (List String)) (word : String) (rest : List String) :
      ToolM (List String) :=
    if word.startsWith "-S" && word != "-S" then divide (word.drop 2).toString rest
    else if word.startsWith "--split-string=" then divide (word.drop 15).toString rest
    else pure (word :: rest)

/-- Sets a variable of an environment. -/
def setInEnvironment (environment : List (String × String)) (name value : String) : List (String × String) :=
  if environment.any (·.1 == name) then environment.map fun v => if v.1 == name then (name, value) else v
  else environment ++ [(name, value)]

/-- The name and the value of an assignment. -/
def assignmentIn? (word : String) : Option (String × String) :=
  let name := word.toList.takeWhile (· != '=')
  if name.length < word.length then some (String.ofList name, (word.drop (name.length + 1)).toString) else none

/-- Goes on as another program with another environment, or prints that. -/
def env : Tool := fun name args => do
  let rules : List OptionRule :=
    [⟨"i", "ignore-environment", .none⟩, ⟨"0", "null", .none⟩, ⟨"u", "unset", .required⟩, ⟨"C", "chdir", .required⟩,
     ⟨"S", "split-string", .required⟩, ⟨"v", "debug", .none⟩, ⟨"", "block-signal", .optional⟩,
     ⟨"", "default-signal", .optional⟩, ⟨"", "ignore-signal", .optional⟩, ⟨"", "list-signal-handling", .none⟩]
  let (options, operands) ← readOptions name rules true 125 (← withSplitText name args)
  let isBare := operands.head? == some "-"
  let operands := if isBare then operands.drop 1 else operands
  if isBare || has options "ignore-environment" then modify fun p => { p with environment := [] }
  else
    for (option, argument) in options do
      if option == "unset" then
        let unwanted := argument.getD ""
        if unwanted.isEmpty || unwanted.toList.contains '=' then
          fail name s!"cannot unset {Text.plainlyQuoted unwanted}: Invalid argument" 125
        modify fun p => { p with environment := p.environment.filter (·.1 != unwanted) }
  let assignments := operands.takeWhile fun word => (assignmentIn? word).isSome
  let words := operands.drop assignments.length
  for (variableName, value) in assignments.filterMap assignmentIn? do
    modify fun p => { p with environment := setInEnvironment p.environment variableName value }
  if has options "null" && !words.isEmpty then failWithHelp name "cannot specify --null (-0) with command" 125
  match argument? options "chdir" with
  | none => pure ()
  | some path =>
    if words.isEmpty then failWithHelp name "must specify command with --chdir (-C)" 125
    let d ← disk
    let found : Except SystemFault Place := do
      let place ← d.find path
      d.enter place
      pure place
    match found with
    | .ok cwd => modify fun p => { p with disk := { p.disk with cwd } }
    | .error fault => fail name s!"cannot change directory to {Text.shellQuoted path}: {fault.text}" 125
  match words with
  | [] =>
    for (variableName, value) in (← get).environment do
      say name (variableName ++ "=" ++ value ++ (if has options "null" then "\x00" else "\n"))
    pure 0
  | command :: _ =>
    let code ← become launch name words Text.plainlyQuoted
    if code == 127 && command.toList.contains ' ' then complain name "use -[v]S to pass options in shebang lines"
    pure code

end Starting

/-- Prints the environment, or variables of it. -/
def printenv : Tool := fun name args => do
  let (options, operands) ← readOptions name [⟨"0", "null", .none⟩] true 2 args
  let ending := if has options "null" then "\x00" else "\n"
  let environment := (← get).environment
  if operands.isEmpty then
    for (variableName, value) in environment do say name (variableName ++ "=" ++ value ++ ending)
    pure 0
  else
    eachOf operands fun variableName => do
      match environment.lookup variableName with
      | some value => do
        say name (value ++ ending)
        pure 0
      | none => pure 1

/-! ## Conditions of running -/

/-- The nanoseconds of a time with a unit, that of seconds if none is given. -/
def interval? (text : String) : Option Nat := do
  let (number, rest) ← Text.RealValue.front? .double text.toList
  let seconds ← match rest with
    | [] | ['s'] => some 1
    | ['m'] => some 60
    | ['h'] => some 3600
    | ['d'] => some 86400
    | _ => none
  match number with
  | .finite false numerator denominator =>
    some ((numerator * seconds * Moment.nano + denominator - 1) / denominator)
  | .infinite false => some (Decimal.tenTo 30)
  | _ => none

section Starting

variable (launch : Launcher)

/-- The number that an adjustment spells, with a sign or without. -/
def adjustment? (text : String) : Option Int :=
  match text.toList with
  | '-' :: digits => (natural? (String.ofList digits)).map fun n => -(n : Int)
  | '+' :: digits => (natural? (String.ofList digits)).map Int.ofNat
  | _ => (natural? text).map Int.ofNat

/-- Goes on as another program with another urgency, or prints what that is. -/
def nice : Tool := fun name args => do
  let isNumeric (word : String) : Bool :=
    word.startsWith "-" && (adjustment? (word.drop 1).toString).isSome
  let adjustments := args.takeWhile isNumeric
  let (options, words) ← readOptions name [⟨"n", "adjustment", .required⟩] true 125 (args.drop adjustments.length)
  match argument? options "adjustment" with
  | some text => if (adjustment? text).isNone then fail name s!"invalid adjustment {Text.plainlyQuoted text}" 125
  | none => pure ()
  if words.isEmpty then
    if has options "adjustment" || !adjustments.isEmpty then
      failWithHelp name "a command must be given with an adjustment" 125
    say name "0\n"
    pure 0
  else become launch name words Text.plainlyQuoted

/-- Goes on as another program, which a hangup does not end. -/
def nohup : Tool := fun name args => do
  let (_, words) ← readOptions name [] true 125 args
  if words.isEmpty then failWithHelp name "missing operand" 125
  become launch name words fun command => s!"failed to run command {Text.plainlyQuoted command}"

/-- The signal with a number or a name, which may have `SIG` before it. -/
def signalOfText? (text : String) : Option Nat :=
  let name := text.toUpper
  let name := if name.startsWith "SIG" then (name.drop 3).toString else name
  match name with
  | "STKFLT" => some 16
  | "POLL" => some 29
  | "IOT" => some 6
  | "CLD" => some 17
  | _ => (Signal.ofText? name).filter fun signal => signal != 16 || text == "16"

/-- Runs another program and complains if that took too long. -/
def timeout : Tool := fun name args => do
  let rules : List OptionRule :=
    [⟨"", "foreground", .none⟩, ⟨"k", "kill-after", .required⟩, ⟨"", "preserve-status", .none⟩,
     ⟨"s", "signal", .required⟩, ⟨"v", "verbose", .none⟩]
  let (options, operands) ← readOptions name rules true 125 args
  let readInterval (text : String) : ToolM Nat := do
    match interval? text with
    | some nanos => pure nanos
    | none => failWithHelp name s!"invalid time interval {Text.plainlyQuoted text}" 125
  match argument? options "kill-after" with
  | some text => let _ ← readInterval text
  | none => pure ()
  let signalName := (argument? options "signal").getD "TERM"
  match signalOfText? signalName with
  | none => failWithHelp name s!"{Text.plainlyQuoted signalName}: invalid signal" 125
  | some signal =>
    match operands with
    | text :: command :: words =>
      let limit ← readInterval text
      let start := startNamed launch (command :: words)
      let time := (← getThe Process).disk.clock + limit
      let (result, isStopped) ← ExceptT.lift (if limit == 0 then (·, false) <$> start else Process.stoppedAt time start)
      match result with
      | .error fault =>
        complain name s!"failed to run command {Text.plainlyQuoted command}: {fault.text}"
        pure (startingCode fault)
      | .ok status =>
        if !isStopped then throw status
        else
          if has options "verbose" then
            complain name s!"sending signal {signalName.toUpper} to command {Text.plainlyQuoted command}"
          if signal == 9 then throw (.terminated (some 9))
          else pure (if has options "preserve-status" then 128 + signal else 124)
    | _ =>
      ExceptT.lift (Process.sayError s!"Try '{name} --help' for more information.\n")
      pure 125

end Starting

/-! ## Waiting -/

/-- Waits. -/
def sleep : Tool := fun name args => do
  let (_, operands) ← readOptions name [] false 1 args
  if operands.isEmpty then failWithHelp name "missing operand" 1
  let mut isGood := true
  for text in operands do
    match interval? text with
    | some nanos => if ← Process.pass nanos then throw (.terminated (some 15))
    | none =>
      complain name s!"invalid time interval {Text.plainlyQuoted text}"
      isGood := false
  if !isGood then
    ExceptT.lift (Process.sayError s!"Try '{name} --help' for more information.\n")
    pure 1
  else pure 0

end Rebuild.Tool
