/-!
# Signals

A signal is a number from 1 to 64. Most have a name and a wording of the end that they bring to a process. Some do not
end a process that has no trap for them. The number zero stands for the end of a process itself.
-/

namespace Rebuild.Signal

/-- The greatest signal. -/
def last : Nat := 64

/-- The first of the signals that programs may use as they like. -/
def firstFree : Nat := 34

/-- The names of the signals before the free ones, from the first on; some have their number as a name. -/
def properNames : List String :=
  ["HUP", "INT", "QUIT", "ILL", "TRAP", "ABRT", "BUS", "FPE", "KILL", "USR1", "SEGV", "USR2", "PIPE", "ALRM", "TERM",
    "16", "CHLD", "CONT", "STOP", "TSTP", "TTIN", "TTOU", "URG", "XCPU", "XFSZ", "VTALRM", "PROF", "WINCH", "IO",
    "PWR", "SYS", "32", "33"]

/-- The names of the free signals: they are counted from both ends. -/
def freeNames : List String :=
  (List.range 31).map fun i =>
    if i == 0 then "RTMIN" else if i == 30 then "RTMAX" else if i < 16 then s!"RTMIN+{i}" else s!"RTMAX-{30 - i}"

/-- The names of all signals, from the first on. -/
def names : List String :=
  properNames ++ freeNames

/-- The name of a signal. -/
def name (signal : Nat) : String :=
  if signal == 0 then "EXIT" else (names[signal - 1]?).getD (toString signal)

/-- The signal with a number or a name, in which case does not count. -/
def ofText? (text : String) : Option Nat :=
  if !text.isEmpty && text.toList.all Char.isDigit then text.toNat?.filter (· ≤ last)
  else if text.toUpper == "EXIT" then some 0
  else (names.findIdx? (· == text.toUpper)).map (· + 1)

/-- Whether a signal without a trap leaves a process as it is. -/
def isHarmless (signal : Nat) : Bool :=
  signal == 0 || [17, 18, 19, 20, 21, 22, 23, 28].contains signal

/-- The wordings of the ends by signals before the free ones, from the first on. -/
def properTexts : List String :=
  ["Hangup", "Interrupt", "Quit", "Illegal instruction", "Trace/breakpoint trap", "Aborted", "Bus error",
    "Floating point exception", "Killed", "User defined signal 1", "Segmentation fault", "User defined signal 2",
    "Broken pipe", "Alarm clock", "Terminated", "Stack fault", "Child exited", "Continued", "Stopped (signal)",
    "Stopped",
    "Stopped (tty input)", "Stopped (tty output)", "Urgent I/O condition", "CPU time limit exceeded",
    "File size limit exceeded", "Virtual timer expired", "Profiling timer expired", "Window changed", "I/O possible",
    "Power failure", "Bad system call"]

/-- The wording of the end of a process by a signal. -/
def text (signal : Nat) : String :=
  match properTexts[signal - 1]? with
  | some text => text
  | none =>
    if firstFree ≤ signal then s!"Real-time signal {signal - firstFree}" else s!"Unknown signal {signal}"

/-- The signal to one who writes what nobody reads. -/
def brokenPipe : Nat := 13

/-- The signal to one who makes a file larger than it may be. -/
def fileSize : Nat := 25

/-- The signal to one who divides the least integer by minus one. -/
def arithmetic : Nat := 8

end Rebuild.Signal
