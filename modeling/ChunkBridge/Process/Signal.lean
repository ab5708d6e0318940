/-!
# Signals
-/

namespace ChunkBridge.Signal

/-- The names of the signals from number one on. -/
def names : List String :=
  ["HUP", "INT", "QUIT", "ILL", "TRAP", "ABRT", "BUS", "FPE", "KILL", "USR1", "SEGV", "USR2",
    "PIPE", "ALRM", "TERM", "STKFLT", "CHLD", "CONT", "STOP", "TSTP", "TTIN", "TTOU", "URG",
    "XCPU", "XFSZ", "VTALRM", "PROF", "WINCH", "IO", "PWR", "SYS"]

/-- The signal that asks a process to end. -/
def termination : Nat := 15

/-- The signal with a name. -/
def ofName? (name : String) : Option Nat := (names.findIdx? (· == name)).map (· + 1)

/-- The name of a signal. -/
def name? (signal : Nat) : Option String :=
  if signal == 0 then none else (names[signal - 1]?).map ("SIG" ++ ·)

/-- Signals that a process goes on from, or stops at. -/
def ignored : List String :=
  ["CHLD", "CONT", "STOP", "TSTP", "TTIN", "TTOU", "URG", "WINCH"]

/-- The signal ends a process that does not expect it. -/
def ends (signal : Nat) : Bool :=
  0 < signal && signal ≤ names.length &&
    !ignored.contains
      ((names[signal - 1]?).getD "")

/-- The signal for people to read. -/
def display (signal : Nat) : String :=
  match name? signal with
  | some name => s!"{signal} ({name})"
  | none => toString signal

end ChunkBridge.Signal
