/-
Signals: their names, their numbers, and what is said of a process that one ended.
-/
namespace DecoderBench.Shell

/-- A signal. The end of a shell counts as one with the number zero. -/
structure Signal where
  name : String
  number : Nat
  /-- What is said of a process that it ended. -/
  words : String := ""
  deriving DecidableEq

namespace Signal

/-- The end of the shell. -/
def exit : Signal := ⟨"EXIT", 0, ""⟩

/-- The signal that asks a process to end. -/
def terminate : Signal := ⟨"TERM", 15, "Terminated"⟩

/-- All signals, in the order of their numbers. -/
def all : List Signal :=
  [⟨"HUP", 1, "Hangup"⟩, ⟨"INT", 2, "Interrupt"⟩, ⟨"QUIT", 3, "Quit"⟩,
    ⟨"ILL", 4, "Illegal instruction"⟩, ⟨"TRAP", 5, "Trace/breakpoint trap"⟩,
    ⟨"ABRT", 6, "Aborted"⟩, ⟨"BUS", 7, "Bus error"⟩, ⟨"FPE", 8, "Floating point exception"⟩,
    ⟨"KILL", 9, "Killed"⟩, ⟨"USR1", 10, "User defined signal 1"⟩,
    ⟨"SEGV", 11, "Segmentation fault"⟩, ⟨"USR2", 12, "User defined signal 2"⟩,
    ⟨"PIPE", 13, "Broken pipe"⟩, ⟨"ALRM", 14, "Alarm clock"⟩, terminate,
    ⟨"STKFLT", 16, "Stack fault"⟩, ⟨"CHLD", 17, "Child exited"⟩, ⟨"CONT", 18, "Continued"⟩,
    ⟨"STOP", 19, "Stopped (signal)"⟩, ⟨"TSTP", 20, "Stopped"⟩, ⟨"TTIN", 21, "Stopped (tty input)"⟩,
    ⟨"TTOU", 22, "Stopped (tty output)"⟩, ⟨"URG", 23, "Urgent I/O condition"⟩,
    ⟨"XCPU", 24, "CPU time limit exceeded"⟩, ⟨"XFSZ", 25, "File size limit exceeded"⟩,
    ⟨"VTALRM", 26, "Virtual timer expired"⟩, ⟨"PROF", 27, "Profiling timer expired"⟩,
    ⟨"WINCH", 28, "Window changed"⟩, ⟨"IO", 29, "I/O possible"⟩, ⟨"PWR", 30, "Power failure"⟩,
    ⟨"SYS", 31, "Bad system call"⟩]

/-- The signal of a name, in either case, or of a number. -/
def ofName? (s : String) : Option Signal :=
  (exit :: all).find? fun x =>
    x.name.toList == s.toList.map Char.toUpper || toString x.number == s

/-- Whether a signal does nothing to a process that does not trap it. -/
def isHarmless (s : Signal) : Bool := ["CHLD", "CONT", "URG", "WINCH"].contains s.name

/-- What a shell says of a process that a signal ended, by the status of that. Two signals
are not worth a word. -/
def ofStatus? (status : Nat) : Option Signal :=
  (all.find? fun x => x.number + 128 == status).filter fun x => x.name != "INT" && x.name != "PIPE"

end Signal
end DecoderBench.Shell
