import Streamkeeper.StandIn.Shell.Characters

/-!
Signals: their numbers, their names, and what they do to a process that does not care.
-/

namespace Streamkeeper.StandIn.Shell

/-- A signal by its number; 0 stands for the end of a script. -/
abbrev Signal := Nat

namespace Signal

/-- The signals before the numbered ones: their names and the words for a process that one ended. -/
def known : List (String × String) :=
  [("EXIT", ""), ("HUP", "Hangup"), ("INT", "Interrupt"), ("QUIT", "Quit"),
    ("ILL", "Illegal instruction"), ("TRAP", "Trace/breakpoint trap"), ("ABRT", "Aborted"),
    ("BUS", "Bus error"), ("FPE", "Floating point exception"), ("KILL", "Killed"),
    ("USR1", "User defined signal 1"), ("SEGV", "Segmentation fault"),
    ("USR2", "User defined signal 2"), ("PIPE", "Broken pipe"), ("ALRM", "Alarm clock"),
    ("TERM", "Terminated"), ("STKFLT", "Stack fault"), ("CHLD", "Child exited"),
    ("CONT", "Continued"), ("STOP", "Stopped (signal)"), ("TSTP", "Stopped"),
    ("TTIN", "Stopped (tty input)"), ("TTOU", "Stopped (tty output)"),
    ("URG", "Urgent I/O condition"), ("XCPU", "CPU time limit exceeded"),
    ("XFSZ", "File size limit exceeded"), ("VTALRM", "Virtual timer expired"),
    ("PROF", "Profiling timer expired"), ("WINCH", "Window changed"), ("IO", "I/O possible"),
    ("PWR", "Power failure"), ("SYS", "Bad system call")]

/-- The first of the signals that have no meaning of their own. -/
def firstFree : Signal := 34

/-- The last signal. -/
def last : Signal := 64

/-- The name of a signal. -/
def name (s : Signal) : String :=
  match known[s]? with
  | some k => k.1
  | none =>
    if s < firstFree then Nat.repr s
    else if s = firstFree then "RTMIN"
    else if s = last then "RTMAX"
    else if s ≤ 49 then "RTMIN+" ++ Nat.repr (s - firstFree)
    else "RTMAX-" ++ Nat.repr (last - s)

/-- The words for a process that a signal ended. -/
def text (s : Signal) : String :=
  match known[s]? with
  | some k => k.2
  | none =>
    if s < firstFree then "Unknown signal " ++ Nat.repr s
    else "Real-time signal " ++ Nat.repr (s - firstFree)

/-- The interrupt from a keyboard. -/
def interrupt : Signal := 2

/-- Ends a process without asking. -/
def kill : Signal := 9

/-- Nobody reads a pipe any more. -/
def brokenPipe : Signal := 13

/-- The polite request to end. -/
def terminate : Signal := 15

/-- The signals that do nothing to a process that does not ask for them. -/
def harmless : List Signal := [17, 18, 19, 20, 21, 22, 23, 28]

/-- Does the signal end a process that does not ask for it? -/
def isFatal (s : Signal) : Bool :=
  s != 0 && !harmless.contains s

/-- The signal that a word names, by its number or, in letters of either case, by its name; `least` is
the first one that counts. -/
def ofWord? (least : Signal) (w : List Char) : Option Signal :=
  match natural? w with
  | some n => if n ≤ last then some n else none
  | none =>
    let wanted := w.map Char.toUpper
    (List.range (last + 1)).find? fun s => least ≤ s && (name s).toList == wanted

end Signal

end Streamkeeper.StandIn.Shell
