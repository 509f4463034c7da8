import LineShell.Launch
import LineShell.Script.Octets

/-! # Signals

Signals are numbers with names.  The number 0 stands for the end of a process, on which a
script may act as on a signal.
-/
namespace LineShell.Script
namespace Signal

/-- The number behind the last signal. -/
def count : Nat := 65

/-- The first and the last of the signals whose names count from either end. -/
def firstCounted : Nat := 34

def lastCounted : Nat := 64

/-- The name of a signal.  Two numbers between the named ones have none but themselves. -/
def name (s : Nat) : Octets :=
  if s = 0 then Octets.ofString "EXIT"
  else match ExitStatus.signalNames.lookup s with
    | some full => full.toList.drop 3
    | none =>
      if s < firstCounted then Octets.ofNat s
      else if s = firstCounted then Octets.ofString "RTMIN"
      else if s = lastCounted then Octets.ofString "RTMAX"
      else if s < firstCounted + 16 then Octets.ofString "RTMIN+" ++ Octets.ofNat (s - firstCounted)
      else Octets.ofString "RTMAX-" ++ Octets.ofNat (lastCounted - s)

/-- The signal that a number or a name means, from the signal `least` on; names are read in
either case. -/
def ofOctets? (least : Nat) (cs : Octets) : Option Nat :=
  if !cs.isEmpty && cs.all Char.isDigit then (List.range count).find? fun s => Octets.readNat cs = s
  else (List.range count).find? fun s =>
    least ≤ s && cs.map Char.toUpper == (name s).map Char.toUpper

/-- The signal that tells a process of the end of one that it has started. -/
def ofChild : Nat := 17

/-- Signals that do no harm to a process which does nothing about them. -/
def harmless : List Nat := [0, ofChild, 18, 23, 28]

/-- How the end of a process by a signal is reported; two signals pass in silence. -/
def descriptions : List (Nat × String) :=
  [(1, "Hangup"), (3, "Quit"), (4, "Illegal instruction"), (5, "Trace/breakpoint trap"),
   (6, "Aborted"), (7, "Bus error"), (8, "Floating point exception"), (9, "Killed"),
   (10, "User defined signal 1"), (11, "Segmentation fault"), (12, "User defined signal 2"),
   (14, "Alarm clock"), (15, "Terminated"), (16, "Stack fault"), (24, "CPU time limit exceeded"),
   (25, "File size limit exceeded"), (26, "Virtual timer expired"),
   (27, "Profiling timer expired"), (29, "I/O possible"), (30, "Power failure"),
   (31, "Bad system call")]

def description? (s : Nat) : Option Octets :=
  match descriptions.lookup s with
  | some text => some (Octets.ofString text)
  | none =>
    if firstCounted ≤ s then
      some (Octets.ofString "Real-time signal " ++ Octets.ofNat (s - firstCounted))
    else none

/-- The description of any signal. -/
def fullDescription (s : Nat) : Octets :=
  (description? s).getD (Octets.ofString (if s = 2 then "Interrupt" else "Broken pipe"))

end Signal
end LineShell.Script
