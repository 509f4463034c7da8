import LineShell.Context

/-! # Starting programs

An external program is started with a name, words and a directory, and runs to its end
with nothing to read and both output streams caught.  What it does to the files is its
own affair, so a `Launcher` is any function of the file tree; if the program cannot be
started, nothing has happened to the tree.
-/
namespace LineShell

/-- What is asked of the system: to run the file `program` in `directory`, with `name`
as its first word and the arguments after it. -/
structure Launch where
  name : String
  program : Path
  arguments : List String
  directory : Path
  deriving DecidableEq, Repr

/-- How a program ended. -/
inductive ExitStatus where
  | exited (code : Nat)
  | signalled (signal : Nat)
  deriving DecidableEq, Repr

namespace ExitStatus

def isSuccess (s : ExitStatus) : Bool := s = .exited 0

/-- The names of the signals. -/
def signalNames : List (Nat × String) :=
  [(1, "SIGHUP"), (2, "SIGINT"), (3, "SIGQUIT"), (4, "SIGILL"), (5, "SIGTRAP"), (6, "SIGABRT"),
   (7, "SIGBUS"), (8, "SIGFPE"), (9, "SIGKILL"), (10, "SIGUSR1"), (11, "SIGSEGV"),
   (12, "SIGUSR2"), (13, "SIGPIPE"), (14, "SIGALRM"), (15, "SIGTERM"), (16, "SIGSTKFLT"),
   (17, "SIGCHLD"), (18, "SIGCONT"), (19, "SIGSTOP"), (20, "SIGTSTP"), (21, "SIGTTIN"),
   (22, "SIGTTOU"), (23, "SIGURG"), (24, "SIGXCPU"), (25, "SIGXFSZ"), (26, "SIGVTALRM"),
   (27, "SIGPROF"), (28, "SIGWINCH"), (29, "SIGIO"), (30, "SIGPWR"), (31, "SIGSYS")]

/-- How a log record words the end of a program. -/
def describe : ExitStatus → String
  | .exited code => "exit status: " ++ toString code
  | .signalled n =>
    "signal: " ++ toString n ++
      match signalNames.lookup n with
      | some name => " (" ++ name ++ ")"
      | none => ""

end ExitStatus

/-- What is left of a program that has ended. -/
structure Completion where
  status : ExitStatus
  out : Bytes
  err : Bytes
  deriving DecidableEq, Repr

/-- The programs of a machine. -/
abbrev Launcher := Launch → FileSystem → Except Fault (Completion × FileSystem)

end LineShell
