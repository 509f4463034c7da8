import LineShell.ReadLoop

/-! # The program

The program is the read loop between the surroundings of a process: it takes its settings
and its context from the environment and the working directory, reads standard input, and
ends with a status.  Log records go to standard error, at the moment they are noted.
-/
namespace LineShell

/-- What a process finds when it starts. -/
structure Surroundings where
  environment : Environment
  /-- The working directory, if the system can tell it. -/
  directory : Except Fault Path
  files : FileSystem
  input : Input
  /-- The file that is standard output, if it is not caught. -/
  stdout : Option Path := none
  stamp : Stamp

/-- What a process leaves behind. -/
structure Outcome where
  status : Nat
  out : Bytes
  err : Bytes
  files : FileSystem

namespace Program

/-- Standard output, and the tree in which its file has been opened.  A file that is there
already is written over from its first byte on. -/
def standardOutput (files : FileSystem) (path : Option Path) : Stored × FileSystem :=
  match path.map (files.openFile .append) with
  | some (.ok (.device .full, files)) =>
    ({ stream := { sink := { room := some 0, refusal := .system .noSpace } }
       handle := some (.device .full) }, files)
  | some (.ok (.atEnd n, files)) => ({ handle := some (.within n 0) }, files)
  | some (.ok (handle, files)) => ({ handle := some handle }, files)
  | _ => ({}, files)

/-- The context to start with; if there is none to be had, that is said. -/
def start (w : Surroundings) (s : Session Stored Sink) : Session Stored Sink :=
  match Context.ofSurroundings w.directory w.environment with
  | .ok context => { s with context }.note (.contextRead context)
  | .error d =>
    let s := (s.writeErr d.line).2
    { s with context := Context.fallback }.note (.startingIn Context.fallback.cwd)

/-- The status that the system sees: the lowest eight bits. -/
def statusByte (status : Int) : Nat := (status % 256).toNat

/-- Runs the program to its end. -/
def run (launcher : Launcher) (w : Surroundings) : Outcome :=
  let settings := Settings.ofEnvironment w.environment
  let (out, files) := standardOutput w.files w.stdout
  let s : Session Stored Sink := { context := Context.fallback, files, out, err := {} }
  let s := start w (s.note (.thresholdSet settings.threshold))
  let (result, s) := ReadLoop.run launcher settings w.input s
  let (status, s) : Nat × Session Stored Sink :=
    match result with
    | .ok status => (statusByte status, s)
    | .error failure => (1, (s.writeErr (Text.utf8 (failure.message ++ "\n"))).2)
  -- what is still held back goes out at the very end, wanted or not
  let s := s.flushOut.2
  { status
    out := if s.out.handle.isSome then [] else s.out.stream.sink.taken
    err := Note.weave w.stamp settings.threshold 0 s.journal.reverse s.err.taken
    files := s.files }

end Program
end LineShell
