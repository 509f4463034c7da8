import LineShell.Builtin
import LineShell.Command.Line
import LineShell.Writer

/-! # Sessions

A session is an interpreter at work: its context, the files, the two streams that it
writes to, and its journal.  A command is dispatched to a builtin or to an external
program.  The file of a redirection is opened right before the command runs; from then on
the redirected stream goes to that file and the other to the session's own stream.  What
goes wrong before is reported on the session's own error stream.
-/
namespace LineShell

/-- What the reading of lines has to do after a command. -/
inductive Flow where
  | proceed
  | exit (status : Int)
  deriving DecidableEq, Repr

/-- An interpreter at work.  The journal has its newest note first. -/
structure Session (ω ε : Type) where
  context : Context
  files : FileSystem
  out : ω
  err : ε
  journal : List Note := []

/-- The file that a command's redirection has opened, and the stream that goes to it. -/
structure Opened where
  stream : Stream
  handle : Handle
  deriving DecidableEq, Repr

/-- A session while one command runs. -/
structure Running (ω ε : Type) where
  session : Session ω ε
  opened : Option Opened

variable {ω ε : Type} [Writer ω] [Writer ε]

namespace Session

/-- Adds an event to the journal. -/
def note (s : Session ω ε) (e : Event) : Session ω ε :=
  { s with journal := ⟨Writer.accepted s.err, e⟩ :: s.journal }

/-- Adds events to the journal, in order. -/
def noteAll (s : Session ω ε) (events : List Event) : Session ω ε := events.foldl note s

/-- Takes the state of the output stream after a write or a flush. -/
def withOut (s : Session ω ε) (out : ω) : Session ω ε :=
  let (out, files) := Writer.settle out s.files
  { s with out, files }

/-- Takes the state of the error stream after a write or a flush. -/
def withErr (s : Session ω ε) (err : ε) : Session ω ε :=
  let (err, files) := Writer.settle err s.files
  { s with err, files }

/-- Writes to the session's own output stream. -/
def writeOut (s : Session ω ε) (bytes : Bytes) : Option Fault × Session ω ε :=
  let (fault, out) := Writer.write s.out bytes
  (fault, s.withOut out)

/-- Writes to the session's own error stream. -/
def writeErr (s : Session ω ε) (bytes : Bytes) : Option Fault × Session ω ε :=
  let (fault, err) := Writer.write s.err bytes
  (fault, s.withErr err)

/-- Flushes the session's own output stream. -/
def flushOut (s : Session ω ε) : Option Fault × Session ω ε :=
  let (fault, out) := Writer.flush s.out
  (fault, s.withOut out)

/-- Flushes the session's own error stream. -/
def flushErr (s : Session ω ε) : Option Fault × Session ω ε :=
  let (fault, err) := Writer.flush s.err
  (fault, s.withErr err)

end Session

namespace Running

/-- Changes the session. -/
def modify (r : Running ω ε) (f : Session ω ε → Session ω ε) : Running ω ε :=
  { r with session := f r.session }

/-- Writes to a stream of the command: to the opened file if the stream goes there, else
to the session's own stream. -/
def write (stream : Stream) (r : Running ω ε) (bytes : Bytes) : Option Fault × Running ω ε :=
  let own :=
    match stream with
    | .stdout => r.session.writeOut bytes
    | .stderr => r.session.writeErr bytes
  match r.opened with
  | none => (own.1, { r with session := own.2 })
  | some o =>
    if o.stream = stream then
      let (fault, handle, files) := r.session.files.write o.handle bytes
      (fault, { session := { r.session with files }, opened := some { o with handle } })
    else (own.1, { r with session := own.2 })

/-- Writes the line of a diagnostic to a stream of the command; if it cannot be written,
that is noted and nothing else happens. -/
def diagnose (r : Running ω ε) (d : Diagnostic) : Running ω ε :=
  let r := r.modify (·.note (.diagnosed d))
  match r.write .stderr d.line with
  | (none, r) => r
  | (some fault, r) => r.modify (·.note (.diagnosticLost d fault))

end Running

namespace Session

/-- Writes the line of a diagnostic to the session's own error stream. -/
def report (s : Session ω ε) (d : Diagnostic) : Session ω ε :=
  (Running.diagnose ⟨s, none⟩ d).session

/-- Opens the file of a redirection, if there is one. -/
def openTarget (s : Session ω ε) (redirect : Option Redirect) :
    Except Diagnostic (Option Opened) × Session ω ε :=
  match redirect with
  | none => (.ok none, s)
  | some r =>
    let path := s.context.resolve (Path.ofString r.path)
    let s := s.note (.openingTarget path r.mode)
    match s.files.openFile r.mode path with
    | .ok (handle, files) => (.ok (some ⟨r.stream, handle⟩), { s with files })
    | .error fault => (.error (.redirect r.path fault), s)

/-- Carries out what a builtin asks for. -/
def conclude (r : Running ω ε) (answer : Except Diagnostic Reply) : Flow × Session ω ε :=
  match answer with
  | .ok (.output text) =>
    match r.write .stdout (Text.utf8 text) with
    | (none, r) => (.proceed, r.session)
    -- the report goes to the session's own error stream, whatever the redirection
    | (some fault, r) => (.proceed, r.session.report (.output fault))
  | .ok .silent => (.proceed, r.session)
  | .ok (.exit status) => (.exit status, r.session.note (.exitRequested status))
  | .error d =>
    ((d.exitStatus?.map Flow.exit).getD .proceed, (r.diagnose d).session)

/-- Runs a builtin. -/
def runBuiltin (s : Session ω ε) (b : Builtin) (c : Command) : Flow × Session ω ε :=
  match s.openTarget c.redirect with
  | (.error d, s) => (.proceed, s.report d)
  | (.ok opened, s) =>
    let (result, r) := b.run (Running.write .stderr) c.arguments s.context s.files ⟨s, opened⟩
    conclude
      (r.modify fun s => { s with context := result.context }.noteAll result.events)
      result.answer

/-- Passes on what a program has written: first its output, then its error output. -/
def relay (r : Running ω ε) (name : String) (done : Completion) : Running ω ε :=
  let r := r.modify (·.note (.ended name done.status))
  let r := if done.status.isSuccess then r else r.modify (·.note (.failed name done.status))
  let r :=
    match r.write .stdout done.out with
    | (none, r) => r
    | (some fault, r) => r.modify (·.report (.output fault))
  match r.write .stderr done.err with
  | (none, r) => r
  | (some fault, r) => r.modify (·.note (.relayFailed name fault))

/-- Runs an external program.  It is looked for before the file of the redirection is
opened. -/
def runExternal (launcher : Launcher) (s : Session ω ε) (c : Command) : Session ω ε :=
  let (found, events) := s.context.search s.files c.verb
  let s := s.noteAll events
  match found with
  | none => s.report (.commandNotFound c.verb)
  | some program =>
    -- only now is the file opened: a verb that is not found leaves it alone
    match s.openTarget c.redirect with
    | (.error d, s) => s.report d
    | (.ok opened, s) =>
      let launch : Launch := ⟨c.verb, program, c.arguments, s.context.cwd⟩
      let s := s.note (.spawning launch)
      match launcher launch s.files with
      | .ok (done, files) => (relay ⟨{ s with files }, opened⟩ c.verb done).session
      | .error fault => (Running.diagnose ⟨s, opened⟩ (.spawn c.verb fault)).session

/-- Carries out a command.  One with an empty verb is skipped. -/
def dispatch (launcher : Launcher) (s : Session ω ε) (c : Command) : Flow × Session ω ε :=
  if c.isBlank then (.proceed, s)
  else
    let s := s.note (.dispatched c)
    match Builtin.ofName? c.verb with
    | some b => s.runBuiltin b c
    | none => (.proceed, runExternal launcher s c)

/-- Carries out the command of a line. -/
def executeLine (launcher : Launcher) (s : Session ω ε) (line : String) : Flow × Session ω ε :=
  let scanned := Scanned.ofLine line
  let s := if scanned.pathMissing then s.note .pathMissing else s
  s.dispatch launcher scanned.command

end Session
end LineShell
