import LineShell.Launch
import LineShell.Settings

/-! # The journal

While it works the interpreter notes what it does.  The notes are kept as events; only
the program decides which are shown, and then words them as log records on standard
error.  Each note remembers how many bytes had been written to standard error before it,
so that the two can be shown as one stream.
-/
namespace LineShell

/-- What the interpreter notes. -/
inductive Event where
  | thresholdSet (threshold : Option Level)
  | contextRead (ctx : Context)
  | startingIn (directory : Path)
  | pathMissing
  | dispatched (c : Command)
  | directoryChanged (old new : Path)
  | openingTarget (path : Path) (mode : WriteMode)
  | resolved (name : String) (path : Path)
  | directorySkipped (directory : Path) (name : String) (fault : Fault)
  | spawning (launch : Launch)
  | ended (name : String) (status : ExitStatus)
  | failed (name : String) (status : ExitStatus)
  | relayFailed (name : String) (fault : Fault)
  | diagnosed (d : Diagnostic)
  | diagnosticLost (d : Diagnostic) (fault : Fault)
  | exitRequested (status : Int)
  | inputEnded
  deriving DecidableEq, Repr

/-- A list of words as a log record spells it. -/
def quotedWords (ws : List String) : String := Text.quotedList (ws.map Text.quoted)

namespace WriteMode

def debugText : WriteMode → String
  | overwrite => "Overwrite"
  | append => "Append"

end WriteMode

namespace Redirect

/-- A redirection as a log record spells it. -/
def debugText (r : Redirect) : String :=
  let file := "RedirectFile \x7b path: " ++ Text.quoted r.path ++ ", mode: " ++
    r.mode.debugText ++ " \x7d"
  match r.stream with
  | .stdout => "Stdout(" ++ file ++ ")"
  | .stderr => "Stderr(" ++ file ++ ")"

end Redirect

namespace Event

/-- How grave an event is. -/
def level : Event → Level
  | startingIn _ | directorySkipped .. | relayFailed .. | diagnosticLost .. => .warn
  | openingTarget .. | resolved .. => .trace
  | _ => .debug

/-- The wording of an event. -/
def text : Event → String
  | thresholdSet t => "log level set to " ++ Level.thresholdName t
  | contextRead ctx =>
    let home :=
      match ctx.home with
      | none => "None"
      | some p => "Some(" ++ p.quoted ++ ")"
    "context: cwd=" ++ ctx.cwd.display ++ " home=" ++ home ++ " search_path=" ++
      Text.quotedList (ctx.searchPath.map Path.quoted)
  | startingIn directory => "starting in " ++ directory.display
  | pathMissing => "redirection without a target path ignored"
  | dispatched c =>
    "dispatch: verb=" ++ Text.quoted c.verb ++ " args=" ++ quotedWords c.arguments ++
      " redirect=" ++ (c.redirect.map Redirect.debugText).getD "None"
  | directoryChanged old new => "cwd: " ++ old.display ++ " -> " ++ new.display
  | openingTarget path mode =>
    "opening redirect target " ++ path.display ++ " (" ++ mode.debugText ++ ")"
  | resolved name path => "resolved " ++ name ++ " to " ++ path.display
  | directorySkipped directory name fault =>
    "skipping " ++ directory.display ++ " while resolving " ++ name ++ ": " ++ fault.message
  | spawning launch =>
    "spawning " ++ launch.program.display ++ " " ++ quotedWords launch.arguments
  | ended name status => name ++ " exited with " ++ status.describe
  | failed name status => name ++ " failed: " ++ status.describe
  | relayFailed name fault => "could not relay stderr of " ++ name ++ ": " ++ fault.message
  | diagnosed d => "diagnostic: " ++ d.debugText
  | diagnosticLost d fault =>
    "could not write diagnostic " ++ Text.quoted d.message ++ ": " ++ fault.message
  | exitRequested status => "exit requested with status " ++ toString status
  | inputEnded => "end of input"

end Event

/-- An event, and the number of bytes that standard error had taken before it. -/
structure Note where
  after : Nat
  event : Event
  deriving DecidableEq, Repr

/-- Who writes a log record, and when. -/
structure Stamp where
  processId : Nat
  time : String
  deriving DecidableEq, Repr

namespace Note

/-- The line of a note in the log. -/
def line (stamp : Stamp) (n : Note) : Bytes :=
  Text.utf8 ("[PID:" ++ toString stamp.processId ++ "][" ++ n.event.level.name ++ "] " ++
    stamp.time ++ " - " ++ n.event.text ++ "\n")

/-- Shows notes, oldest first, and the bytes of standard error as one stream; `done`
bytes have been shown already. -/
def weave (stamp : Stamp) (threshold : Option Level) : Nat → List Note → Bytes → Bytes
  | _, [], err => err
  | done, n :: ns, err =>
    let rest := weave stamp threshold n.after ns (err.drop (n.after - done))
    err.take (n.after - done) ++
      (if n.event.level.shownAt threshold then n.line stamp ++ rest else rest)

end Note
end LineShell
