import LineShell.Context

/-! # Settings

Two environment variables set the prompt and the level from which log records are
shown.  A variable that is unset, or whose value is no text, leaves the default.
-/
namespace LineShell

/-- The levels of log records, the gravest first. -/
inductive Level where
  | error
  | warn
  | info
  | debug
  | trace
  deriving DecidableEq, Repr

namespace Level

/-- All levels. -/
def all : List Level := [error, warn, info, debug, trace]

/-- The name of a level. -/
def name : Level → String
  | error => "ERROR"
  | warn => "WARN"
  | info => "INFO"
  | debug => "DEBUG"
  | trace => "TRACE"

/-- How detailed a level is. -/
def detail : Level → Nat
  | error => 1
  | warn => 2
  | info => 3
  | debug => 4
  | trace => 5

/-- The level with a given name, in any mixture of ASCII cases; any other text names
none, and then no record is shown. -/
def ofName? (s : String) : Option Level :=
  all.find? fun l => l.name.toList == s.toList.map Char.toUpper

/-- The name of a threshold. -/
def thresholdName : Option Level → String
  | none => "OFF"
  | some l => l.name

/-- A record of level `l` is shown at a threshold that is at least as detailed. -/
def shownAt (threshold : Option Level) (l : Level) : Bool :=
  match threshold with
  | none => false
  | some t => l.detail ≤ t.detail

end Level

/-- The settings of an interpreter. -/
structure Settings where
  /-- Written before every line that is read. -/
  prompt : String := "$ "
  /-- The name of the log level. -/
  logLevel : String := "off"
  deriving DecidableEq, Repr

namespace Settings

def promptVariable : String := "TINYSH_PROMPT"

def logVariable : String := "TINYSH_LOG"

/-- The settings that the values of the two variables give. -/
def ofLookup (lookup : String → Option String) : Settings :=
  let defaults : Settings := {}
  { prompt := (lookup promptVariable).getD defaults.prompt
    logLevel := (lookup logVariable).getD defaults.logLevel }

/-- The settings that an environment gives. -/
def ofEnvironment (env : Environment) : Settings :=
  ofLookup fun name => (env.lookup name).bind fun v => (Text.decode? v).map String.ofList

/-- The threshold of log records. -/
def threshold (s : Settings) : Option Level := Level.ofName? s.logLevel

end Settings
end LineShell
