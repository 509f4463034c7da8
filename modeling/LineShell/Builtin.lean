import LineShell.Search

/-! # Builtins

Five verbs are carried out by the interpreter itself.  A builtin yields what is to be
printed, or that the interpreter is to end, or a diagnostic; where its output goes is not
its concern.  Only `cd` may have to warn before it is done, and only `cd` changes the
context.
-/
namespace LineShell

/-- Writes a leading `~`, alone or before a slash, as the home directory; any other
path stays as it is. -/
def expandTilde (path : String) (home : Option Path) : Except Diagnostic String :=
  match path.toList with
  | ['~'] =>
    match home with
    | none => .error .homeNotSet
    | some h => .ok h.display
  | '~' :: '/' :: rest =>
    match home with
    | none => .error .homeNotSet
    | some h =>
      let base := (Text.decodeLossy h.bytes).reverse.dropWhile (· = '/') |>.reverse
      .ok (String.ofList (base ++ '/' :: rest))
  | _ => .ok path

/-- The verbs that the interpreter carries out itself. -/
inductive Builtin where
  | exit
  | echo
  | pwd
  | cd
  | type
  deriving DecidableEq, Repr

/-- What a builtin asks for once it has run. -/
inductive Reply where
  /-- Text for standard output. -/
  | output (text : String)
  /-- Nothing to print. -/
  | silent
  /-- The end of the interpreter with this status. -/
  | exit (status : Int)
  deriving DecidableEq, Repr

namespace Builtin

/-- All builtins. -/
def all : List Builtin := [exit, echo, pwd, cd, type]

/-- The verb of a builtin. -/
def name : Builtin → String
  | exit => "exit"
  | echo => "echo"
  | pwd => "pwd"
  | cd => "cd"
  | type => "type"

/-- The builtin that a verb names. -/
def ofName? (verb : String) : Option Builtin := all.find? (·.name == verb)

/-- What `type` says of a name. -/
def describe (ctx : Context) (fs : FileSystem) (name : String) : String × List Event :=
  if (ofName? name).isSome then (name ++ " is a shell builtin", [])
  else
    match ctx.search fs name with
    | (some path, events) => (name ++ " is " ++ path.display, events)
    | (none, events) => (name ++ ": not found", events)

/-- What is left of a builtin that has run: its answer, the context, and what it noted. -/
structure Result where
  answer : Except Diagnostic Reply
  context : Context
  events : List Event := []

/-- `cd` to a target in which a leading `~` is written out: the working directory becomes
the canonical path of the directory, or the path as it is if it has none. -/
def enter (target : String) (ctx : Context) (fs : FileSystem) : Result :=
  let path := ctx.resolve (Path.ofString target)
  match fs.metadata path with
  | .ok m =>
    if m.kind = .directory then
      let directory :=
        match fs.canonical path with
        | .ok p => p
        | .error _ => path
      { answer := .ok .silent
        context := { ctx with cwd := directory }
        events := [.directoryChanged ctx.cwd directory] }
    else { answer := .error (.notADirectory target), context := ctx }
  | .error _ => { answer := .error (.noSuchDirectory target), context := ctx }

/-- Runs `cd`.  If the home directory is needed and not known, a warning goes to `warn`
and the target is used as typed; a warning that cannot be written stops the command. -/
def changeDirectory {δ : Type} (write : δ → Bytes → Option Fault × δ) (target : String)
    (ctx : Context) (fs : FileSystem) (diag : δ) : Result × δ :=
  match expandTilde target ctx.home with
  | .ok expanded => (enter expanded ctx fs, diag)
  | .error warning =>
    match write diag warning.line with
    | (none, diag) => (enter target ctx fs, diag)
    | (some fault, diag) => ({ answer := .error (.output fault), context := ctx }, diag)

/-- Runs a builtin.  `write` takes warnings that do not stop the command. -/
def run {δ : Type} (write : δ → Bytes → Option Fault × δ) (b : Builtin) (arguments : List String)
    (ctx : Context) (fs : FileSystem) (diag : δ) : Result × δ :=
  match b, arguments with
  | echo, words => ({ answer := .ok (.output (" ".intercalate words ++ "\n")), context := ctx }, diag)
  | pwd, _ => ({ answer := .ok (.output (ctx.cwd.display ++ "\n")), context := ctx }, diag)
  | exit, [status] =>
    match Text.readInt32 status.toList with
    | .ok n => ({ answer := .ok (.exit n), context := ctx }, diag)
    | .error fault => ({ answer := .error (.invalidExitCode status fault), context := ctx }, diag)
  | cd, [target] => changeDirectory write target ctx fs diag
  | type, [name] =>
    let (text, events) := describe ctx fs name
    ({ answer := .ok (.output (text ++ "\n")), context := ctx, events }, diag)
  | _, _ => ({ answer := .error (.wrongArgumentCount b.name), context := ctx }, diag)

theorem ofName?_name (b : Builtin) : ofName? b.name = some b := by
  cases b <;> decide

/-- A verb names a builtin exactly if it is the builtin's name. -/
theorem ofName?_eq_some_iff {verb : String} {b : Builtin} :
    ofName? verb = some b ↔ b.name = verb := by
  constructor
  · intro h
    simpa using List.find?_some h
  · rintro rfl
    exact ofName?_name b

end Builtin
end LineShell
