import LineShell.Session

/-! # What a task comes to

A verb stands for a task: a builtin or a program.  What the task comes to is a matter of its
words, the context and the tree: whether the interpreter goes on, where it is, what the tree
is like, and what is said on either stream.  The one thing that comes back from a stream is
whether a warning was refused.
-/
namespace LineShell

/-! ## Builtins -/

namespace Builtin

/-- The warning that a builtin has to give before it is done, if any. -/
def warning? (b : Builtin) (arguments : List String) (ctx : Context) : Option Diagnostic :=
  match b, arguments with
  | cd, [target] =>
    match expandTilde target ctx.home with
    | .ok _ => none
    | .error warning => some warning
  | _, _ => none

/-- What is left of a builtin if its warning is refused with `refused`. -/
def outcome (b : Builtin) (arguments : List String) (ctx : Context) (fs : FileSystem)
    (refused : Option Fault) : Result :=
  (b.run (fun _ _ => (refused, ())) arguments ctx fs ()).1

/-- **A builtin writes nothing but its warning.**  It takes notice of whether that was
refused and of nothing else. -/
theorem run_eq {δ : Type} (write : δ → Bytes → Option Fault × δ) (b : Builtin)
    (arguments : List String) (ctx : Context) (fs : FileSystem) (diag : δ) :
    b.run write arguments ctx fs diag =
      match b.warning? arguments ctx with
      | none => (b.outcome arguments ctx fs none, diag)
      | some warning =>
        (b.outcome arguments ctx fs (write diag warning.line).1, (write diag warning.line).2) := by
  cases b with
  | echo | pwd => rfl
  | exit =>
    rcases arguments with _ | ⟨status, _ | _⟩
    case cons.nil =>
      simp only [run, outcome, warning?]
      split <;> rfl
    all_goals rfl
  | type => rcases arguments with _ | ⟨name, _ | _⟩ <;> rfl
  | cd =>
    rcases arguments with _ | ⟨target, _ | _⟩
    case cons.nil =>
      simp only [run, outcome, warning?, changeDirectory]
      cases expandTilde target ctx.home with
      | ok expanded => rfl
      | error warning =>
        dsimp only
        rcases write diag warning.line with ⟨_ | fault, after⟩ <;> rfl
    all_goals rfl

/-- A builtin that warns prints nothing. -/
theorem answer_ne_output {b : Builtin} {arguments : List String} {ctx : Context}
    {warning : Diagnostic} (h : b.warning? arguments ctx = some warning) (fs : FileSystem)
    (refused : Option Fault) (text : String) :
    (b.outcome arguments ctx fs refused).answer ≠ .ok (.output text) := by
  unfold warning? at h
  split at h
  case h_2 => cases h
  case h_1 target =>
    simp only [outcome, run, changeDirectory]
    cases hexpanded : expandTilde target ctx.home with
    | ok expanded => simp [hexpanded] at h
    | error cause =>
      intro hanswer
      cases refused with
      | some fault => cases hanswer
      | none =>
        simp only [enter] at hanswer
        repeat' split at hanswer
        all_goals cases hanswer

end Builtin

/-! ## Tasks -/

/-- What a verb stands for. -/
inductive Task where
  | builtin (b : Builtin)
  | program (path : Path)
  deriving DecidableEq, Repr

/-- What a verb stands for in a context and a tree, if it stands for anything. -/
def Context.task? (ctx : Context) (fs : FileSystem) (verb : String) : Option Task :=
  match Builtin.ofName? verb with
  | some b => some (.builtin b)
  | none => (ctx.findExecutable fs verb).map .program

namespace Context
variable {ctx : Context} {fs : FileSystem}

theorem task?_of_builtin {verb : String} {b : Builtin} (h : Builtin.ofName? verb = some b) :
    ctx.task? fs verb = some (.builtin b) := by
  simp only [task?, h]

theorem task?_of_not_builtin {verb : String} (h : Builtin.ofName? verb = none) :
    ctx.task? fs verb = (ctx.findExecutable fs verb).map .program := by
  simp only [task?, h]

/-- Only its own name stands for a builtin. -/
theorem verb_of_task_builtin {verb : String} {b : Builtin}
    (h : ctx.task? fs verb = some (.builtin b)) : verb = b.name := by
  cases hname : Builtin.ofName? verb with
  | some b' =>
    rw [task?_of_builtin hname] at h
    cases h
    exact (Builtin.ofName?_eq_some_iff.mp hname).symm
  | none => simp [task?_of_not_builtin hname] at h

/-- No verb is no task. -/
theorem task?_empty (ctx : Context) (fs : FileSystem) : ctx.task? fs "" = none := by
  have hname : Builtin.ofName? "" = none := by decide
  simp [task?, hname, findExecutable, search]

/-- The verb of a blank command stands for nothing. -/
theorem isBlank_of_task {c : Command} {task : Task} (h : ctx.task? fs c.verb = some task) :
    c.isBlank = false := by
  cases hblank : c.isBlank with
  | false => rfl
  | true =>
    have hverb : c.verb = "" := by simpa [Command.isBlank] using hblank
    rw [hverb, task?_empty] at h
    cases h

end Context

/-- What a task comes to before anything is delivered: whether the interpreter goes on, the
context, the tree, and what is said. -/
structure Performance where
  flow : Flow := .proceed
  context : Context
  files : FileSystem
  /-- What is written to standard output, if anything is. -/
  out : Option Bytes := none
  /-- What is written to standard error, in order. -/
  err : List Bytes := []
  deriving DecidableEq, Repr

/-- What a builtin comes to that has written `warned` before it was done. -/
def Builtin.Result.performance (result : Builtin.Result) (files : FileSystem)
    (warned : List Bytes) : Performance :=
  match result.answer with
  | .ok (.output text) =>
    { context := result.context, files, out := some (Text.utf8 text), err := warned }
  | .ok .silent => { context := result.context, files, err := warned }
  | .ok (.exit status) => { flow := .exit status, context := result.context, files, err := warned }
  | .error d =>
    { flow := (d.exitStatus?.map Flow.exit).getD .proceed
      context := result.context
      files
      err := warned ++ [d.line] }

@[simp] theorem Builtin.Result.performance_files (result : Builtin.Result) (files : FileSystem)
    (warned : List Bytes) : (result.performance files warned).files = files := by
  unfold performance
  split <;> rfl

@[simp] theorem Builtin.Result.performance_context (result : Builtin.Result) (files : FileSystem)
    (warned : List Bytes) : (result.performance files warned).context = result.context := by
  unfold performance
  split <;> rfl

/-- What a builtin comes to.  `refusal` tells what its warning would be refused with. -/
def Builtin.perform (b : Builtin) (refusal : Bytes → Option Fault) (arguments : List String)
    (context : Context) (files : FileSystem) : Performance :=
  let warning := b.warning? arguments context
  (b.outcome arguments context files (warning.bind fun w => refusal w.line)).performance files
    (warning.toList.map Diagnostic.line)

/-- What a program comes to, or the attempt to start it. -/
def Launcher.perform (launcher : Launcher) (program : Path) (c : Command) (context : Context)
    (files : FileSystem) : Performance :=
  match launcher ⟨c.verb, program, c.arguments, context.cwd⟩ files with
  | .ok (done, files) => { context, files, out := some done.out, err := [done.err] }
  | .error fault => { context, files, err := [(Diagnostic.spawn c.verb fault).line] }

/-- No program ends the interpreter. -/
theorem Launcher.perform_flow (launcher : Launcher) (program : Path) (c : Command)
    (context : Context) (files : FileSystem) :
    (launcher.perform program c context files).flow = .proceed := by
  unfold perform
  split <;> rfl

/-- No program moves the interpreter. -/
theorem Launcher.perform_context (launcher : Launcher) (program : Path) (c : Command)
    (context : Context) (files : FileSystem) :
    (launcher.perform program c context files).context = context := by
  unfold perform
  split <;> rfl

/-- What a task comes to. -/
def Task.perform (task : Task) (launcher : Launcher) (refusal : Bytes → Option Fault)
    (context : Context) (files : FileSystem) (c : Command) : Performance :=
  match task with
  | .builtin b => b.perform refusal c.arguments context files
  | .program path => launcher.perform path c context files

end LineShell
