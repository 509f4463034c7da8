import LineShell.Proofs.Dispatch
import LineShell.Command.Line

/-! # What any command comes to

`Session.dispatch_of_task` speaks of a command that is carried out.  Before that a command
can be turned down: its verb may stand for nothing, or the file of its redirection may not
open.  `Context.prepare` decides this, in that order, and `Session.respond` says what any
command comes to.  Up to the journal that is what dispatching does.
-/
namespace LineShell

/-- What a command is carried out with. -/
structure Prepared where
  task : Task
  /-- The file of its redirection. -/
  opened : Option Opened
  /-- The tree once that file is open. -/
  files : FileSystem
  deriving DecidableEq, Repr

/-- Makes ready what a command needs, or says why it is turned down.  A verb that stands for
nothing is found out before any file is opened. -/
def Context.prepare (ctx : Context) (fs : FileSystem) (c : Command) : Except Diagnostic Prepared :=
  match ctx.task? fs c.verb with
  | none => .error (.commandNotFound c.verb)
  | some task =>
    match ctx.openTarget fs c.redirect with
    | .ok (opened, files) => .ok ⟨task, opened, files⟩
    | .error fault => .error (.redirect (c.targetPath.getD "") fault)

namespace Context
variable {ctx : Context} {fs : FileSystem} {c : Command}

/-- Only the file of a redirection can fail to open. -/
theorem exists_of_openTarget_error {redirect : Option Redirect} {fault : Fault}
    (h : ctx.openTarget fs redirect = .error fault) :
    ∃ r, redirect = some r ∧
      fs.openFile r.mode (ctx.resolve (Path.ofString r.path)) = .error fault := by
  cases redirect with
  | none => cases h
  | some r =>
    refine ⟨r, rfl, ?_⟩
    simp only [openTarget] at h
    split at h
    · cases h
    · next heq => exact heq.trans (by rw [Except.error.inj h])

/-- The file that a redirection has opened. -/
theorem exists_of_openTarget_ok {r : Redirect} {opened : Option Opened} {files : FileSystem}
    (h : ctx.openTarget fs (some r) = .ok (opened, files)) :
    ∃ handle, opened = some ⟨r.stream, handle⟩ ∧
      fs.openFile r.mode (ctx.resolve (Path.ofString r.path)) = .ok (handle, files) := by
  simp only [openTarget] at h
  split at h
  · next handle files' heq =>
    cases h
    exact ⟨handle, rfl, heq⟩
  · cases h

theorem prepare_eq_ok_iff {p : Prepared} :
    ctx.prepare fs c = .ok p ↔
      ctx.task? fs c.verb = some p.task ∧
        ctx.openTarget fs c.redirect = .ok (p.opened, p.files) := by
  obtain ⟨task, opened, files⟩ := p
  unfold prepare
  cases ctx.task? fs c.verb with
  | none => simp
  | some task' =>
    rcases ctx.openTarget fs c.redirect with fault | ⟨opened', files'⟩ <;> simp

theorem prepare_of_no_task (h : ctx.task? fs c.verb = none) :
    ctx.prepare fs c = .error (.commandNotFound c.verb) := by
  simp only [prepare, h]

theorem prepare_of_unopened {task : Task} {r : Redirect} {fault : Fault}
    (htask : ctx.task? fs c.verb = some task) (hredirect : c.redirect = some r)
    (hopen : fs.openFile r.mode (ctx.resolve (Path.ofString r.path)) = .error fault) :
    ctx.prepare fs c = .error (.redirect r.path fault) := by
  simp only [prepare, htask, openTarget, hredirect, hopen, Command.targetPath, Option.map_some,
    Option.getD_some]

/-- There are two reasons to turn a command down. -/
theorem prepare_eq_error_iff {d : Diagnostic} :
    ctx.prepare fs c = .error d ↔
      (ctx.task? fs c.verb = none ∧ d = .commandNotFound c.verb) ∨
      ∃ task r fault, ctx.task? fs c.verb = some task ∧ c.redirect = some r ∧
        fs.openFile r.mode (ctx.resolve (Path.ofString r.path)) = .error fault ∧
        d = .redirect r.path fault := by
  constructor
  · intro h
    cases htask : ctx.task? fs c.verb with
    | none =>
      rw [prepare_of_no_task htask] at h
      exact .inl ⟨rfl, (Except.error.inj h).symm⟩
    | some task =>
      rcases hopen : ctx.openTarget fs c.redirect with fault | ⟨opened, files⟩
      · obtain ⟨r, hredirect, hfile⟩ := exists_of_openTarget_error hopen
        rw [prepare_of_unopened htask hredirect hfile] at h
        exact .inr ⟨task, r, fault, rfl, hredirect, hfile, (Except.error.inj h).symm⟩
      · rw [prepare_eq_ok_iff (p := ⟨task, opened, files⟩).mpr ⟨htask, hopen⟩] at h
        cases h
  · rintro (⟨htask, rfl⟩ | ⟨task, r, fault, htask, hredirect, hfile, rfl⟩)
    · exact prepare_of_no_task htask
    · exact prepare_of_unopened htask hredirect hfile

end Context

variable {ω ε : Type} [Writer ω] [Writer ε]

/-- What the standard error of a command that has been prepared would refuse bytes with. -/
def Session.refusal (s : Session ω ε) (p : Prepared) (bytes : Bytes) : Option Fault :=
  (Running.write .stderr ⟨{ s with files := p.files }, p.opened⟩ bytes).1

/-- What a command that has been prepared comes to. -/
def Session.performance (s : Session ω ε) (launcher : Launcher) (c : Command) (p : Prepared) :
    Performance :=
  p.task.perform launcher (s.refusal p) s.context p.files c

/-- What a session comes to that has been told what a command comes to. -/
def Session.deliver (s : Session ω ε) (opened : Option Opened) (p : Performance) : Session ω ε :=
  (Running.deliver ⟨{ s with context := p.context, files := p.files }, opened⟩ p).session

/-- Whatever is delivered, the session is where the task has left it. -/
theorem Session.deliver_context (s : Session ω ε) (opened : Option Opened) (p : Performance) :
    (s.deliver opened p).context = p.context :=
  Running.deliver_context _ p

/-- What any command comes to, and whether the interpreter goes on. -/
def Session.respond (s : Session ω ε) (launcher : Launcher) (c : Command) : Flow × Session ω ε :=
  if c.isBlank then (.proceed, s)
  else
    match s.context.prepare s.files c with
    | .error d => (.proceed, (s.writeErr d.line).2)
    | .ok p =>
      let performance := s.performance launcher c p
      (performance.flow, s.deliver p.opened performance)

namespace Session

/-! ## Commands that are turned down -/

omit [Writer ω] in
/-- A redirection that cannot be opened. -/
theorem openTarget_of_error {s t : Session ω ε} (hst : s.Agree t) {r : Redirect} {fault : Fault}
    (h : t.files.openFile r.mode (t.context.resolve (Path.ofString r.path)) = .error fault) :
    ∃ u, s.openTarget (some r) = (.error (.redirect r.path fault), u) ∧ u.Agree t := by
  rw [← hst.context, ← hst.files] at h
  refine ⟨s.note (.openingTarget (s.context.resolve (Path.ofString r.path)) r.mode), ?_,
    (s.note_agree _).trans hst⟩
  simp only [openTarget, note, h]

/-- A verb that stands for nothing is reported, and nothing else happens. -/
theorem runExternal_of_not_found {s t : Session ω ε} (hst : s.Agree t) (launcher : Launcher)
    {c : Command} (h : t.context.findExecutable t.files c.verb = none) :
    (runExternal launcher s c).Agree (t.writeErr (Diagnostic.commandNotFound c.verb).line).2 := by
  obtain ⟨events, hsearch⟩ := Context.exists_search_eq h
  simp only [runExternal, hst.context, hst.files, hsearch]
  exact ((s.noteAll_agree events).trans hst).report _

/-- A file that cannot be opened is reported, and nothing else happens, whatever the verb
stands for. -/
theorem dispatch_of_unopened (s : Session ω ε) (launcher : Launcher) {c : Command} {task : Task}
    {r : Redirect} {fault : Fault} (htask : s.context.task? s.files c.verb = some task)
    (hredirect : c.redirect = some r)
    (hopen : s.files.openFile r.mode (s.context.resolve (Path.ofString r.path)) = .error fault) :
    (s.dispatch launcher c).1 = .proceed ∧
      (s.dispatch launcher c).2.Agree (s.writeErr (Diagnostic.redirect r.path fault).line).2 := by
  have hblank := Context.isBlank_of_task htask
  have hnoted := s.note_agree (.dispatched c)
  cases hname : Builtin.ofName? c.verb with
  | some b =>
    obtain ⟨u, hu, hagree⟩ := openTarget_of_error hnoted hopen
    simp only [dispatch, hblank, hname, runBuiltin, hredirect, hu]
    exact ⟨rfl, hagree.report _⟩
  | none =>
    rw [Context.task?_of_not_builtin hname] at htask
    obtain ⟨program, hfound, -⟩ := Option.map_eq_some_iff.mp htask
    obtain ⟨events, hsearch⟩ := Context.exists_search_eq hfound
    obtain ⟨u, hu, hagree⟩ :=
      openTarget_of_error (((s.note (.dispatched c)).noteAll_agree events).trans hnoted) hopen
    simp only [dispatch, hblank, hname, runExternal, hnoted.context, hnoted.files, hsearch,
      hredirect, hu]
    exact ⟨rfl, hagree.report _⟩

/-- A verb that stands for nothing is reported, and nothing else happens, whatever the
redirection is. -/
theorem dispatch_of_not_found (s : Session ω ε) (launcher : Launcher) {c : Command}
    (hblank : c.isBlank = false) (h : s.context.task? s.files c.verb = none) :
    (s.dispatch launcher c).1 = .proceed ∧
      (s.dispatch launcher c).2.Agree (s.writeErr (Diagnostic.commandNotFound c.verb).line).2 := by
  cases hname : Builtin.ofName? c.verb with
  | some b =>
    rw [Context.task?_of_builtin hname] at h
    cases h
  | none =>
    rw [Context.task?_of_not_builtin hname] at h
    have hfound := Option.map_eq_none_iff.mp h
    simp only [dispatch, hblank, hname]
    exact ⟨rfl, runExternal_of_not_found (s.note_agree _) launcher hfound⟩

/-! ## All commands -/

/-- **What dispatching comes to**, for any command. -/
theorem dispatch_respond (s : Session ω ε) (launcher : Launcher) (c : Command) :
    (s.dispatch launcher c).1 = (s.respond launcher c).1 ∧
      (s.dispatch launcher c).2.Agree (s.respond launcher c).2 := by
  by_cases hblank : c.isBlank = true
  · simp only [dispatch, respond, hblank, if_true]
    exact ⟨trivial, .refl s⟩
  rw [Bool.not_eq_true] at hblank
  simp only [respond, hblank]
  cases htask : s.context.task? s.files c.verb with
  | none =>
    rw [Context.prepare_of_no_task htask]
    exact s.dispatch_of_not_found launcher hblank htask
  | some task =>
    rcases hopen : s.context.openTarget s.files c.redirect with fault | ⟨opened, files⟩
    · obtain ⟨r, hredirect, hfile⟩ := Context.exists_of_openTarget_error hopen
      rw [Context.prepare_of_unopened htask hredirect hfile]
      exact s.dispatch_of_unopened launcher htask hredirect hfile
    · have hprepared : s.context.prepare s.files c = .ok ⟨task, opened, files⟩ :=
        Context.prepare_eq_ok_iff.mpr ⟨htask, hopen⟩
      rw [hprepared]
      exact dispatch_of_task launcher htask hopen

end Session
end LineShell
