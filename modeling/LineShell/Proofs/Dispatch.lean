import LineShell.Proofs.Agreement
import LineShell.Proofs.Task

/-! # What dispatching comes to

A command is carried out once its verb stands for a task and the file of its redirection is
open.  What the task comes to does not depend on the redirection, and where that is
delivered depends on nothing else: `Session.dispatch_of_task` splits `Session.dispatch`
along this line.
-/
namespace LineShell
variable {ω ε : Type} [Writer ω] [Writer ε]

/-! ## Delivery -/

namespace Running

/-- Writes to standard output; if that is refused, says so on the session's own error
stream. -/
def say (r : Running ω ε) (bytes : Bytes) : Running ω ε :=
  match r.write .stdout bytes with
  | (none, r) => r
  | (some fault, r) => r.modify fun s => (s.writeErr (Diagnostic.output fault).line).2

/-- Writes to standard error, whatever comes of it. -/
def complain (r : Running ω ε) (bytes : Bytes) : Running ω ε := (r.write .stderr bytes).2

/-- Delivers what a task says, first its output. -/
def deliver (r : Running ω ε) (p : Performance) : Running ω ε :=
  p.err.foldl complain (p.out.elim r r.say)

/-- The same with another context. -/
def moved (r : Running ω ε) (context : Context) : Running ω ε :=
  r.modify fun s => { s with context }

omit [Writer ω] [Writer ε] in
theorem Agree.moved {r t : Running ω ε} (h : r.Agree t) (context : Context) :
    (r.moved context).Agree (t.moved context) :=
  ⟨⟨rfl, h.session.files, h.session.out, h.session.err⟩, h.opened⟩

/-- A write does not depend on the context. -/
theorem write_moved (stream : Stream) (r : Running ω ε) (context : Context) (bytes : Bytes) :
    (r.moved context).write stream bytes =
      ((r.write stream bytes).1, (r.write stream bytes).2.moved context) := by
  obtain ⟨s, opened⟩ := r
  by_cases hfile : ∃ handle, opened = some ⟨stream, handle⟩
  · obtain ⟨handle, rfl⟩ := hfile
    rw [moved, modify, write_to_file, write_to_file]
    rfl
  · have hown : ∀ handle, opened ≠ some ⟨stream, handle⟩ := not_exists.mp hfile
    rw [moved, modify, write_own _ _ _ hown, write_own _ _ _ hown]
    cases stream with
    | stdout => rfl
    | stderr => rfl

/-- A write moves nobody. -/
theorem write_context (stream : Stream) (r : Running ω ε) (bytes : Bytes) :
    (r.write stream bytes).2.session.context = r.session.context :=
  congrArg (fun written => written.2.session.context)
    (write_moved stream r r.session.context bytes)

theorem say_context (r : Running ω ε) (bytes : Bytes) :
    (r.say bytes).session.context = r.session.context := by
  have hwritten := write_context .stdout r bytes
  simp only [say]
  rcases hr : r.write .stdout bytes with ⟨_ | fault, r'⟩
  all_goals
    rw [hr] at hwritten
    exact hwritten

/-- Nor does a delivery. -/
theorem deliver_context (r : Running ω ε) (p : Performance) :
    (r.deliver p).session.context = r.session.context := by
  have hsaid : (p.out.elim r r.say).session.context = r.session.context := by
    cases p.out with
    | none => rfl
    | some bytes => exact r.say_context bytes
  refine Eq.trans ?_ hsaid
  rw [deliver]
  generalize p.out.elim r r.say = t
  induction p.err generalizing t with
  | nil => rfl
  | cons bytes rest ih => exact (ih _).trans (write_context .stderr t bytes)

/-- To say something, and to report it if that is refused. -/
theorem Agree.say {r t : Running ω ε} (h : r.Agree t) (bytes : Bytes) :
    Running.Agree
      (match r.write .stdout bytes with
        | (none, r) => r
        | (some fault, r) => r.modify (·.report (.output fault)))
      (t.say bytes) := by
  obtain ⟨hfault, hafter⟩ := h.write .stdout bytes
  simp only [Running.say]
  rcases hr : r.write .stdout bytes with ⟨fault, r'⟩
  rcases ht : t.write .stdout bytes with ⟨fault', t'⟩
  rw [hr, ht] at hfault hafter
  obtain rfl : fault = fault' := hfault
  cases fault with
  | none => exact hafter
  | some fault => exact ⟨hafter.session.report _, hafter.opened⟩

end Running

/-! ## The parts of a dispatch -/

/-- Opens the file of a redirection, if there is one: what goes to it, and the tree that
then has it. -/
def Context.openTarget (ctx : Context) (fs : FileSystem) :
    Option Redirect → Except Fault (Option Opened × FileSystem)
  | none => .ok (none, fs)
  | some r =>
    match fs.openFile r.mode (ctx.resolve (Path.ofString r.path)) with
    | .ok (handle, files) => .ok (some ⟨r.stream, handle⟩, files)
    | .error fault => .error fault

namespace Session

omit [Writer ω] in
/-- A redirection that can be opened is opened. -/
theorem openTarget_of_ok {s t : Session ω ε} (hst : s.Agree t) {redirect : Option Redirect}
    {opened : Option Opened} {files : FileSystem}
    (h : t.context.openTarget t.files redirect = .ok (opened, files)) :
    ∃ u, s.openTarget redirect = (.ok opened, u) ∧ u.Agree { t with files } := by
  cases redirect with
  | none =>
    obtain ⟨rfl, rfl⟩ : none = opened ∧ t.files = files := by simpa [Context.openTarget] using h
    exact ⟨s, rfl, hst⟩
  | some r =>
    simp only [Context.openTarget, ← hst.context, ← hst.files] at h
    split at h
    · next handle files' heq =>
      obtain ⟨rfl, rfl⟩ : some ⟨r.stream, handle⟩ = opened ∧ files' = files := by simpa using h
      refine ⟨{ s.note (.openingTarget (s.context.resolve (Path.ofString r.path)) r.mode) with
        files := files' }, ?_, ⟨hst.context, rfl, hst.out, hst.err⟩⟩
      simp only [openTarget, note, heq]
    · cases h

/-- What a builtin asks for is delivered. -/
theorem conclude_agree {r t : Running ω ε} (h : r.Agree t) (result : Builtin.Result)
    (files : FileSystem) :
    (conclude r result.answer).1 = (result.performance files []).flow ∧
      (conclude r result.answer).2.Agree (t.deliver (result.performance files [])).session := by
  obtain ⟨answer, context, events⟩ := result
  match answer with
  | .ok (.output text) =>
    have hsay := (h.say (Text.utf8 text)).session
    rcases hwrite : r.write .stdout (Text.utf8 text) with ⟨_ | fault, r'⟩
    all_goals
      rw [hwrite] at hsay
      simp only [conclude, hwrite]
      exact ⟨rfl, hsay⟩
  | .ok .silent => exact ⟨rfl, h.session⟩
  | .ok (.exit status) => exact ⟨rfl, (note_agree _ _).trans h.session⟩
  | .error d => exact ⟨rfl, (h.diagnose d).session⟩

/-- A warning comes before what else a builtin says, for it then prints nothing. -/
theorem deliver_warned (t : Running ω ε) (result : Builtin.Result) (files : FileSystem)
    (warned : Bytes) (h : ∀ text, result.answer ≠ .ok (.output text)) :
    t.deliver (result.performance files [warned]) =
      (t.complain warned).deliver (result.performance files []) := by
  obtain ⟨answer, context, events⟩ := result
  match answer with
  | .ok (.output text) => exact absurd rfl (h text)
  | .ok .silent | .ok (.exit status) | .error d => rfl

/-- A warning does not change what a builtin goes on to. -/
theorem flow_warned (result : Builtin.Result) (files : FileSystem) (warned : List Bytes) :
    (result.performance files warned).flow = (result.performance files []).flow := by
  obtain ⟨answer, context, events⟩ := result
  match answer with
  | .ok (.output text) | .ok .silent | .ok (.exit status) | .error d => rfl

/-- What is left after a builtin has run is delivered where it has moved to. -/
theorem conclude_moved {r t : Running ω ε} (h : r.Agree t) (result : Builtin.Result)
    (files : FileSystem) :
    let after := conclude
      (r.modify fun s => { s with context := result.context }.noteAll result.events) result.answer
    after.1 = (result.performance files []).flow ∧
      after.2.Agree ((t.moved result.context).deliver (result.performance files [])).session := by
  have hmoved : Running.Agree
      (r.modify fun s => { s with context := result.context }.noteAll result.events)
      (t.moved result.context) :=
    ⟨(noteAll_agree _ _).trans (h.moved result.context).session, h.opened⟩
  exact conclude_agree hmoved result files

/-- A builtin whose redirection is open. -/
theorem runBuiltin_of_ok {s t : Session ω ε} (hst : s.Agree t) (b : Builtin) {c : Command}
    {opened : Option Opened} {files : FileSystem}
    (h : t.context.openTarget t.files c.redirect = .ok (opened, files)) :
    let r : Running ω ε := ⟨{ t with files }, opened⟩
    let p := b.perform (fun bytes => (r.write .stderr bytes).1) c.arguments t.context files
    (s.runBuiltin b c).1 = p.flow ∧
      (s.runBuiltin b c).2.Agree ((r.moved p.context).deliver p).session := by
  intro r p
  obtain ⟨u, hu, hagree⟩ := openTarget_of_ok hst h
  have hcontext : u.context = t.context := hagree.context
  have hfiles : u.files = files := hagree.files
  have hr : Running.Agree ⟨u, opened⟩ r := ⟨hagree, rfl⟩
  cases hwarning : b.warning? c.arguments t.context with
  | none =>
    have hp : p = (b.outcome c.arguments t.context files none).performance files [] := by
      simp [p, Builtin.perform, hwarning]
    rw [hp, Builtin.Result.performance_context]
    simp only [runBuiltin, hu, Builtin.run_eq, hcontext, hfiles, hwarning]
    exact conclude_moved hr _ files
  | some warning =>
    obtain ⟨hrefused, hwritten⟩ := hr.write .stderr warning.line
    have hp : p = (b.outcome c.arguments t.context files
        (r.write .stderr warning.line).1).performance files [warning.line] := by
      simp [p, Builtin.perform, hwarning]
    rw [hp, Builtin.Result.performance_context, flow_warned,
      deliver_warned _ _ _ _ (Builtin.answer_ne_output hwarning _ _), Running.complain,
      Running.write_moved]
    simp only [runBuiltin, hu, Builtin.run_eq, hcontext, hfiles, hwarning, hrefused]
    exact conclude_moved hwritten _ files

/-- What a program has written is delivered, its output first. -/
theorem relay_agree {r t : Running ω ε} (h : r.Agree t) (name : String) (done : Completion) :
    (relay r name done).Agree ((t.say done.out).complain done.err) := by
  have hended : (r.modify (·.note (.ended name done.status))).Agree t :=
    ⟨(note_agree _ _).trans h.session, h.opened⟩
  have hnoted : Running.Agree
      (if done.status.isSuccess then r.modify (·.note (.ended name done.status))
        else (r.modify (·.note (.ended name done.status))).modify
          (·.note (.failed name done.status))) t := by
    split
    · exact hended
    · exact ⟨(note_agree _ _).trans hended.session, hended.opened⟩
  simp only [relay]
  exact (hnoted.say done.out).write_noted done.err (.relayFailed name)

/-- A program that was found and whose redirection is open. -/
theorem runExternal_of_ok {s t : Session ω ε} (hst : s.Agree t) (launcher : Launcher)
    {c : Command} {program : Path} {opened : Option Opened} {files : FileSystem}
    (hfound : t.context.findExecutable t.files c.verb = some program)
    (h : t.context.openTarget t.files c.redirect = .ok (opened, files)) :
    let p := launcher.perform program c t.context files
    (runExternal launcher s c).Agree
      (Running.deliver ⟨{ t with files := p.files }, opened⟩ p).session := by
  intro p
  obtain ⟨events, hsearch⟩ := Context.exists_search_eq hfound
  obtain ⟨u, hu, hagree⟩ := openTarget_of_ok ((s.noteAll_agree events).trans hst) h
  have hcontext : u.context = t.context := hagree.context
  simp only [runExternal, hst.context, hst.files, hsearch, hu, hcontext]
  replace hagree := (u.note_agree (.spawning ⟨c.verb, program, c.arguments, t.context.cwd⟩)).trans
    hagree
  generalize u.note _ = spawning at hagree ⊢
  have hfiles : spawning.files = files := hagree.files
  simp only [hfiles, p, Launcher.perform]
  cases launcher ⟨c.verb, program, c.arguments, t.context.cwd⟩ files with
  | ok result =>
    obtain ⟨done, after⟩ := result
    have hended : Running.Agree ⟨{ spawning with files := after }, opened⟩
        ⟨{ t with files := after }, opened⟩ := ⟨hagree.setFiles after, rfl⟩
    exact (relay_agree hended c.verb done).session
  | error fault =>
    have hrefused : Running.Agree ⟨spawning, opened⟩ ⟨{ t with files }, opened⟩ := ⟨hagree, rfl⟩
    exact (hrefused.diagnose _).session

/-- **What dispatching comes to.**  A command whose verb stands for a task and whose
redirection can be opened does what the task comes to, and what the task says is delivered;
a warning counts as refused if the stream that it would go to refuses it. -/
theorem dispatch_of_task {s : Session ω ε} (launcher : Launcher) {c : Command} {task : Task}
    {opened : Option Opened} {files : FileSystem}
    (htask : s.context.task? s.files c.verb = some task)
    (hopen : s.context.openTarget s.files c.redirect = .ok (opened, files)) :
    let r : Running ω ε := ⟨{ s with files }, opened⟩
    let p := task.perform launcher (fun bytes => (r.write .stderr bytes).1) s.context files c
    (s.dispatch launcher c).1 = p.flow ∧
      (s.dispatch launcher c).2.Agree
        (Running.deliver ⟨{ s with context := p.context, files := p.files }, opened⟩ p).session := by
  intro r p
  have hblank := Context.isBlank_of_task htask
  have hnoted := s.note_agree (.dispatched c)
  cases hname : Builtin.ofName? c.verb with
  | some b =>
    obtain rfl := Option.some.inj ((Context.task?_of_builtin hname).symm.trans htask)
    have hfiles : p.files = files := Builtin.Result.performance_files _ _ _
    rw [hfiles]
    simp only [dispatch, hblank, hname]
    exact runBuiltin_of_ok hnoted b hopen
  | none =>
    rw [Context.task?_of_not_builtin hname] at htask
    obtain ⟨program, hfound, rfl⟩ := Option.map_eq_some_iff.mp htask
    have hflow : p.flow = .proceed := launcher.perform_flow program c s.context files
    have hcontext : p.context = s.context := launcher.perform_context program c s.context files
    simp only [dispatch, hblank, hname]
    rw [hflow, hcontext]
    exact ⟨rfl, runExternal_of_ok hnoted launcher hfound hopen⟩

end Session

end LineShell
