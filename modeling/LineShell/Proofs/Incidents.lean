import LineShell.Proofs.Response

/-! # Incidents

Most of what a session notes says how it came to do something.  Two kinds of note say what it
did: the start of a program, and a diagnostic.  These are its incidents, and what a command
comes to tells which of them it adds: `Session.incidents_dispatch`.  A command that is turned
down adds its diagnostic and nothing else.
-/
namespace LineShell

/-- The start of a program or a diagnostic. -/
def Event.isIncident : Event → Bool
  | .spawning _ | .diagnosed _ => true
  | _ => false

/-- The start of a program that a task asks for. -/
def Task.launch? (task : Task) (ctx : Context) (c : Command) : Option Launch :=
  match task with
  | .builtin _ => none
  | .program path => some ⟨c.verb, path, c.arguments, ctx.cwd⟩

/-- The diagnostic that a builtin ends with, if it does. -/
def Builtin.Result.failure? (result : Builtin.Result) : Option Diagnostic :=
  match result.answer with
  | .ok _ => none
  | .error d => some d

/-- The diagnostic that a task ends with, if it does.  `refusal` tells what a warning would be
refused with. -/
def Task.failure? (task : Task) (launcher : Launcher) (refusal : Bytes → Option Fault)
    (ctx : Context) (fs : FileSystem) (c : Command) : Option Diagnostic :=
  match task with
  | .builtin b =>
    (b.outcome c.arguments ctx fs
      ((b.warning? c.arguments ctx).bind fun w => refusal w.line)).failure?
  | .program path =>
    match launcher ⟨c.verb, path, c.arguments, ctx.cwd⟩ fs with
    | .ok _ => none
    | .error fault => some (.spawn c.verb fault)

/-! ## Events that are no incidents -/

theorem FileSystem.findAmong_incident (fs : FileSystem) (name : String)
    (directories : List Path) : ∀ e ∈ (fs.findAmong name directories).2, e.isIncident = false := by
  induction directories with
  | nil => simp [findAmong]
  | cons directory rest ih =>
    simp only [findAmong]
    split
    · simp [Event.isIncident]
    · exact ih
    · simpa [Event.isIncident] using ih

theorem Context.search_incident (ctx : Context) (fs : FileSystem) (name : String) :
    ∀ e ∈ (ctx.search fs name).2, e.isIncident = false := by
  unfold search
  split
  · simp
  · split
    · dsimp only
      split <;> simp
    · exact fs.findAmong_incident name _

/-- What a builtin notes for itself is no incident. -/
theorem Builtin.outcome_incident (b : Builtin) (arguments : List String) (ctx : Context)
    (fs : FileSystem) (refused : Option Fault) :
    ∀ e ∈ (b.outcome arguments ctx fs refused).events, e.isIncident = false := by
  have henter : ∀ target, ∀ e ∈ (enter target ctx fs).events, e.isIncident = false := by
    intro target
    simp only [enter]
    split
    · split <;> simp [Event.isIncident]
    · simp
  have hdescribe : ∀ name, ∀ e ∈ (describe ctx fs name).2, e.isIncident = false := by
    intro name
    have hsearch := ctx.search_incident fs name
    simp only [describe]
    split
    · simp
    · split
      all_goals
        next heq =>
        rw [heq] at hsearch
        exact hsearch
  unfold outcome run
  split
  · simp
  · simp
  · split <;> simp
  · next target =>
    simp only [changeDirectory]
    split
    · exact henter _
    · cases refused with
      | none => exact henter target
      | some fault => simp
  · next name => exact hdescribe name
  · simp

/-- A verb that stands for a task does not help if the file cannot be opened. -/
theorem Context.prepare_of_openTarget {ctx : Context} {fs : FileSystem} {c : Command}
    {task : Task} {fault : Fault} (htask : ctx.task? fs c.verb = some task)
    (hopen : ctx.openTarget fs c.redirect = .error fault) :
    ctx.prepare fs c = .error (.redirect (c.targetPath.getD "") fault) := by
  simp only [prepare, htask, hopen]

section
variable {ω ε : Type}

/-- The incidents of a session, the newest first. -/
def Session.incidents (s : Session ω ε) : List Event :=
  (s.journal.map Note.event).filter Event.isIncident

end

variable {ω ε : Type} [Writer ω] [Writer ε]

/-- What the output of a task would be refused with where a command runs. -/
def Running.refusal? (r : Running ω ε) (out : Option Bytes) : Option Fault :=
  out.bind fun bytes => (r.write .stdout bytes).1

/-- The report of output that was refused. -/
def Event.refused (fault : Fault) : Event := .diagnosed (.output fault)

namespace Session

/-- What the output of a command that is carried out is refused with, if it is. -/
def outputRefusal? (s : Session ω ε) (launcher : Launcher) (c : Command) (p : Prepared) :
    Option Fault :=
  let performance := s.performance launcher c p
  Running.refusal?
    ⟨{ s with context := performance.context, files := performance.files }, p.opened⟩
    performance.out

/-- What a command that is carried out adds to the incidents, the newest first: the start of a
program, a diagnostic that its task ends with, and the report of output that was refused. -/
def ended (s : Session ω ε) (launcher : Launcher) (c : Command) (p : Prepared) : List Event :=
  ((s.outputRefusal? launcher c p).map Event.refused).toList ++
    ((p.task.failure? launcher (s.refusal p) s.context p.files c).map Event.diagnosed).toList ++
    ((p.task.launch? s.context c).map Event.spawning).toList

/-- What any command adds. -/
def additions (s : Session ω ε) (launcher : Launcher) (c : Command) : List Event :=
  if c.isBlank then []
  else
    match s.context.prepare s.files c with
    | .error d => [.diagnosed d]
    | .ok p => s.ended launcher c p

theorem additions_of_error {s : Session ω ε} {c : Command} {d : Diagnostic}
    (hblank : c.isBlank = false) (h : s.context.prepare s.files c = .error d)
    (launcher : Launcher) : s.additions launcher c = [.diagnosed d] := by
  simp only [additions, hblank, h]
  rfl

theorem additions_of_ok {s : Session ω ε} {c : Command} {p : Prepared}
    (h : s.context.prepare s.files c = .ok p) (launcher : Launcher) :
    s.additions launcher c = s.ended launcher c p := by
  have hblank := Context.isBlank_of_task (Context.prepare_eq_ok_iff.mp h).1
  simp only [additions, hblank, h]
  rfl

end Session

/-! ## What each part of a dispatch adds -/

namespace Session

omit [Writer ω] in
theorem incidents_note (s : Session ω ε) {e : Event} (h : e.isIncident = true) :
    (s.note e).incidents = e :: s.incidents := by
  simp only [incidents, note, List.map_cons, List.filter_cons_of_pos h]

omit [Writer ω] in
theorem incidents_note_of_not (s : Session ω ε) {e : Event} (h : e.isIncident = false) :
    (s.note e).incidents = s.incidents := by
  simp only [incidents, note, List.map_cons, List.filter_cons, h, Bool.false_eq_true, if_false]

omit [Writer ω] in
theorem incidents_noteAll (s : Session ω ε) {events : List Event}
    (h : ∀ e ∈ events, e.isIncident = false) : (s.noteAll events).incidents = s.incidents := by
  induction events generalizing s with
  | nil => rfl
  | cons e rest ih =>
    obtain ⟨hfirst, hrest⟩ := List.forall_mem_cons.mp h
    exact (ih (s.note e) hrest).trans (s.incidents_note_of_not hfirst)

omit [Writer ω] in
theorem incidents_openTarget (s : Session ω ε) (redirect : Option Redirect) :
    (s.openTarget redirect).2.incidents = s.incidents := by
  cases redirect with
  | none => rfl
  | some r =>
    simp only [openTarget]
    split
    all_goals exact s.incidents_note_of_not rfl

end Session

namespace Running

/-- A write leaves the journal alone. -/
theorem journal_write (stream : Stream) (r : Running ω ε) (bytes : Bytes) :
    (r.write stream bytes).2.session.journal = r.session.journal := by
  obtain ⟨s, opened⟩ := r
  by_cases hfile : ∃ handle, opened = some ⟨stream, handle⟩
  · obtain ⟨handle, rfl⟩ := hfile
    rw [write_to_file]
  · have hown : ∀ handle, opened ≠ some ⟨stream, handle⟩ := not_exists.mp hfile
    rw [write_own _ _ _ hown]
    cases stream <;> rfl

theorem incidents_write (stream : Stream) (r : Running ω ε) (bytes : Bytes) :
    (r.write stream bytes).2.session.incidents = r.session.incidents := by
  rw [Session.incidents, Session.incidents, journal_write]

/-- A write to standard error whose refusal is noted only as such. -/
theorem incidents_write_noted (r : Running ω ε) (bytes : Bytes) (event : Fault → Event)
    (h : ∀ fault, (event fault).isIncident = false) :
    Session.incidents
      (match r.write .stderr bytes with
        | (none, r) => r
        | (some fault, r) => r.modify (·.note (event fault))).session = r.session.incidents := by
  have hwritten := incidents_write .stderr r bytes
  rcases hr : r.write .stderr bytes with ⟨_ | fault, r'⟩
  · rw [hr] at hwritten
    exact hwritten
  · rw [hr] at hwritten
    exact (r'.session.incidents_note_of_not (h fault)).trans hwritten

theorem incidents_diagnose (r : Running ω ε) (d : Diagnostic) :
    (r.diagnose d).session.incidents = .diagnosed d :: r.session.incidents :=
  (incidents_write_noted _ d.line (.diagnosticLost d) fun _ => rfl).trans
    (r.session.incidents_note rfl)

end Running

theorem Session.incidents_report (s : Session ω ε) (d : Diagnostic) :
    (s.report d).incidents = .diagnosed d :: s.incidents :=
  Running.incidents_diagnose ⟨s, none⟩ d

namespace Running

/-- Output that is refused is an incident. -/
theorem incidents_said (r : Running ω ε) (bytes : Bytes) :
    Session.incidents
      (match r.write .stdout bytes with
        | (none, r) => r
        | (some fault, r) => r.modify (·.report (.output fault))).session =
      ((r.write .stdout bytes).1.map Event.refused).toList ++ r.session.incidents := by
  have hwritten := incidents_write .stdout r bytes
  rcases hr : r.write .stdout bytes with ⟨_ | fault, r'⟩
  · rw [hr] at hwritten
    exact hwritten
  · rw [hr] at hwritten
    exact (r'.session.incidents_report _).trans (congrArg _ hwritten)

/-- Whether output is refused does not depend on the journal. -/
theorem Agree.refusal? {r t : Running ω ε} (h : r.Agree t) (out : Option Bytes) :
    r.refusal? out = t.refusal? out := by
  cases out with
  | none => rfl
  | some bytes => exact (h.write .stdout bytes).1

end Running

/-- Only an answer with a text has output. -/
theorem Builtin.Result.performance_out {result : Builtin.Result}
    (h : ∀ text, result.answer ≠ .ok (.output text)) (files : FileSystem) (warned : List Bytes) :
    (result.performance files warned).out = none := by
  unfold performance
  split
  · next text heq => exact absurd heq (h text)
  all_goals rfl

namespace Session

/-- What becomes of the answer of a builtin. -/
theorem incidents_conclude (r : Running ω ε) (result : Builtin.Result) (files : FileSystem)
    (warned : List Bytes) :
    (conclude r result.answer).2.incidents =
      ((r.refusal? (result.performance files warned).out).map Event.refused).toList ++
        (result.failure?.map Event.diagnosed).toList ++ r.session.incidents := by
  obtain ⟨answer, context, events⟩ := result
  match answer with
  | .ok (.output text) =>
    have hsaid := r.incidents_said (Text.utf8 text)
    simp only [Builtin.Result.performance, Running.refusal?, Option.bind_some,
      Builtin.Result.failure?, Option.map_none, Option.toList_none, List.append_nil]
    rw [← hsaid]
    rcases hr : r.write .stdout (Text.utf8 text) with ⟨_ | fault, r'⟩
    · simp only [conclude, hr]
    · simp only [conclude, hr]
      rfl
  | .ok .silent => rfl
  | .ok (.exit status) => exact r.session.incidents_note_of_not rfl
  | .error d => exact r.incidents_diagnose d

/-- The same where the builtin has moved to. -/
theorem incidents_conclude_moved {r t : Running ω ε} (h : r.Agree t) {result : Builtin.Result}
    (hevents : ∀ e ∈ result.events, e.isIncident = false) (files : FileSystem)
    (warned : List Bytes) :
    (conclude (r.modify fun s => { s with context := result.context }.noteAll result.events)
        result.answer).2.incidents =
      (((t.moved result.context).refusal? (result.performance files warned).out).map
          Event.refused).toList ++
        (result.failure?.map Event.diagnosed).toList ++ r.session.incidents := by
  let moved := r.modify fun s => { s with context := result.context }.noteAll result.events
  have hmoved : moved.Agree (t.moved result.context) :=
    ⟨(noteAll_agree _ _).trans (h.moved result.context).session, h.opened⟩
  have hkept : moved.session.incidents = r.session.incidents := incidents_noteAll _ hevents
  rw [← hmoved.refusal?, ← hkept]
  exact incidents_conclude moved result files warned

/-- A builtin whose redirection is open. -/
theorem incidents_runBuiltin {s t : Session ω ε} (hst : s.Agree t) (launcher : Launcher)
    (b : Builtin) {c : Command} {opened : Option Opened} {files : FileSystem}
    (h : t.context.openTarget t.files c.redirect = .ok (opened, files)) :
    (s.runBuiltin b c).2.incidents =
      t.ended launcher c ⟨.builtin b, opened, files⟩ ++ s.incidents := by
  obtain ⟨u, hu, hagree⟩ := openTarget_of_ok hst h
  have hcontext : u.context = t.context := hagree.context
  have hfiles : u.files = files := hagree.files
  have hopened := s.incidents_openTarget c.redirect
  rw [hu] at hopened
  let r : Running ω ε := ⟨{ t with files }, opened⟩
  have hr : Running.Agree ⟨u, opened⟩ r := ⟨hagree, rfl⟩
  let performance := t.performance launcher c ⟨.builtin b, opened, files⟩
  have hended : t.ended launcher c ⟨.builtin b, opened, files⟩ =
      (((r.moved performance.context).refusal? performance.out).map Event.refused).toList ++
        ((Task.failure? (.builtin b) launcher (t.refusal ⟨.builtin b, opened, files⟩) t.context
          files c).map Event.diagnosed).toList := by
    have hleft : performance.files = files := Builtin.Result.performance_files _ _ _
    simp only [ended, outputRefusal?, Task.launch?, Option.map_none, Option.toList_none,
      List.append_nil]
    rw [show (t.performance launcher c ⟨.builtin b, opened, files⟩).files = files from hleft]
    rfl
  rw [hended]
  cases hwarning : b.warning? c.arguments t.context with
  | none =>
    let result := b.outcome c.arguments t.context files none
    have hp : performance = result.performance files [] := by
      simp [performance, result, Session.performance, Task.perform, Builtin.perform, hwarning]
    rw [hp, Builtin.Result.performance_context]
    simp only [runBuiltin, hu, Builtin.run_eq, hcontext, hfiles, hwarning, Task.failure?,
      Option.bind_none]
    rw [incidents_conclude_moved hr (b.outcome_incident _ _ _ _) files [], ← hopened]
  | some warning =>
    obtain ⟨hrefused, hwritten⟩ := hr.write .stderr warning.line
    let result := b.outcome c.arguments t.context files (r.write .stderr warning.line).1
    have hp : performance = result.performance files [warning.line] := by
      simp [performance, result, r, Session.performance, Task.perform, Builtin.perform, hwarning,
        refusal]
    -- a builtin that warns prints nothing, so nothing of it can be refused
    have hout : ∀ warned, (result.performance files warned).out = none :=
      Builtin.Result.performance_out (Builtin.answer_ne_output hwarning files _) files
    rw [hp, Builtin.Result.performance_context, hout]
    simp only [runBuiltin, hu, Builtin.run_eq, hcontext, hfiles, hwarning, hrefused,
      Task.failure?, Option.bind_some]
    rw [incidents_conclude_moved hwritten (b.outcome_incident _ _ _ _) files [], hout,
      Running.incidents_write, ← hopened]
    rfl

/-- What becomes of the output of a program that has ended. -/
theorem incidents_relay {r t : Running ω ε} (h : r.Agree t) (name : String) (done : Completion) :
    (relay r name done).session.incidents =
      ((t.refusal? (some done.out)).map Event.refused).toList ++ r.session.incidents := by
  let noted (e : Event) (v : Running ω ε) := v.modify (·.note e)
  have hincidents : ∀ (e : Event) (v : Running ω ε), e.isIncident = false →
      (noted e v).session.incidents = v.session.incidents :=
    fun e v h => v.session.incidents_note_of_not h
  have hagree : ∀ (e : Event) {v : Running ω ε}, v.Agree t → (noted e v).Agree t :=
    fun e v h => ⟨(v.session.note_agree e).trans h.session, h.opened⟩
  let ended := noted (.ended name done.status) r
  have hended : ended.Agree t := hagree _ h
  let after := if done.status.isSuccess then ended else noted (.failed name done.status) ended
  have hafter : after.Agree t ∧ after.session.incidents = r.session.incidents := by
    simp only [after]
    split
    · exact ⟨hended, hincidents _ r rfl⟩
    · exact ⟨hagree _ hended, (hincidents _ ended rfl).trans (hincidents _ r rfl)⟩
  simp only [relay]
  refine (Running.incidents_write_noted _ done.err _ fun fault => rfl).trans ?_
  refine (Running.incidents_said after done.out).trans ?_
  rw [hafter.2, ← hafter.1.refusal?]
  rfl

/-- A program that was found and whose redirection is open. -/
theorem incidents_runExternal {s t : Session ω ε} (hst : s.Agree t) (launcher : Launcher)
    {c : Command} {program : Path} {opened : Option Opened} {files : FileSystem}
    (hfound : t.context.findExecutable t.files c.verb = some program)
    (h : t.context.openTarget t.files c.redirect = .ok (opened, files)) :
    (runExternal launcher s c).incidents =
      t.ended launcher c ⟨.program program, opened, files⟩ ++ s.incidents := by
  obtain ⟨events, hsearch⟩ := Context.exists_search_eq hfound
  have hevents := t.context.search_incident t.files c.verb
  rw [hsearch] at hevents
  obtain ⟨u, hu, hagree⟩ := openTarget_of_ok ((s.noteAll_agree events).trans hst) h
  have hopened := (s.noteAll events).incidents_openTarget c.redirect
  rw [hu, s.incidents_noteAll hevents] at hopened
  have hcontext : u.context = t.context := hagree.context
  let launch : Launch := ⟨c.verb, program, c.arguments, t.context.cwd⟩
  have hspawning : (u.note (.spawning launch)).incidents = .spawning launch :: s.incidents :=
    (u.incidents_note rfl).trans (congrArg _ hopened)
  replace hagree := (u.note_agree (.spawning launch)).trans hagree
  have hfiles : (u.note (.spawning launch)).files = files := hagree.files
  have hleft : (t.performance launcher c ⟨.program program, opened, files⟩).context = t.context :=
    launcher.perform_context program c t.context files
  simp only [runExternal, hst.context, hst.files, hsearch, hu, hcontext]
  simp only [launch] at hspawning hagree hfiles
  generalize u.note _ = spawning at hspawning hagree hfiles ⊢
  simp only [ended, outputRefusal?, hleft, Task.launch?, Option.map_some, Option.toList_some, List.append_assoc,
    List.singleton_append, ← hspawning, hfiles]
  simp only [performance, Task.perform, Launcher.perform, Task.failure?]
  cases launcher ⟨c.verb, program, c.arguments, t.context.cwd⟩ files with
  | ok result =>
    obtain ⟨done, after⟩ := result
    have hended : Running.Agree ⟨{ spawning with files := after }, opened⟩
        ⟨{ t with files := after }, opened⟩ := ⟨hagree.setFiles after, rfl⟩
    exact incidents_relay hended c.verb done
  | error fault => exact Running.incidents_diagnose ⟨spawning, opened⟩ (.spawn c.verb fault)

/-- A redirection that cannot be opened is reported. -/
theorem incidents_of_unopened {s t : Session ω ε} (hst : s.Agree t) {c : Command} {fault : Fault}
    (h : t.context.openTarget t.files c.redirect = .error fault) :
    ∃ u, s.openTarget c.redirect = (.error (.redirect (c.targetPath.getD "") fault), u) ∧
      (u.report (.redirect (c.targetPath.getD "") fault)).incidents =
        .diagnosed (.redirect (c.targetPath.getD "") fault) :: s.incidents := by
  obtain ⟨r, hredirect, hfile⟩ := Context.exists_of_openTarget_error h
  obtain ⟨u, hu, -⟩ := openTarget_of_error hst hfile
  have hopened := s.incidents_openTarget c.redirect
  rw [hredirect, hu] at hopened
  have hpath : c.targetPath.getD "" = r.path := by
    simp only [Command.targetPath, hredirect, Option.map_some, Option.getD_some]
  rw [hpath, hredirect]
  exact ⟨u, hu, (u.incidents_report _).trans (congrArg _ hopened)⟩

/-- **What a command adds to the incidents**: the diagnostic that it is turned down with, or
what comes of its being carried out. -/
theorem incidents_dispatch (launcher : Launcher) (s : Session ω ε) (c : Command) :
    (s.dispatch launcher c).2.incidents = s.additions launcher c ++ s.incidents := by
  by_cases hblank : c.isBlank = true
  · simp only [dispatch, additions, hblank, if_true, List.nil_append]
  rw [Bool.not_eq_true] at hblank
  have hnoted := s.note_agree (.dispatched c)
  have hkept : (s.note (.dispatched c)).incidents = s.incidents := s.incidents_note_of_not rfl
  simp only [dispatch, hblank]
  cases hname : Builtin.ofName? c.verb with
  | some b =>
    have htask : s.context.task? s.files c.verb = some (.builtin b) :=
      Context.task?_of_builtin hname
    rcases hopen : s.context.openTarget s.files c.redirect with fault | ⟨opened, files⟩
    · obtain ⟨u, hu, hreported⟩ := incidents_of_unopened hnoted hopen
      rw [additions_of_error hblank (Context.prepare_of_openTarget htask hopen)]
      simp only [runBuiltin, hu]
      exact hreported.trans (congrArg _ hkept)
    · have hprepared : s.context.prepare s.files c = .ok ⟨.builtin b, opened, files⟩ :=
        Context.prepare_eq_ok_iff.mpr ⟨htask, hopen⟩
      rw [additions_of_ok hprepared, ← hkept]
      exact incidents_runBuiltin hnoted launcher b hopen
  | none =>
    have htask : s.context.task? s.files c.verb = _ := Context.task?_of_not_builtin hname
    have hevents := s.context.search_incident s.files c.verb
    rcases hsearch : s.context.search s.files c.verb with ⟨_ | program, events⟩
    all_goals
      rw [Context.findExecutable, hsearch] at htask
      rw [hsearch] at hevents
      have hsearched := ((s.note (.dispatched c)).incidents_noteAll hevents).trans hkept
    case none =>
      rw [additions_of_error hblank (Context.prepare_of_no_task htask)]
      simp only [runExternal, hnoted.context, hnoted.files, hsearch]
      exact (incidents_report _ _).trans (congrArg _ hsearched)
    case some =>
      rcases hopen : s.context.openTarget s.files c.redirect with fault | ⟨opened, files⟩
      · obtain ⟨u, hu, hreported⟩ :=
          incidents_of_unopened (((s.note (.dispatched c)).noteAll_agree events).trans hnoted) hopen
        rw [additions_of_error hblank (Context.prepare_of_openTarget htask hopen)]
        simp only [runExternal, hnoted.context, hnoted.files, hsearch, hu]
        exact hreported.trans (congrArg _ hsearched)
      · have hprepared : s.context.prepare s.files c = .ok ⟨.program program, opened, files⟩ :=
          Context.prepare_eq_ok_iff.mpr ⟨htask, hopen⟩
        rw [additions_of_ok hprepared, ← hkept]
        exact incidents_runExternal hnoted launcher (by rw [Context.findExecutable, hsearch]) hopen

end Session
end LineShell
