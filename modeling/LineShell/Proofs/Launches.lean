import LineShell.Proofs.Incidents

/-! # The programs that a session starts

The journal keeps every start of a program, so the programs that a session has started can be
read off it.  A command adds one start if it has been prepared and its verb stands for a
program, and otherwise none: neither a builtin nor a command that is turned down starts
anything.  What else the programs of the machine would do plays no part.
-/
namespace LineShell

/-- The start of a program that an event is. -/
def Event.launch? : Event → Option Launch
  | .spawning launch => some launch
  | _ => none

/-- The start of a program that a command asks for, unless it is turned down. -/
def Context.launch? (ctx : Context) (fs : FileSystem) (c : Command) : Option Launch :=
  match ctx.prepare fs c with
  | .ok p => p.task.launch? ctx c
  | .error _ => none

variable {ω ε : Type}

/-- The programs that a session has started, the newest first. -/
def Session.launches (s : Session ω ε) : List Launch := s.journal.filterMap (·.event.launch?)

namespace Session

/-- Every start of a program is an incident. -/
theorem launches_eq_filterMap (s : Session ω ε) :
    s.launches = s.incidents.filterMap Event.launch? := by
  rw [launches, incidents, List.filterMap_filter, List.filterMap_map]
  congr 1
  funext n
  cases hevent : n.event <;> simp [hevent, Event.launch?, Event.isIncident]

variable [Writer ω] [Writer ε]

omit [Writer ω] in
theorem launches_note_of_none (s : Session ω ε) {e : Event} (h : e.launch? = none) :
    (s.note e).launches = s.launches := by
  simp only [launches, note, List.filterMap_cons, h]

/-- A command that is carried out starts what its task asks for. -/
theorem ended_filterMap (s : Session ω ε) (launcher : Launcher) (c : Command) (p : Prepared) :
    (s.ended launcher c p).filterMap Event.launch? = (p.task.launch? s.context c).toList := by
  have hdiagnosed : ∀ d : Option Diagnostic,
      (d.map Event.diagnosed).toList.filterMap Event.launch? = [] := by
    intro d
    cases d <;> rfl
  have hrefused : ∀ fault : Option Fault,
      (fault.map Event.refused).toList.filterMap Event.launch? = [] := by
    intro fault
    cases fault <;> rfl
  simp only [ended, List.filterMap_append, hrefused, hdiagnosed, List.nil_append]
  cases p.task.launch? s.context c <;> rfl

/-- **What a command starts**: the program that its verb stands for, once, unless the command
is turned down. -/
theorem launches_dispatch (launcher : Launcher) (s : Session ω ε) (c : Command) :
    (s.dispatch launcher c).2.launches =
      (s.context.launch? s.files c).toList ++ s.launches := by
  rw [launches_eq_filterMap, launches_eq_filterMap, incidents_dispatch, List.filterMap_append]
  congr 1
  simp only [additions, Context.launch?]
  split
  · next hblank =>
    have hverb : c.verb = "" := by simpa [Command.isBlank] using hblank
    have hprepared := Context.prepare_of_no_task (c := c)
      (hverb ▸ Context.task?_empty s.context s.files)
    rw [hprepared]
    rfl
  · cases s.context.prepare s.files c with
    | error d => rfl
    | ok p => exact s.ended_filterMap launcher c p

/-! ## What a command asks of the programs -/

/-- Only the start that a command asks for is put to the programs of the machine, and only on
the tree that is there then. -/
theorem dispatch_congr {launcher launcher' : Launcher} (s : Session ω ε) (c : Command)
    (h : ∀ p, s.context.prepare s.files c = .ok p → ∀ launch ∈ p.task.launch? s.context c,
      launcher launch p.files = launcher' launch p.files) :
    s.dispatch launcher c = s.dispatch launcher' c := by
  unfold dispatch
  split
  · rfl
  simp only
  cases hname : Builtin.ofName? c.verb with
  | some b => rfl
  | none =>
    have hnoted := s.note_agree (.dispatched c)
    rcases hsearch : s.context.search s.files c.verb with ⟨_ | program, events⟩
    · simp only [runExternal, hnoted.context, hnoted.files, hsearch]
    have hagree := ((s.note (.dispatched c)).noteAll_agree events).trans hnoted
    rcases hopen : s.context.openTarget s.files c.redirect with fault | ⟨opened, files⟩
    · obtain ⟨r, hredirect, hfile⟩ := Context.exists_of_openTarget_error hopen
      obtain ⟨u, hu, -⟩ := openTarget_of_error hagree hfile
      simp only [runExternal, hnoted.context, hnoted.files, hsearch, hredirect, hu]
    · obtain ⟨u, hu, hcontext, hfiles, -⟩ := openTarget_of_ok hagree hopen
      have htask : s.context.task? s.files c.verb = some (.program program) := by
        rw [Context.task?_of_not_builtin hname, Context.findExecutable, hsearch, Option.map_some]
      have hsame : launcher ⟨c.verb, program, c.arguments, s.context.cwd⟩ files =
          launcher' ⟨c.verb, program, c.arguments, s.context.cwd⟩ files :=
        h ⟨.program program, opened, files⟩ (Context.prepare_eq_ok_iff.mpr ⟨htask, hopen⟩) _ rfl
      have hspawning : ∀ e, (u.note e).files = files := fun _ => hfiles
      simp only [runExternal, hnoted.context, hnoted.files, hsearch, hu, hcontext, hspawning, hsame]

end Session
end LineShell
