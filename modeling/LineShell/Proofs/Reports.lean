import LineShell.Proofs.TurnedDown
import LineShell.Script.Installation
import Mathlib.Control.Monad.Basic

/-! # What a command reports

The diagnostics of a command can be read off the journal, whatever has become of their lines.
One wording has more than one origin: that a command was not found is said of a verb that
stands for nothing, before any file is opened, and of a program that was found and whose start
the system refused because something was missing, such as the interpreter of a script.  By then
the file of the redirection is open, so that the second is not as harmless as the first.
-/
namespace LineShell

/-- The diagnostic that an event reports. -/
def Event.diagnostic? : Event → Option Diagnostic
  | .diagnosed d => some d
  | _ => none

section
variable {ω ε : Type}

/-- The diagnostics of a session, the newest first. -/
def Session.diagnostics (s : Session ω ε) : List Diagnostic :=
  s.journal.filterMap (·.event.diagnostic?)

/-- Every diagnostic is an incident. -/
theorem Session.diagnostics_eq_filterMap (s : Session ω ε) :
    s.diagnostics = s.incidents.filterMap Event.diagnostic? := by
  rw [diagnostics, incidents, List.filterMap_filter, List.filterMap_map]
  congr 1
  funext n
  cases hevent : n.event <;> simp [hevent, Event.diagnostic?, Event.isIncident]

end

variable {ω ε : Type} [Writer ω] [Writer ε]

namespace Session

/-- The diagnostic is new once the command has been dispatched. -/
def Reports (s : Session ω ε) (launcher : Launcher) (c : Command) (d : Diagnostic) : Prop :=
  ∃ reported, (s.dispatch launcher c).2.diagnostics = reported ++ s.diagnostics ∧ d ∈ reported

theorem reports_iff {s : Session ω ε} {launcher : Launcher} {c : Command} {d : Diagnostic} :
    s.Reports launcher c d ↔ .diagnosed d ∈ s.additions launcher c := by
  have hadded : (s.dispatch launcher c).2.diagnostics =
      (s.additions launcher c).filterMap Event.diagnostic? ++ s.diagnostics := by
    rw [diagnostics_eq_filterMap, incidents_dispatch, List.filterMap_append,
      ← diagnostics_eq_filterMap]
  have hmem : d ∈ (s.additions launcher c).filterMap Event.diagnostic? ↔
      .diagnosed d ∈ s.additions launcher c := by
    rw [List.mem_filterMap]
    constructor
    · rintro ⟨e, he, hd⟩
      cases e <;> simp_all [Event.diagnostic?]
    · intro h
      exact ⟨_, h, rfl⟩
  rw [← hmem]
  constructor
  · rintro ⟨reported, heq, hd⟩
    rwa [List.append_cancel_right (hadded.symm.trans heq)]
  · intro h
    exact ⟨_, hadded, h⟩

/-- A command that is carried out reports output that was refused, and what its task ends
with. -/
theorem diagnosed_mem_ended {s : Session ω ε} {launcher : Launcher} {c : Command} {p : Prepared}
    {d : Diagnostic} (h : .diagnosed d ∈ s.ended launcher c p) :
    (∃ fault, s.outputRefusal? launcher c p = some fault ∧ d = .output fault) ∨
      p.task.failure? launcher (s.refusal p) s.context p.files c = some d := by
  simp only [ended, List.mem_append, Option.mem_toList, Option.map_eq_some_iff] at h
  rcases h with (⟨fault, hfault, heq⟩ | ⟨d', hd', heq⟩) | ⟨launch, -, heq⟩
  · exact .inl ⟨fault, hfault, (Event.diagnosed.inj heq).symm⟩
  · exact .inr (Event.diagnosed.inj heq ▸ hd')
  · cases heq

end Session

/-! ## What reads as if a command had not been found -/

/-- The last character of a text is that of what it ends in. -/
theorem getLast?_toList_append (before : String) {after : String} (h : after.toList ≠ []) :
    (before ++ after).toList.getLast? = after.toList.getLast? := by
  rw [String.toList_append, List.getLast?_append, List.getLast?_eq_some_getLast h, Option.some_or]

/-- The words for a file that does not open end otherwise. -/
theorem FileSystem.openFile_message {fs : FileSystem} {mode : WriteMode} {p : Path} {fault : Fault}
    (h : fs.openFile mode p = .error fault) :
    fault.message.toList ≠ [] ∧ fault.message.toList.getLast? ≠ some 'd' := by
  simp only [openFile, checked] at h
  split at h
  · cases h
    exact ⟨by decide, by decide +kernel⟩
  · split at h
    · cases h
    · next e _ =>
      cases h
      have hends : (Fault.system e).message.toList.getLast? = some ')' :=
        getLast?_toList_append (e.description ++ " (os error " ++ toString e.number) (by decide)
      refine ⟨fun hnil => ?_, fun hlast => ?_⟩
      · rw [hnil] at hends
        cases hends
      · rw [hends] at hlast
        cases hlast

theorem getLast?_notFound (verb : String) :
    (verb ++ ": command not found").toList.getLast? = some 'd' := by
  rw [getLast?_toList_append _ (by decide)]
  decide +kernel

/-- Causes that are never worded as if a command had not been found. -/
theorem Diagnostic.cause_of_notFound {d : Diagnostic} {verb : String}
    (h : d.message = verb ++ ": command not found") :
    d = .commandNotFound verb ∨ (∃ fault, d = .output fault) ∨
      (∃ name fault, d = .spawn name fault) ∨ (∃ fault, d = .currentDirectory fault) ∨
      ∃ path fault, d = .redirect path fault := by
  have hlast : d.message.toList.getLast? = some 'd' := by rw [h, getLast?_notFound]
  have hends : ∀ before after : String, d.message = before ++ after → after.toList ≠ [] →
      after.toList.getLast? = some 'd' := by
    intro before after heq hne
    rwa [heq, getLast?_toList_append _ hne] at hlast
  cases d with
  | commandNotFound name =>
    have hname : name = verb := (String.append_left_inj _).mp h
    exact .inl (congrArg _ hname)
  | output fault => exact .inr (.inl ⟨fault, rfl⟩)
  | spawn name fault => exact .inr (.inr (.inl ⟨name, fault, rfl⟩))
  | currentDirectory fault => exact .inr (.inr (.inr (.inl ⟨fault, rfl⟩)))
  | redirect path fault => exact .inr (.inr (.inr (.inr ⟨path, fault, rfl⟩)))
  | wrongArgumentCount builtin =>
    exact absurd (hends _ ": wrong number of arguments" rfl (by decide)) (by decide +kernel)
  | invalidExitCode argument fault =>
    cases fault
    all_goals exact absurd (hends _ _ rfl (by decide)) (by decide +kernel)
  | notADirectory target =>
    exact absurd (hends _ " is not a directory" rfl (by decide)) (by decide +kernel)
  | noSuchDirectory target =>
    exact absurd (hends _ ": No such file or directory" rfl (by decide)) (by decide +kernel)
  | homeNotSet => exact absurd hlast (by decide +kernel)

/-- Only a missing file is worded so. -/
theorem Diagnostic.spawnReason_eq_notFound {fault : Fault}
    (h : Diagnostic.spawnReason fault = "command not found") : fault.kind = .notFound := by
  unfold Diagnostic.spawnReason at h
  split at h
  · next hkind => exact hkind
  · exact absurd h (by decide)
  · have hfirst := congrArg (fun text : String => text.toList.head?) h
    simp [String.toList_append] at hfirst

namespace Builtin

/-- What a builtin may end with. -/
theorem failure?_cases {b : Builtin} {arguments : List String} {ctx : Context} {fs : FileSystem}
    {refused : Option Fault} {d : Diagnostic}
    (h : (b.outcome arguments ctx fs refused).failure? = some d) :
    (∃ builtin, d = .wrongArgumentCount builtin) ∨
      (∃ argument fault, d = .invalidExitCode argument fault) ∨
      (∃ target, d = .notADirectory target) ∨ (∃ target, d = .noSuchDirectory target) ∨
      ∃ fault, d = .output fault := by
  have henter : ∀ target, (enter target ctx fs).failure? = some d →
      (∃ target, d = .notADirectory target) ∨ ∃ target, d = .noSuchDirectory target := by
    intro target h
    simp only [enter] at h
    split at h
    · split at h
      · cases h
      · exact .inl ⟨_, (Option.some.inj h).symm⟩
    · exact .inr ⟨_, (Option.some.inj h).symm⟩
  unfold outcome run at h
  split at h
  · cases h
  · cases h
  · split at h
    · cases h
    · exact .inr (.inl ⟨_, _, (Option.some.inj h).symm⟩)
  · next target =>
    simp only [changeDirectory] at h
    split at h
    · exact .inr (.inr ((henter _ h).imp_right .inl))
    · cases refused with
      | none => exact .inr (.inr ((henter target h).imp_right .inl))
      | some fault => exact .inr (.inr (.inr (.inr ⟨fault, (Option.some.inj h).symm⟩)))
  · cases h
  · exact .inl ⟨_, (Option.some.inj h).symm⟩

/-- Refused output is not worded as if a builtin had not been found. -/
theorem output_message_ne (b : Builtin) (fault : Fault) :
    (Diagnostic.output fault).message ≠ b.name ++ ": command not found" := by
  intro h
  have hmessage : "write error: " ++ fault.message = b.name ++ ": command not found" := h
  have hfirst : ("write error: " ++ fault.message).toList.head? = some 'w' := by
    simp [String.toList_append]
  have hname : (b.name ++ ": command not found").toList.head? ≠ some 'w' := by
    cases b <;> decide +kernel
  exact hname (hmessage ▸ hfirst)

/-- No builtin says of itself that it was not found. -/
theorem failure?_message_ne {b : Builtin} {arguments : List String} {ctx : Context}
    {fs : FileSystem} {refused : Option Fault} {d : Diagnostic}
    (h : (b.outcome arguments ctx fs refused).failure? = some d) :
    d.message ≠ b.name ++ ": command not found" := by
  intro hmessage
  rcases failure?_cases h with ⟨_, rfl⟩ | ⟨_, _, rfl⟩ | ⟨_, rfl⟩ | ⟨_, rfl⟩ | ⟨fault, rfl⟩
  case inr.inr.inr.inr => exact b.output_message_ne fault hmessage
  all_goals
    rcases Diagnostic.cause_of_notFound hmessage with h | ⟨_, h⟩ | ⟨_, _, h⟩ | ⟨_, h⟩ | ⟨_, _, h⟩
    all_goals cases h

end Builtin

variable {ω ε : Type} [Writer ω] [Writer ε]

namespace Session

/-- The command is a program that was found, and whose start, once the file of the redirection
was open, was refused because something was missing. -/
structure StartFails (s : Session ω ε) (launcher : Launcher) (c : Command) (r : Redirect)
    (handle : Handle) (files : FileSystem) (fault : Fault) : Prop where
  found : ∃ program, s.context.task? s.files c.verb = some (.program program) ∧
    launcher ⟨c.verb, program, c.arguments, s.context.cwd⟩ files = .error fault
  opened : s.files.openFile r.mode (s.context.resolve (Path.ofString r.path)) = .ok (handle, files)
  missing : fault.kind = .notFound

namespace StartFails
variable {s : Session ω ε} {launcher : Launcher} {c : Command} {r : Redirect} {handle : Handle}
  {files : FileSystem} {fault : Fault}

omit [Writer ω] [Writer ε] in
/-- The command gets as far as the attempt to start the program. -/
theorem prepare (h : s.StartFails launcher c r handle files fault)
    (hredirect : c.redirect = some r) :
    ∃ program, launcher ⟨c.verb, program, c.arguments, s.context.cwd⟩ files = .error fault ∧
      s.context.prepare s.files c = .ok ⟨.program program, some ⟨r.stream, handle⟩, files⟩ := by
  obtain ⟨program, htask, hstart⟩ := h.found
  refine ⟨program, hstart, Context.prepare_eq_ok_iff.mpr ⟨htask, ?_⟩⟩
  simp only [hredirect, Context.openTarget, h.opened]

omit [Writer ω] [Writer ε] in
/-- The report reads as if the command had not been found. -/
theorem message (h : s.StartFails launcher c r handle files fault) :
    (Diagnostic.spawn c.verb fault).message = c.verb ++ ": command not found" := by
  have hreason : Diagnostic.spawnReason fault = "command not found" := by
    simp only [Diagnostic.spawnReason, h.missing]
  calc (Diagnostic.spawn c.verb fault).message
      = c.verb ++ ": " ++ Diagnostic.spawnReason fault := rfl
    _ = c.verb ++ (": " ++ "command not found") := by rw [hreason, String.append_assoc]
    _ = c.verb ++ ": command not found" := rfl

theorem reports (h : s.StartFails launcher c r handle files fault)
    (hredirect : c.redirect = some r) : s.Reports launcher c (.spawn c.verb fault) := by
  obtain ⟨program, hstart, hprepared⟩ := h.prepare hredirect
  rw [reports_iff, additions_of_ok hprepared]
  simp [ended, Task.failure?, hstart]

/-- Where the report goes. -/
theorem dispatch (h : s.StartFails launcher c r handle files fault)
    (hredirect : c.redirect = some r) :
    let line := (Diagnostic.spawn c.verb fault).line
    let after := (s.dispatch launcher c).2
    match r.stream with
    | .stdout => (after.err, after.files) = Writer.settle (Writer.write s.err line).2 files
    | .stderr => after.err = s.err ∧ after.files = (files.write handle line).2.2 := by
  intro line after
  obtain ⟨program, hstart, hprepared⟩ := h.prepare hredirect
  obtain ⟨htask, hopen⟩ := Context.prepare_eq_ok_iff.mp hprepared
  obtain ⟨-, hagree⟩ := dispatch_of_task launcher htask hopen
  have hperformance : launcher.perform program c s.context files =
      { context := s.context, files, err := [line] } := by
    simp only [Launcher.perform, hstart, line]
  simp only [Task.perform, hperformance, Running.deliver, Option.elim_none, List.foldl_cons,
    List.foldl_nil, Running.complain] at hagree
  obtain ⟨journal, hafter : after = _⟩ := hagree.exists_journal
  rw [hafter]
  cases r.stream with
  | stdout =>
    rw [Running.write_own _ _ _ (by simp)]
    rfl
  | stderr =>
    rw [Running.write_to_file]
    exact ⟨rfl, rfl⟩

end StartFails

omit [Writer ω] [Writer ε] in
/-- A command that is turned down in such words has a verb that stands for nothing: a file that
does not open is reported in others. -/
theorem notFound_of_turned_down {s : Session ω ε} {c : Command} {d : Diagnostic}
    (h : s.context.prepare s.files c = .error d)
    (hmessage : d.message = c.verb ++ ": command not found") :
    d = .commandNotFound c.verb ∧ s.context.task? s.files c.verb = none := by
  rcases Context.prepare_eq_error_iff.mp h with
    ⟨htask, hd⟩ | ⟨task, r, fault, -, -, hfile, rfl⟩
  · exact ⟨hd, htask⟩
  · obtain ⟨hne, hlast⟩ := FileSystem.openFile_message hfile
    have hwords := getLast?_notFound c.verb
    rw [← hmessage] at hwords
    exact absurd ((getLast?_toList_append (r.path ++ ": ") hne).symm.trans hwords) hlast

omit [Writer ω] [Writer ε] in
/-- A task that ends with such words is a program whose start has failed. -/
theorem startFails_of_failure {s : Session ω ε} {launcher : Launcher} {c : Command} {r : Redirect}
    {p : Prepared} {refused : Bytes → Option Fault} {d : Diagnostic}
    (hredirect : c.redirect = some r) (hprepared : s.context.prepare s.files c = .ok p)
    (h : p.task.failure? launcher refused s.context p.files c = some d)
    (hmessage : d.message = c.verb ++ ": command not found") :
    ∃ handle files fault, d = .spawn c.verb fault ∧
      s.StartFails launcher c r handle files fault := by
  obtain ⟨task, opened, files⟩ := p
  obtain ⟨htask, hopen⟩ := Context.prepare_eq_ok_iff.mp hprepared
  cases task with
  | builtin b =>
    rw [Context.verb_of_task_builtin htask] at hmessage
    exact absurd hmessage (Builtin.failure?_message_ne h)
  | program program =>
    simp only [Task.failure?] at h
    split at h
    · cases h
    · next fault hstart =>
      obtain rfl := Option.some.inj h
      have hreason : c.verb ++ (": " ++ Diagnostic.spawnReason fault) =
          c.verb ++ (": " ++ "command not found") := by
        rw [← String.append_assoc]
        exact hmessage
      rw [String.append_right_inj, String.append_right_inj] at hreason
      rw [hredirect] at hopen
      obtain ⟨handle, -, hfile⟩ := Context.exists_of_openTarget_ok hopen
      exact ⟨handle, files, fault, rfl, ⟨program, htask, hstart⟩, hfile,
        Diagnostic.spawnReason_eq_notFound hreason⟩

/-- Where such a wording comes from. -/
theorem origin_of_notFound {s : Session ω ε} {launcher : Launcher} {c : Command} {r : Redirect}
    {d : Diagnostic} (hredirect : c.redirect = some r) (h : s.Reports launcher c d)
    (hmessage : d.message = c.verb ++ ": command not found") :
    (d = .commandNotFound c.verb ∧ s.context.task? s.files c.verb = none) ∨
    (∃ handle files fault, d = .spawn c.verb fault ∧
      s.StartFails launcher c r handle files fault) ∨
    (∃ p fault, d = .output fault ∧ s.context.prepare s.files c = .ok p ∧
      s.outputRefusal? launcher c p = some fault) := by
  rw [reports_iff] at h
  have hblank : c.isBlank = false := by
    cases hblank : c.isBlank with
    | false => rfl
    | true => simp [additions, hblank] at h
  cases hprepared : s.context.prepare s.files c with
  | error d' =>
    rw [additions_of_error hblank hprepared, List.mem_singleton] at h
    obtain rfl : d = d' := Event.diagnosed.inj h
    exact .inl (notFound_of_turned_down hprepared hmessage)
  | ok p =>
    rw [additions_of_ok hprepared] at h
    rcases diagnosed_mem_ended h with ⟨fault, hrefused, rfl⟩ | hfailure
    · exact .inr (.inr ⟨p, fault, rfl, rfl, hrefused⟩)
    · exact .inr (.inl (startFails_of_failure hredirect hprepared hfailure hmessage))

/-- **Where it is said that a command was not found.**  A verb that stands for nothing is turned
down: the line is on the session's own error stream and no file has been touched.  A program
whose start fails for something missing is reported in the same words, but the file of the
redirection has been opened by then, created or emptied as the case may be, and with
redirected standard error the line goes there and not to the session's own error stream.  Nothing
else is worded so but output that was refused in such words. -/
theorem reports_notFound (s : Session ω ε) (launcher : Launcher) {c : Command} {r : Redirect}
    (hblank : c.isBlank = false) (hredirect : c.redirect = some r) :
    let message := c.verb ++ ": command not found"
    let line := Text.utf8 (message ++ "\n")
    let after := (s.dispatch launcher c).2
    (s.context.task? s.files c.verb = none →
      s.Reports launcher c (.commandNotFound c.verb) ∧ s.TurnsDown launcher c message) ∧
    (∀ handle files fault, s.StartFails launcher c r handle files fault →
      s.Reports launcher c (.spawn c.verb fault) ∧
      (Diagnostic.spawn c.verb fault).message = message ∧
      match r.stream with
      | .stdout => (after.err, after.files) = Writer.settle (Writer.write s.err line).2 files
      | .stderr => after.err = s.err ∧ after.files = (files.write handle line).2.2) ∧
    (∀ d, s.Reports launcher c d → d.message = message →
      (d = .commandNotFound c.verb ∧ s.context.task? s.files c.verb = none) ∨
      (∃ handle files fault, d = .spawn c.verb fault ∧
        s.StartFails launcher c r handle files fault) ∨
      (∃ p fault, d = .output fault ∧ s.context.prepare s.files c = .ok p ∧
        s.outputRefusal? launcher c p = some fault)) := by
  intro message line after
  refine ⟨?_, ?_, fun d => origin_of_notFound hredirect⟩
  · intro htask
    have hprepared := Context.prepare_of_no_task htask
    refine ⟨?_, turnsDown_of_prepare hblank hprepared launcher⟩
    rw [reports_iff, additions_of_error hblank hprepared]
    exact List.mem_singleton_self _
  · intro handle files fault h
    have hline : line = (Diagnostic.spawn c.verb fault).line := by
      rw [Diagnostic.line, h.message]
    refine ⟨h.reports hredirect, h.message, ?_⟩
    rw [hline]
    exact h.dispatch hredirect

/-- In an empty tree `ls 2> log` makes no file. -/
theorem reports_notFound_ls :
    let s : Session Sink Sink := ⟨⟨Path.ofString "/", none, []⟩, .empty, {}, {}, []⟩
    let launcher := Script.Installation.launcher []
    let c := Command.ofLine "ls 2> log"
    s.Reports launcher c (.commandNotFound "ls") ∧
      (s.dispatch launcher c).2.err.taken = Text.utf8 "ls: command not found\n" ∧
      (s.dispatch launcher c).2.files = .empty := by
  intro s launcher c
  have hredirect : c.redirect = some ⟨.stderr, "log", .overwrite⟩ := by decide +kernel
  have hblank : c.isBlank = false := by decide +kernel
  have hverb : c.verb = "ls" := by decide +kernel
  obtain ⟨hmissing, -, -⟩ := reports_notFound s launcher hblank hredirect
  obtain ⟨hreports, hturned⟩ := hmissing (by decide +kernel)
  have hwritten := congrArg (fun w : Sink × FileSystem => w.1.taken) hturned.written
  rw [hverb] at hreports hwritten
  refine ⟨hreports, hwritten.trans ?_, hturned.files Sink.detached⟩
  decide +kernel

/-- The interpreter of the script `x` is missing: `./x 2> f` makes the file `f` and puts there
that the command was not found, and leaves the session's own error stream alone. -/
theorem reports_notFound_script :
    let files := FileSystem.empty.create [Text.utf8 "x"]
      { mode := 0o755, content := Text.utf8 "#!/nonexistent\n" }
    let s : Session Sink Sink := ⟨⟨Path.ofString "/", none, []⟩, files, {}, {}, []⟩
    let launcher := Script.Installation.launcher []
    let c := Command.ofLine "./x 2> f"
    let after := (s.dispatch launcher c).2
    c.redirect = some ⟨.stderr, "f", .overwrite⟩ ∧
      s.Reports launcher c (.spawn c.verb (.system .noEntry)) ∧
      (Diagnostic.spawn c.verb (.system .noEntry)).message = c.verb ++ ": command not found" ∧
      s.files.file? [Text.utf8 "f"] = none ∧
      after.files.file? [Text.utf8 "f"] =
        some ⟨FileSystem.fileMode, Text.utf8 "./x: command not found\n", none⟩ ∧
      after.err.taken = [] := by
  refine ⟨by decide +kernel, ⟨[_], ?_, List.mem_singleton_self _⟩, by decide +kernel,
    by decide +kernel, by decide +kernel, by decide +kernel⟩
  decide +kernel

end Session

end LineShell
