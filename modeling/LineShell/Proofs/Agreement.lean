import LineShell.Session

/-! # Sessions up to their journals

What a session notes for itself shows nowhere else.  Sessions that agree but for their
journals take a write alike, and a diagnostic or a report is, up to the journal, a single
write.
-/
namespace LineShell

section Agreement
variable {ω ε : Type}

/-- Sessions that differ in nothing but their journals. -/
structure Session.Agree (s t : Session ω ε) : Prop where
  context : s.context = t.context
  files : s.files = t.files
  out : s.out = t.out
  err : s.err = t.err

/-- The same of sessions while a command runs. -/
structure Running.Agree (r t : Running ω ε) : Prop where
  session : r.session.Agree t.session
  opened : r.opened = t.opened

namespace Session.Agree

theorem refl (s : Session ω ε) : s.Agree s := ⟨rfl, rfl, rfl, rfl⟩

theorem trans {s t u : Session ω ε} (h : s.Agree t) (h' : t.Agree u) : s.Agree u :=
  ⟨h.context.trans h'.context, h.files.trans h'.files, h.out.trans h'.out, h.err.trans h'.err⟩

theorem exists_journal {s t : Session ω ε} (h : s.Agree t) :
    ∃ journal, s = { t with journal } := by
  obtain ⟨context, files, out, err, journal⟩ := s
  obtain ⟨rfl, rfl, rfl, rfl⟩ := h
  exact ⟨journal, rfl⟩

theorem setFiles {s t : Session ω ε} (h : s.Agree t) (files : FileSystem) :
    Session.Agree { s with files } { t with files } :=
  ⟨h.context, rfl, h.out, h.err⟩

end Session.Agree

end Agreement

variable {ω ε : Type} [Writer ω] [Writer ε]

namespace Session

omit [Writer ω] in
theorem note_agree (s : Session ω ε) (e : Event) : (s.note e).Agree s := ⟨rfl, rfl, rfl, rfl⟩

omit [Writer ω] in
theorem noteAll_agree (s : Session ω ε) (events : List Event) : (s.noteAll events).Agree s := by
  induction events generalizing s with
  | nil => exact .refl s
  | cons e events ih => exact (ih (s.note e)).trans (s.note_agree e)

/-- Writes to one of the session's own streams. -/
def writeOwn (s : Session ω ε) (stream : Stream) (bytes : Bytes) :
    Option Fault × Session ω ε :=
  match stream with
  | .stdout => s.writeOut bytes
  | .stderr => s.writeErr bytes

end Session

namespace Running

/-- What is written to the stream that goes to the file. -/
theorem write_to_file (s : Session ω ε) (stream : Stream) (handle : Handle) (bytes : Bytes) :
    Running.write stream ⟨s, some ⟨stream, handle⟩⟩ bytes =
      let (fault, handle, files) := s.files.write handle bytes
      (fault, ⟨{ s with files }, some ⟨stream, handle⟩⟩) := by
  simp only [Running.write, if_true]

/-- What is written to a stream that does not. -/
theorem write_own (stream : Stream) (r : Running ω ε) (bytes : Bytes)
    (h : ∀ handle, r.opened ≠ some ⟨stream, handle⟩) :
    r.write stream bytes =
      ((r.session.writeOwn stream bytes).1,
        { r with session := (r.session.writeOwn stream bytes).2 }) := by
  obtain ⟨s, opened⟩ := r
  cases opened with
  | none => cases stream <;> rfl
  | some o =>
    obtain ⟨stream', handle⟩ := o
    have hstream : stream' ≠ stream := by
      rintro rfl
      exact h handle rfl
    simp only [Running.write, hstream, if_false]
    cases stream <;> rfl

/-- A write does not depend on the journal. -/
theorem Agree.write {r t : Running ω ε} (h : r.Agree t) (stream : Stream) (bytes : Bytes) :
    (r.write stream bytes).1 = (t.write stream bytes).1 ∧
      (r.write stream bytes).2.Agree (t.write stream bytes).2 := by
  obtain ⟨s, opened⟩ := r
  obtain ⟨t, opened'⟩ := t
  obtain rfl : opened = opened' := h.opened
  obtain ⟨journal, rfl : s = _⟩ := h.session.exists_journal
  by_cases hfile : ∃ handle, opened = some ⟨stream, handle⟩
  · obtain ⟨handle, rfl⟩ := hfile
    rw [write_to_file, write_to_file]
    exact ⟨rfl, ⟨rfl, rfl, rfl, rfl⟩, rfl⟩
  · have hown : ∀ handle, opened ≠ some ⟨stream, handle⟩ := not_exists.mp hfile
    rw [write_own _ _ _ hown, write_own _ _ _ hown]
    cases stream with
    | stdout => exact ⟨rfl, ⟨rfl, rfl, rfl, rfl⟩, rfl⟩
    | stderr => exact ⟨rfl, ⟨rfl, rfl, rfl, rfl⟩, rfl⟩

/-- A write to standard error whose refusal is only noted. -/
theorem Agree.write_noted {r t : Running ω ε} (h : r.Agree t) (bytes : Bytes)
    (event : Fault → Event) :
    Running.Agree
      (match r.write .stderr bytes with
        | (none, r) => r
        | (some fault, r) => r.modify (·.note (event fault)))
      (t.write .stderr bytes).2 := by
  have hwritten := (h.write .stderr bytes).2
  rcases hr : r.write .stderr bytes with ⟨_ | fault, r'⟩
  · rw [hr] at hwritten
    exact hwritten
  · rw [hr] at hwritten
    exact ⟨(r'.session.note_agree _).trans hwritten.session, hwritten.opened⟩

/-- Writing the line of a diagnostic is all that a session shows of it. -/
theorem Agree.diagnose {r t : Running ω ε} (h : r.Agree t) (d : Diagnostic) :
    (r.diagnose d).Agree (t.write .stderr d.line).2 := by
  have hnoted : (r.modify (·.note (.diagnosed d))).Agree t :=
    ⟨(r.session.note_agree _).trans h.session, h.opened⟩
  exact hnoted.write_noted d.line (.diagnosticLost d)

end Running

/-- A report is a write to the session's own error stream. -/
theorem Session.Agree.report {s t : Session ω ε} (h : s.Agree t) (d : Diagnostic) :
    (s.report d).Agree (t.writeErr d.line).2 :=
  (Running.Agree.diagnose (r := ⟨s, none⟩) (t := ⟨t, none⟩) ⟨h, rfl⟩ d).session

end LineShell
