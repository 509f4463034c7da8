import LineShell.Proofs.Launches
import Mathlib.Control.Monad.Basic

/-! # Commands that are turned down

A command is turned down before anything is done for it: its verb stands for nothing, or the
file of its redirection cannot be opened.  Then a single line on the session's own error stream
says so, even if the command sends its standard error elsewhere, and the line is all there is:
no builtin has run, no program has been started, and no other file than one that the error
stream itself goes to has changed.  The verb comes first: if it stands for nothing, nobody
learns whether the file could have been opened.
-/
namespace LineShell

/-- No stream of this kind goes to a file. -/
def Writer.Detached (ω : Type) [Writer ω] : Prop :=
  ∀ (w : ω) (files : FileSystem), Writer.settle w files = (w, files)

theorem Sink.detached : Writer.Detached Sink := fun _ _ => rfl

variable {ω ε : Type} [Writer ω] [Writer ε]

namespace Session

/-- Nothing comes of the command but one line on the session's own error stream. -/
structure TurnsDown (s : Session ω ε) (launcher : Launcher) (c : Command) (message : String) :
    Prop where
  flow : (s.dispatch launcher c).1 = .proceed
  context : (s.dispatch launcher c).2.context = s.context
  out : (s.dispatch launcher c).2.out = s.out
  /-- The error stream is written the line, at once; what it goes to is settled. -/
  written : ((s.dispatch launcher c).2.err, (s.dispatch launcher c).2.files) =
    Writer.settle (Writer.write s.err (Text.utf8 (message ++ "\n"))).2 s.files
  /-- If the error stream goes to no file, then nothing has happened to the tree. -/
  files : Writer.Detached ε → (s.dispatch launcher c).2.files = s.files
  launches : (s.dispatch launcher c).2.launches = s.launches
  /-- What the programs of the machine would have done plays no part. -/
  unasked : ∀ other, s.dispatch other c = s.dispatch launcher c

/-- A command that cannot be prepared is turned down with the diagnostic that says why. -/
theorem turnsDown_of_prepare {s : Session ω ε} {c : Command} {d : Diagnostic}
    (hblank : c.isBlank = false) (h : s.context.prepare s.files c = .error d)
    (launcher : Launcher) : s.TurnsDown launcher c d.message := by
  obtain ⟨hflow, hagree⟩ := s.dispatch_respond launcher c
  have hrespond : s.respond launcher c = (.proceed, (s.writeErr d.line).2) := by
    simp only [respond, hblank, h]
    rfl
  rw [hrespond] at hflow hagree
  have hwritten : ((s.dispatch launcher c).2.err, (s.dispatch launcher c).2.files) =
      Writer.settle (Writer.write s.err d.line).2 s.files :=
    Prod.ext hagree.err hagree.files
  exact
    { flow := hflow
      context := hagree.context
      out := hagree.out
      written := hwritten
      files := by
        intro hdetached
        rw [hdetached] at hwritten
        exact congrArg Prod.snd hwritten
      launches := by
        rw [launches_dispatch, Context.launch?, h]
        rfl
      unasked := by
        intro other
        refine s.dispatch_congr c fun p hp => ?_
        rw [h] at hp
        cases hp }

/-- **Before a command is carried out** it fails as a whole.  A verb that is no builtin and is
not found is reported, whatever the redirection; a file that cannot be opened for a verb that
could be carried out is reported as it was typed. -/
theorem dispatch_turned_down (s : Session ω ε) (launcher : Launcher) {c : Command}
    (hblank : c.isBlank = false) :
    (Builtin.ofName? c.verb = none → s.context.findExecutable s.files c.verb = none →
      s.TurnsDown launcher c (c.verb ++ ": command not found")) ∧
    (∀ r fault, (Builtin.ofName? c.verb).isSome ∨
        (s.context.findExecutable s.files c.verb).isSome →
      c.redirect = some r →
      s.files.openFile r.mode (s.context.resolve (Path.ofString r.path)) = .error fault →
      s.TurnsDown launcher c (r.path ++ ": " ++ fault.message)) := by
  refine ⟨?_, ?_⟩
  · intro hname hfound
    have htask : s.context.task? s.files c.verb = none := by
      simp only [Context.task?, hname, hfound, Option.map_none]
    exact turnsDown_of_prepare hblank (Context.prepare_of_no_task htask) launcher
  · intro r fault hverb hredirect hopen
    obtain ⟨task, htask⟩ : ∃ task, s.context.task? s.files c.verb = some task := by
      simp only [Context.task?]
      cases hname : Builtin.ofName? c.verb with
      | some b => exact ⟨.builtin b, rfl⟩
      | none =>
        rw [hname, Option.isSome_none, Bool.false_eq_true, false_or] at hverb
        obtain ⟨program, hprogram⟩ := Option.isSome_iff_exists.mp hverb
        exact ⟨.program program, by rw [hprogram, Option.map_some]⟩
    exact turnsDown_of_prepare hblank (Context.prepare_of_unopened htask hredirect hopen) launcher

/-- In an empty tree `exit 3 2> a/b` does not end the interpreter and makes no file, and
`ls > a/b` is not found. -/
theorem dispatch_turned_down_exit :
    let s : Session Sink Sink := ⟨⟨Path.ofString "/", none, []⟩, .empty, {}, {}, []⟩
    let launcher : Launcher := fun _ _ => .error (.system .noEntry)
    let file : Stream → Redirect := fun stream => ⟨stream, "a/b", .overwrite⟩
    s.TurnsDown launcher ⟨"ls", [], some (file .stdout)⟩ "ls: command not found" ∧
      s.TurnsDown launcher ⟨"exit", ["3"], some (file .stderr)⟩
        "a/b: No such file or directory (os error 2)" ∧
      (s.dispatch launcher ⟨"exit", ["3"], some (file .stderr)⟩).2.files = .empty ∧
      (s.dispatch launcher ⟨"exit", ["3"], none⟩).1 = .exit 3 := by
  intro s launcher file
  obtain ⟨hls, -⟩ := dispatch_turned_down s launcher (c := ⟨"ls", [], some (file .stdout)⟩)
    (by decide)
  obtain ⟨-, hexit⟩ := dispatch_turned_down s launcher
    (c := ⟨"exit", ["3"], some (file .stderr)⟩) (by decide)
  have hturned := hexit (file .stderr) (.system .noEntry) (.inl (by decide +kernel)) rfl
    (by decide +kernel)
  exact ⟨hls (by decide +kernel) (by decide +kernel), hturned, hturned.files Sink.detached,
    by decide +kernel⟩

end Session
end LineShell
