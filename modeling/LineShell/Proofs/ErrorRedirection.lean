import LineShell.Proofs.Dispatch
import LineShell.Command.Line
import Mathlib.Control.Monad.Basic

/-! # Commands whose standard error goes to a file

Once such a command is carried out, its warnings, its diagnostics, and what its program
writes to standard error all go to the file, and the session's own error stream is left
alone.  There is one exception: output that the session's own stream refuses is reported on
the session's own error stream, whatever is redirected.
-/
namespace LineShell

/-- Writes chunks to an open file, one after the other. -/
def FileSystem.writeAll (fs : FileSystem) (h : Handle) : List Bytes → Handle × FileSystem
  | [] => (h, fs)
  | bytes :: rest =>
    let (_, h, fs) := fs.write h bytes
    fs.writeAll h rest

variable {ω ε : Type} [Writer ω] [Writer ε]

/-- Prints on the session's own output stream; a refusal is reported on its own error
stream. -/
def Session.print (s : Session ω ε) (out : Option Bytes) : Session ω ε :=
  match out with
  | none => s
  | some bytes =>
    match s.writeOut bytes with
    | (none, s) => s
    | (some fault, s) => (s.writeErr (Diagnostic.output fault).line).2

namespace Session

/-- Nothing is reported of output that is taken. -/
theorem print_err_of_accepted (s : Session ω ε) {out : Option Bytes}
    (h : ∀ bytes ∈ out, (s.writeOut bytes).1 = none) : (s.print out).err = s.err := by
  cases out with
  | none => rfl
  | some bytes =>
    have haccepted := h bytes rfl
    simp only [print]
    split
    · next s' heq =>
      have hs' : s' = (s.writeOut bytes).2 := by rw [heq]
      rw [hs']
      rfl
    · next heq =>
      rw [heq] at haccepted
      cases haccepted

/-- What is reported of output that is refused. -/
theorem print_of_refused (s : Session ω ε) {bytes : Bytes} {fault : Fault}
    (h : (s.writeOut bytes).1 = some fault) :
    s.print (some bytes) = ((s.writeOut bytes).2.writeErr (Diagnostic.output fault).line).2 := by
  rcases hwrite : s.writeOut bytes with ⟨refused, s'⟩
  rw [hwrite] at h
  obtain rfl : refused = some fault := h
  simp only [print, hwrite]

end Session

namespace Running

/-- What is said on standard output while standard error is redirected. -/
theorem say_stderr_redirected (s : Session ω ε) (handle : Handle) (bytes : Bytes) :
    Running.say ⟨s, some ⟨.stderr, handle⟩⟩ bytes =
      ⟨s.print (some bytes), some ⟨.stderr, handle⟩⟩ := by
  have hown : ∀ handle', some (Opened.mk .stderr handle) ≠ some ⟨.stdout, handle'⟩ := by
    intro handle' h
    cases h
  simp only [say, Session.print, write_own .stdout ⟨s, some ⟨.stderr, handle⟩⟩ bytes hown,
    Session.writeOwn]
  rcases s.writeOut bytes with ⟨_ | fault, s'⟩ <;> rfl

/-- Complaints go to the file and nowhere else. -/
theorem foldl_complain_stderr_redirected (chunks : List Bytes) (s : Session ω ε)
    (handle : Handle) :
    chunks.foldl complain ⟨s, some ⟨.stderr, handle⟩⟩ =
      let (handle, files) := s.files.writeAll handle chunks
      ⟨{ s with files }, some ⟨.stderr, handle⟩⟩ := by
  induction chunks generalizing s handle with
  | nil => rfl
  | cons bytes rest ih =>
    rw [List.foldl_cons, complain, write_to_file, ih]
    rfl

/-- Where everything goes while standard error is redirected. -/
theorem deliver_stderr_redirected (s : Session ω ε) (handle : Handle) (p : Performance) :
    (Running.deliver ⟨s, some ⟨.stderr, handle⟩⟩ p).session =
      { s.print p.out with files := ((s.print p.out).files.writeAll handle p.err).2 } := by
  have hprint : p.out.elim ⟨s, some ⟨.stderr, handle⟩⟩ (Running.say ⟨s, some ⟨.stderr, handle⟩⟩) =
      ⟨s.print p.out, some ⟨.stderr, handle⟩⟩ := by
    cases p.out with
    | none => rfl
    | some bytes => exact say_stderr_redirected s handle bytes
  rw [deliver, hprint, foldl_complain_stderr_redirected]

end Running

/-- **What a command with redirected standard error shows.**  All that it says there goes to
the file that was opened for it.  If its output is taken, or there is none, the session's
own error stream is left as it was; if its output is refused, that stream is written the
report of it and nothing else. -/
theorem Session.dispatch_stderr_redirected {s : Session ω ε} (launcher : Launcher) {c : Command}
    {path : String} {mode : WriteMode} {task : Task} {handle : Handle} {files : FileSystem}
    (hredirect : c.redirect = some ⟨.stderr, path, mode⟩)
    (htask : s.context.task? s.files c.verb = some task)
    (hopen : s.files.openFile mode (s.context.resolve (Path.ofString path)) =
      .ok (handle, files)) :
    let p := task.perform launcher (fun bytes => (files.write handle bytes).1) s.context files c
    let started := { s with context := p.context, files := p.files }
    let after := (s.dispatch launcher c).2
    after.files = ((started.print p.out).files.writeAll handle p.err).2 ∧
    ((∀ bytes ∈ p.out, (started.writeOut bytes).1 = none) → after.err = s.err) ∧
    (∀ bytes ∈ p.out, ∀ fault, (started.writeOut bytes).1 = some fault →
      after.err =
        ((started.writeOut bytes).2.writeErr (Diagnostic.output fault).line).2.err) := by
  intro p started after
  have htarget : s.context.openTarget s.files c.redirect = .ok (some ⟨.stderr, handle⟩, files) := by
    rw [hredirect]
    simp only [Context.openTarget, hopen]
  obtain ⟨-, hagree⟩ := dispatch_of_task launcher htask htarget
  simp only [Running.write_to_file, Running.deliver_stderr_redirected] at hagree
  have herr : after.err = (started.print p.out).err := hagree.err
  refine ⟨hagree.files, ?_, ?_⟩
  · intro haccepted
    rw [herr, started.print_err_of_accepted haccepted]
  · rintro bytes hbytes fault hrefused
    rw [herr, Option.mem_def.mp hbytes, started.print_of_refused hrefused]

/-- Without a home directory, `cd ~` leaves its warning and its diagnostic in the file. -/
theorem Session.dispatch_stderr_redirected_cd :
    let s : Session Sink Sink := ⟨⟨Path.ofString "/", none, []⟩, .empty, {}, {}, []⟩
    let launcher : Launcher := fun _ _ => .error (.system .noEntry)
    let c : Command := ⟨"cd", ["~"], some ⟨.stderr, "log", .overwrite⟩⟩
    let log : FileData :=
      ⟨FileSystem.fileMode, Text.utf8 "cd: HOME not set\ncd: ~: No such file or directory\n", none⟩
    (s.dispatch launcher c).2.err = s.err ∧
      (s.dispatch launcher c).2.files.file? [Text.utf8 "log"] = some log := by
  intro s launcher c log
  let files := FileSystem.empty.create [Text.utf8 "log"] { mode := FileSystem.fileMode, content := [] }
  have htask : s.context.task? s.files c.verb = some (.builtin .cd) := by decide +kernel
  have hopen : s.files.openFile .overwrite (s.context.resolve (Path.ofString "log")) =
      .ok (.within 0 0, files) := by decide +kernel
  obtain ⟨hfiles, herr, -⟩ := dispatch_stderr_redirected launcher rfl htask hopen
  refine ⟨herr ?_, ?_⟩
  · have hout : (Task.perform (.builtin .cd) launcher (fun bytes => (files.write (.within 0 0) bytes).1)
        s.context files c).out = none := by decide +kernel
    rw [hout]
    intro bytes hbytes
    cases hbytes
  · rw [hfiles]
    decide +kernel

/-- Output that finds no room is reported on the session's own error stream, though
`2>` sends standard error to a file that is open. -/
theorem Session.dispatch_stderr_redirected_full :
    let s : Session Sink Sink :=
      ⟨⟨Path.ofString "/", none, []⟩, .empty, { room := some 0 }, {}, []⟩
    let launcher : Launcher := fun _ _ => .error (.system .noEntry)
    let c := Command.ofLine "echo hi 2> err.txt"
    let files := FileSystem.empty.create [Text.utf8 "err.txt"]
      { mode := FileSystem.fileMode, content := [] }
    c.redirect = some ⟨.stderr, "err.txt", .overwrite⟩ ∧
      s.context.task? s.files c.verb = some (.builtin .echo) ∧
      s.files.openFile .overwrite (s.context.resolve (Path.ofString "err.txt")) =
        .ok (.within 0 0, files) ∧
      (s.dispatch launcher c).2.err.taken = Text.utf8 "write error: sink full\n" ∧
      (s.dispatch launcher c).2.files = files ∧
      s.err.taken = [] := by
  refine ⟨by decide +kernel, by decide +kernel, by decide +kernel, by decide +kernel, by decide +kernel, rfl⟩

end LineShell
