import LineShell.Proofs.ErrorRedirection
import LineShell.Proofs.FileWriting
import LineShell.Proofs.Launches
import LineShell.Proofs.Reception

/-! # Where the output of a command goes

A command that is carried out produces bytes for standard output and bytes for standard error,
and neither depends on where they go (`Product`).  If everything takes what it is given, all of
them arrive, in order and once: those of a redirected stream in the file that was opened for
it, on the tree that the command has left, the others on the session's own streams.  A stream
that the command's output does not go to stays exactly as it was.
-/
namespace LineShell

/-! ## Products -/

/-- What a command produces, wherever that goes. -/
structure Product where
  /-- All that it says on standard output. -/
  out : Bytes
  /-- All that it says on standard error. -/
  err : Bytes
  /-- The tree that it leaves, but for what it says. -/
  files : FileSystem
  deriving DecidableEq, Repr

/-- What a builtin produces: the text that it prints, and its warnings followed by the line of
its diagnostic. -/
def Builtin.product (b : Builtin) (arguments : List String) (ctx : Context) (fs : FileSystem) :
    Product :=
  let (result, warnings) :=
    b.run (fun gathered bytes => (none, gathered ++ bytes)) arguments ctx fs []
  match result.answer with
  | .ok (.output text) => ⟨Text.utf8 text, warnings, fs⟩
  | .ok .silent | .ok (.exit _) => ⟨[], warnings, fs⟩
  | .error d => ⟨[], warnings ++ d.line, fs⟩

/-- What a program produces: what is caught of it, however it ended, or else the line that it
could not be started. -/
def Launcher.product (launcher : Launcher) (launch : Launch) (fs : FileSystem) : Product :=
  match launcher launch fs with
  | .ok (done, files) => ⟨done.out, done.err, files⟩
  | .error fault => ⟨[], (Diagnostic.spawn launch.name fault).line, fs⟩

/-- What a task produces. -/
def Task.product (task : Task) (launcher : Launcher) (ctx : Context) (fs : FileSystem)
    (c : Command) : Product :=
  match task with
  | .builtin b => b.product c.arguments ctx fs
  | .program path => launcher.product ⟨c.verb, path, c.arguments, ctx.cwd⟩ fs

/-- What a performance says, put together. -/
def Performance.product (p : Performance) : Product := ⟨p.out.getD [], p.err.flatten, p.files⟩

theorem Builtin.Result.performance_product (result : Builtin.Result) (files : FileSystem)
    (warned : List Bytes) :
    (result.performance files warned).product =
      match result.answer with
      | .ok (.output text) => ⟨Text.utf8 text, warned.flatten, files⟩
      | .ok .silent | .ok (.exit _) => ⟨[], warned.flatten, files⟩
      | .error d => ⟨[], warned.flatten ++ d.line, files⟩ := by
  obtain ⟨answer, context, events⟩ := result
  match answer with
  | .ok (.output text) | .ok .silent | .ok (.exit status) => rfl
  | .error d => simp [performance, Performance.product]

/-- A builtin whose warnings are taken says what it produces. -/
theorem Builtin.perform_product (b : Builtin) (arguments : List String) (ctx : Context)
    (fs : FileSystem) :
    (b.perform (fun _ => none) arguments ctx fs).product = b.product arguments ctx fs := by
  simp only [perform, product, run_eq, Result.performance_product]
  cases b.warning? arguments ctx with
  | none => rfl
  | some warning =>
    simp only [Option.bind_some, Option.toList_some, List.map_cons, List.map_nil,
      List.flatten_cons, List.flatten_nil, List.append_nil, List.nil_append]

/-- A task whose warnings are taken says what it produces. -/
theorem Task.perform_product (task : Task) (launcher : Launcher) (ctx : Context)
    (fs : FileSystem) (c : Command) :
    (task.perform launcher (fun _ => none) ctx fs c).product =
      task.product launcher ctx fs c := by
  cases task with
  | builtin b => exact b.perform_product c.arguments ctx fs
  | program path =>
    simp only [perform, product, Launcher.perform, Launcher.product]
    rcases launcher ⟨c.verb, path, c.arguments, ctx.cwd⟩ fs with fault | ⟨done, files⟩
    · simp [Performance.product]
    · simp [Performance.product]

/-- Writing chunks is writing all of them at once. -/
theorem FileSystem.writeAll_eq (fs : FileSystem) (h : Handle) (chunks : List Bytes) :
    fs.writeAll h chunks = (fs.write h chunks.flatten).2 := by
  induction chunks generalizing fs h with
  | nil =>
    rw [List.flatten_nil, write_nil]
    rfl
  | cons bytes rest ih =>
    rw [List.flatten_cons, write_append, ← ih]
    rfl

variable {ω ε : Type} [Receiver ω] [Receiver ε]

/-! ## Delivery to streams that take everything -/

namespace Session

omit [Receiver ε] in
theorem writeOut_unlimited [Writer ε] {s : Session ω ε} (h : Receiver.Unlimited s.out)
    (bytes : Bytes) :
    s.writeOut bytes = (none, { s with out := (Writer.write s.out bytes).2 }) := by
  obtain ⟨hfault, hafter, -⟩ := Receiver.write_unlimited h bytes
  simp only [writeOut, withOut, hfault, Receiver.settle_unlimited hafter]

omit [Receiver ω] in
theorem writeErr_unlimited [Writer ω] {s : Session ω ε} (h : Receiver.Unlimited s.err)
    (bytes : Bytes) :
    s.writeErr bytes = (none, { s with err := (Writer.write s.err bytes).2 }) := by
  obtain ⟨hfault, hafter, -⟩ := Receiver.write_unlimited h bytes
  simp only [writeErr, withErr, hfault, Receiver.settle_unlimited hafter]

end Session

namespace Running

/-- What is said while standard output is the session's own arrives there. -/
theorem said_own (s : Session ω ε) (opened : Option Opened) (h : Receiver.Unlimited s.out)
    (hown : ∀ handle, opened ≠ some ⟨.stdout, handle⟩) (said : Option Bytes) :
    ∃ out, said.elim ⟨s, opened⟩ (say ⟨s, opened⟩) = ⟨{ s with out }, opened⟩ ∧
      Receiver.received out = Receiver.received s.out ++ said.getD [] := by
  cases said with
  | none => exact ⟨s.out, rfl, (List.append_nil _).symm⟩
  | some bytes =>
    refine ⟨(Writer.write s.out bytes).2, ?_, (Receiver.write_unlimited h bytes).2.2⟩
    simp only [Option.elim_some, say, write_own .stdout ⟨s, opened⟩ bytes hown, Session.writeOwn,
      Session.writeOut_unlimited h]

omit [Receiver ω] [Receiver ε] in
/-- What is said while standard output goes to a file arrives in the file. -/
theorem said_to_file [Writer ω] [Writer ε] (s : Session ω ε) {handle : Handle}
    (hfull : handle ≠ .device .full) (said : Option Bytes) :
    said.elim ⟨s, some ⟨.stdout, handle⟩⟩ (say ⟨s, some ⟨.stdout, handle⟩⟩) =
      ⟨{ s with files := (s.files.write handle (said.getD [])).2.2 },
        some ⟨.stdout, (s.files.write handle (said.getD [])).2.1⟩⟩ := by
  cases said with
  | none =>
    rw [Option.getD_none, FileSystem.write_nil]
    rfl
  | some bytes =>
    simp only [Option.elim_some, say, write_to_file, FileSystem.write_fault hfull,
      Option.getD_some]

/-- Complaints while standard error is the session's own arrive there. -/
theorem complained_own (s : Session ω ε) (opened : Option Opened)
    (h : Receiver.Unlimited s.err) (hown : ∀ handle, opened ≠ some ⟨.stderr, handle⟩)
    (chunks : List Bytes) :
    ∃ err, chunks.foldl complain ⟨s, opened⟩ = ⟨{ s with err }, opened⟩ ∧
      Receiver.Unlimited err ∧
      Receiver.received err = Receiver.received s.err ++ chunks.flatten := by
  induction chunks generalizing s with
  | nil => exact ⟨s.err, rfl, h, (List.append_nil _).symm⟩
  | cons bytes rest ih =>
    have hfirst : complain ⟨s, opened⟩ bytes =
        ⟨{ s with err := (Writer.write s.err bytes).2 }, opened⟩ := by
      simp only [complain, write_own .stderr ⟨s, opened⟩ bytes hown, Session.writeOwn,
        Session.writeErr_unlimited h]
    obtain ⟨-, hafter, hreceived⟩ := Receiver.write_unlimited h bytes
    obtain ⟨err, hrest, hunlimited, herr⟩ :=
      ih { s with err := (Writer.write s.err bytes).2 } hafter
    refine ⟨err, by rw [List.foldl_cons, hfirst, hrest], hunlimited, ?_⟩
    rw [herr, hreceived, List.flatten_cons, List.append_assoc]

/-- No warning is refused. -/
theorem write_stderr_fault {s : Session ω ε} {opened : Option Opened}
    (h : Receiver.Unlimited s.err) (hfull : ∀ o ∈ opened, o.handle ≠ .device .full)
    (bytes : Bytes) : (Running.write .stderr ⟨s, opened⟩ bytes).1 = none := by
  by_cases hfile : ∃ handle, opened = some ⟨.stderr, handle⟩
  · obtain ⟨handle, rfl⟩ := hfile
    rw [write_to_file]
    exact FileSystem.write_fault (hfull _ rfl) s.files bytes
  · rw [write_own _ _ _ (not_exists.mp hfile)]
    exact congrArg Prod.fst (Session.writeErr_unlimited h bytes)

end Running

/-- Where a product goes: `after` is `s` with all of it delivered. -/
def Session.Routed (s : Session ω ε) (opened : Option Opened) (made : Product)
    (after : Session ω ε) : Prop :=
  match opened with
  | none =>
    Receiver.received after.out = Receiver.received s.out ++ made.out ∧
    Receiver.received after.err = Receiver.received s.err ++ made.err ∧
    after.files = made.files
  | some ⟨.stdout, handle⟩ =>
    after.out = s.out ∧
    Receiver.received after.err = Receiver.received s.err ++ made.err ∧
    after.files = (made.files.write handle made.out).2.2
  | some ⟨.stderr, handle⟩ =>
    Receiver.received after.out = Receiver.received s.out ++ made.out ∧
    after.err = s.err ∧
    after.files = (made.files.write handle made.err).2.2

namespace Session

/-- Delivering what a task says sends all of it where it has to go. -/
theorem deliver_routed {s : Session ω ε} {opened : Option Opened}
    (hout : Receiver.Unlimited s.out) (herr : Receiver.Unlimited s.err)
    (hfull : ∀ o ∈ opened, o.handle ≠ .device .full) (p : Performance) :
    s.Routed opened p.product (s.deliver opened p) := by
  simp only [deliver, Running.deliver]
  let moved : Session ω ε := { s with context := p.context, files := p.files }
  rcases opened with _ | ⟨_ | _, handle⟩
  case none =>
    obtain ⟨out, hsaid, hreceived⟩ := Running.said_own moved none hout (by simp) p.out
    obtain ⟨err, hcomplained, -, hreceived'⟩ :=
      Running.complained_own { moved with out } none herr (by simp) p.err
    rw [hsaid, hcomplained]
    exact ⟨hreceived, hreceived', rfl⟩
  case some.stdout =>
    let written := (p.files.write handle (p.out.getD [])).2
    obtain ⟨err, hcomplained, -, hreceived⟩ := Running.complained_own
      { moved with files := written.2 } (some ⟨.stdout, written.1⟩) herr (by simp) p.err
    rw [Running.said_to_file moved (hfull _ rfl), hcomplained]
    exact ⟨rfl, hreceived, rfl⟩
  case some.stderr =>
    obtain ⟨out, hsaid, hreceived⟩ :=
      Running.said_own moved (some ⟨.stderr, handle⟩) hout (by simp) p.out
    rw [hsaid, Running.foldl_complain_stderr_redirected, FileSystem.writeAll_eq]
    exact ⟨hreceived, rfl, rfl⟩

/-- **Output is neither lost nor doubled.**  A command whose verb stands for a task and whose
redirection can be opened sends what the task produces where the redirection says, once and in
order, if the session's own streams and the file take everything.  It starts a program if the
task is one, once, and asks for no other. -/
theorem dispatch_routed {s : Session ω ε} (launcher : Launcher) {c : Command} {task : Task}
    {opened : Option Opened} {files : FileSystem}
    (hout : Receiver.Unlimited s.out) (herr : Receiver.Unlimited s.err)
    (htask : s.context.task? s.files c.verb = some task)
    (hopen : s.context.openTarget s.files c.redirect = .ok (opened, files))
    (hfull : ∀ o ∈ opened, o.handle ≠ .device .full) :
    let after := (s.dispatch launcher c).2
    s.Routed opened (task.product launcher s.context files c) after ∧
    after.launches = (task.launch? s.context c).toList ++ s.launches ∧
    ∀ other : Launcher,
      (∀ launch ∈ task.launch? s.context c, other launch files = launcher launch files) →
      s.dispatch other c = s.dispatch launcher c := by
  intro after
  have hprepared : s.context.prepare s.files c = .ok ⟨task, opened, files⟩ :=
    Context.prepare_eq_ok_iff.mpr ⟨htask, hopen⟩
  refine ⟨?_, ?_, ?_⟩
  · obtain ⟨-, hagree⟩ := dispatch_of_task launcher htask hopen
    -- no warning is refused, so the task says what it produces
    have hrefusal : (fun bytes => (Running.write .stderr ⟨{ s with files }, opened⟩ bytes).1) =
        fun _ => none := by
      funext bytes
      exact Running.write_stderr_fault (s := { s with files }) herr hfull bytes
    rw [hrefusal] at hagree
    have hrouted := deliver_routed hout herr hfull
      (task.perform launcher (fun _ => none) s.context files c)
    rw [Task.perform_product] at hrouted
    obtain ⟨journal, hafter : after = _⟩ := hagree.exists_journal
    rw [hafter]
    exact hrouted
  · rw [launches_dispatch, Context.launch?, hprepared]
  · intro other hother
    refine s.dispatch_congr c fun p hp launch hlaunch => ?_
    rw [hprepared] at hp
    cases hp
    exact hother launch hlaunch

/-- A program that fails, with its output sent to a new file. -/
theorem dispatch_routed_program :
    let files := FileSystem.empty.create [Text.utf8 "p"] { mode := 0o755, content := [] }
    let s : Session Sink LineBuffered :=
      ⟨⟨Path.ofString "/", none, []⟩, files, {}, { sink := {} }, []⟩
    let launcher : Launcher := fun _ files =>
      .ok (⟨.exited 1, Text.utf8 "hi", Text.utf8 "no"⟩, files)
    let c : Command := ⟨"/p", ["x"], some ⟨.stdout, "log", .overwrite⟩⟩
    let after := (s.dispatch launcher c).2
    after.files.file? [Text.utf8 "log"] = some ⟨FileSystem.fileMode, Text.utf8 "hi", none⟩ ∧
      after.out = s.out ∧ after.err.all = Text.utf8 "no" ∧
      after.launches = [⟨"/p", Path.ofString "/p", ["x"], Path.ofString "/"⟩] := by
  intro files s launcher c after
  let log := files.create [Text.utf8 "log"] { mode := FileSystem.fileMode, content := [] }
  have htask : s.context.task? s.files c.verb = some (.program (Path.ofString "/p")) := by
    decide +kernel
  have hopen : s.context.openTarget s.files c.redirect =
      .ok (some ⟨.stdout, .within 1 0⟩, log) := by
    decide +kernel
  have hfull : ∀ o ∈ some (Opened.mk .stdout (.within 1 0)), o.handle ≠ .device .full := by
    rintro o ⟨⟩ h
    cases h
  obtain ⟨⟨hout, herr, hfiles⟩, hlaunches, -⟩ :=
    dispatch_routed launcher rfl rfl htask hopen hfull
  refine ⟨?_, hout, herr.trans ?_, hlaunches.trans ?_⟩
  · rw [hfiles]
    decide +kernel
  · decide +kernel
  · decide +kernel

end Session
end LineShell
