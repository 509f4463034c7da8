import LineShell.Proofs.CanonicalPaths
import LineShell.Proofs.Correspondence

/-! # Where a session is

A session can be given lines and commands, one after the other, for as long as one likes: none
of them stops it, and one that asks for the end of the interpreter merely says so.  All the way
its home directory and its search path stay what they were.  Its working directory changes
with a `cd` to an existing directory and with nothing else, and a session that starts at an
absolute path never leaves the absolute paths.
-/
namespace LineShell

/-- What a session is given to carry out. -/
inductive Step where
  /-- A line as it is typed. -/
  | line (text : String)
  /-- A command that has been read already. -/
  | command (c : Command)
  deriving DecidableEq, Repr

/-- The command of a step. -/
def Step.toCommand : Step → Command
  | .line text => Command.ofLine text
  | .command c => c

section
variable {ω ε : Type} [Writer ω] [Writer ε]

/-- Carries out a step. -/
def Session.take (launcher : Launcher) (s : Session ω ε) : Step → Flow × Session ω ε
  | .line text => s.executeLine launcher text
  | .command c => s.dispatch launcher c

/-- The session that is reached by some steps, whatever they ask for. -/
def Session.run (launcher : Launcher) (s : Session ω ε) (steps : List Step) : Session ω ε :=
  steps.foldl (fun s step => (s.take launcher step).2) s

/-- What a step comes to is what its command comes to. -/
theorem Session.take_respond (s : Session ω ε) (launcher : Launcher) (step : Step) :
    (s.take launcher step).1 = (s.respond launcher step.toCommand).1 ∧
      (s.take launcher step).2.Agree (s.respond launcher step.toCommand).2 := by
  cases step with
  | line text => exact s.executeLine_respond launcher text
  | command c => exact s.dispatch_respond launcher c

end

/-! ## What `cd` does to the context -/

namespace Context

/-- The target of a `cd` with a leading `~` written out, or as it was typed if the home
directory is not known. -/
def expanded (ctx : Context) (target : String) : String :=
  match expandTilde target ctx.home with
  | .ok expanded => expanded
  | .error _ => target

/-- The command is a `cd` with one argument whose redirection opens and whose target is then a
directory; `directory` is where it leads. -/
def Enters (ctx : Context) (fs : FileSystem) (c : Command) (directory : Path) : Prop :=
  ∃ target opened files m,
    c.verb = Builtin.cd.name ∧ c.arguments = [target] ∧
    ctx.openTarget fs c.redirect = .ok (opened, files) ∧
    files.metadata (ctx.resolve (Path.ofString (ctx.expanded target))) = .ok m ∧
    m.kind = .directory ∧
    directory = files.destination (ctx.resolve (Path.ofString (ctx.expanded target)))

theorem Enters.isAbsolute {ctx : Context} {fs : FileSystem} {c : Command} {directory : Path}
    (h : ctx.Enters fs c directory) (hcwd : ctx.cwd.isAbsolute = true) :
    directory.isAbsolute = true := by
  obtain ⟨target, opened, files, m, -, -, -, -, -, rfl⟩ := h
  refine files.isAbsolute_destination ?_
  rw [resolve, Path.isAbsolute_join, hcwd, Bool.or_true]

/-- A command enters one directory at most. -/
theorem Enters.unique {ctx : Context} {fs : FileSystem} {c : Command} {d d' : Path}
    (h : ctx.Enters fs c d) (h' : ctx.Enters fs c d') : d = d' := by
  obtain ⟨target, opened, files, m, -, harguments, hopen, -, -, rfl⟩ := h
  obtain ⟨target', opened', files', m', -, harguments', hopen', -, -, rfl⟩ := h'
  cases harguments.symm.trans harguments'
  cases hopen.symm.trans hopen'
  rfl

end Context

namespace Builtin

/-- A `cd` to a directory moves there. -/
theorem enter_context_of_directory {target : String} {ctx : Context} {fs : FileSystem}
    {m : Metadata} (h : fs.metadata (ctx.resolve (Path.ofString target)) = .ok m)
    (hkind : m.kind = .directory) :
    (enter target ctx fs).context =
      { ctx with cwd := fs.destination (ctx.resolve (Path.ofString target)) } := by
  simp only [enter, h, hkind, if_true]
  rfl

/-- A `cd` to anything else stays. -/
theorem enter_context_of_not {target : String} {ctx : Context} {fs : FileSystem}
    (h : ∀ m, fs.metadata (ctx.resolve (Path.ofString target)) = .ok m → m.kind ≠ .directory) :
    (enter target ctx fs).context = ctx := by
  simp only [enter]
  split
  · next m hm => rw [if_neg (h m hm)]
  · rfl

/-- A `cd` whose warning, if it has to warn, is taken. -/
theorem outcome_context_cd {target : String} {ctx : Context} {refused : Option Fault}
    (h : ∀ warning, expandTilde target ctx.home = .error warning → refused = none)
    (fs : FileSystem) :
    (cd.outcome [target] ctx fs refused).context =
      (enter (ctx.expanded target) ctx fs).context := by
  simp only [outcome, run, changeDirectory, Context.expanded]
  cases hexpanded : expandTilde target ctx.home with
  | ok expanded => rfl
  | error warning =>
    rw [h warning hexpanded]

/-- Nothing but a `cd` to one target moves. -/
theorem outcome_context (b : Builtin) (arguments : List String) (ctx : Context)
    (fs : FileSystem) (refused : Option Fault) :
    (b.outcome arguments ctx fs refused).context = ctx ∨
      ∃ target, b = cd ∧ arguments = [target] ∧
        (b.outcome arguments ctx fs refused).context =
          (enter (ctx.expanded target) ctx fs).context := by
  unfold outcome run
  split
  · exact .inl rfl
  · exact .inl rfl
  · split <;> exact .inl rfl
  · next target =>
    -- only a warning that is refused keeps it where it is
    by_cases hrefused : ∃ warning, expandTilde target ctx.home = .error warning ∧ refused ≠ none
    · obtain ⟨warning, hexpanded, hne⟩ := hrefused
      obtain ⟨fault, rfl⟩ := Option.ne_none_iff_exists'.mp hne
      refine .inl ?_
      simp only [changeDirectory, hexpanded]
    · refine .inr ⟨target, rfl, rfl, outcome_context_cd (fun warning hexpanded => ?_) fs⟩
      exact Classical.byContradiction fun hne => hrefused ⟨warning, hexpanded, hne⟩
  · exact .inl rfl
  · exact .inl rfl

end Builtin

variable {ω ε : Type} [Writer ω] [Writer ε]

/-! ## What a command does to the context -/

namespace Session

/-- The command has to warn that the home directory is not known, and the warning is
refused. -/
def WarningRefused (s : Session ω ε) (c : Command) : Prop :=
  ∃ p target warning fault,
    s.context.prepare s.files c = .ok p ∧ c.arguments = [target] ∧
    expandTilde target s.context.home = .error warning ∧ s.refusal p warning.line = some fault

/-- A command leaves the context alone, or it enters a directory. -/
theorem respond_context (s : Session ω ε) (launcher : Launcher) (c : Command) :
    (s.respond launcher c).2.context = s.context ∨
      ∃ directory, s.context.Enters s.files c directory ∧
        (s.respond launcher c).2.context = { s.context with cwd := directory } := by
  unfold respond
  split
  · exact .inl rfl
  · split
    · exact .inl rfl
    · next p hprepared =>
      obtain ⟨task, opened, files⟩ := p
      obtain ⟨htask, hopen⟩ := Context.prepare_eq_ok_iff.mp hprepared
      simp only [deliver_context, performance]
      cases task with
      | program path => exact .inl (launcher.perform_context path c s.context files)
      | builtin b =>
        simp only [Task.perform, Builtin.perform, Builtin.Result.performance_context]
        rcases b.outcome_context c.arguments s.context files _ with
          hstays | ⟨target, rfl, harguments, hmoves⟩
        · exact .inl hstays
        rw [hmoves]
        by_cases hdirectory : ∃ m, files.metadata (s.context.resolve
            (Path.ofString (s.context.expanded target))) = .ok m ∧ m.kind = .directory
        · obtain ⟨m, hm, hkind⟩ := hdirectory
          exact .inr ⟨_, ⟨target, opened, files, m, Context.verb_of_task_builtin htask, harguments,
            hopen, hm, hkind, rfl⟩, Builtin.enter_context_of_directory hm hkind⟩
        · exact .inl (Builtin.enter_context_of_not fun m hm hkind => hdirectory ⟨m, hm, hkind⟩)

/-- A command that enters a directory is there afterwards, unless its warning is refused. -/
theorem respond_context_of_enters {s : Session ω ε} (launcher : Launcher) {c : Command}
    {directory : Path} (h : s.context.Enters s.files c directory) (hwarning : ¬s.WarningRefused c) :
    (s.respond launcher c).2.context = { s.context with cwd := directory } := by
  obtain ⟨target, opened, files, m, hverb, harguments, hopen, hm, hkind, rfl⟩ := h
  have htask : s.context.task? s.files c.verb = some (.builtin .cd) := by
    rw [hverb, Context.task?_of_builtin (Builtin.ofName?_name _)]
  have hprepared : s.context.prepare s.files c = .ok ⟨.builtin .cd, opened, files⟩ :=
    Context.prepare_eq_ok_iff.mpr ⟨htask, hopen⟩
  simp only [respond, Context.isBlank_of_task htask, hprepared, Bool.false_eq_true, if_false,
    deliver_context, performance, Task.perform, Builtin.perform,
    Builtin.Result.performance_context, harguments]
  rw [Builtin.outcome_context_cd, Builtin.enter_context_of_directory hm hkind]
  intro warning hexpanded
  cases hrefused : s.refusal ⟨.builtin .cd, opened, files⟩ warning.line with
  | none => simp [Builtin.warning?, hexpanded, hrefused]
  | some fault =>
    exact absurd ⟨_, target, warning, fault, hprepared, harguments, hexpanded, hrefused⟩ hwarning

/-! ## One step, many steps -/

/-- A step leaves the context alone, or it enters a directory. -/
theorem take_context (s : Session ω ε) (launcher : Launcher) (step : Step) :
    (s.take launcher step).2.context = s.context ∨
      ∃ directory, s.context.Enters s.files step.toCommand directory ∧
        (s.take launcher step).2.context = { s.context with cwd := directory } := by
  rw [(s.take_respond launcher step).2.context]
  exact s.respond_context launcher step.toCommand

/-- What no step changes in a context, and what none loses. -/
structure Retains (s t : Session ω ε) : Prop where
  home : t.context.home = s.context.home
  searchPath : t.context.searchPath = s.context.searchPath
  absolute : s.context.cwd.isAbsolute = true → t.context.cwd.isAbsolute = true

theorem retains_take (s : Session ω ε) (launcher : Launcher) (step : Step) :
    s.Retains (s.take launcher step).2 := by
  rcases s.take_context launcher step with hstays | ⟨directory, henters, hmoves⟩
  · exact ⟨by rw [hstays], by rw [hstays], by rw [hstays]; exact id⟩
  · exact ⟨by rw [hmoves], by rw [hmoves], by rw [hmoves]; exact henters.isAbsolute⟩

omit [Writer ω] [Writer ε] in
theorem Retains.trans {s t u : Session ω ε} (h : s.Retains t) (h' : t.Retains u) : s.Retains u :=
  ⟨h'.home.trans h.home, h'.searchPath.trans h.searchPath, h'.absolute ∘ h.absolute⟩

theorem retains_run (s : Session ω ε) (launcher : Launcher) (steps : List Step) :
    s.Retains (s.run launcher steps) := by
  induction steps generalizing s with
  | nil => exact ⟨rfl, rfl, id⟩
  | cons step rest ih => exact (s.retains_take launcher step).trans (ih _)

/-- **What becomes of the context**, after any number of steps and with any step more: the home
directory and the search path stay as they were, and an absolute working directory stays
absolute.  The step changes the working directory only if it is a `cd` with one argument, an
open redirection and an existing directory for a target; and such a step goes where its target
leads, unless it has to warn before and stays because its warning is refused. -/
theorem run_context (s : Session ω ε) (launcher : Launcher) (steps : List Step) (step : Step) :
    let before := s.run launcher steps
    let after := (before.take launcher step).2
    s.Retains before ∧
    (after.context.cwd ≠ before.context.cwd →
      before.context.Enters before.files step.toCommand after.context.cwd) ∧
    ∀ directory, before.context.Enters before.files step.toCommand directory →
      after.context.cwd = directory ∨
        after.context.cwd = before.context.cwd ∧ before.WarningRefused step.toCommand := by
  intro before after
  have hretains := s.retains_run launcher steps
  rcases before.take_context launcher step with hstays | ⟨there, hthere, hmoves⟩
  · have hcwd : after.context.cwd = before.context.cwd := congrArg Context.cwd hstays
    refine ⟨hretains, fun hmoved => absurd hcwd hmoved, fun directory henters => ?_⟩
    by_cases hwarning : before.WarningRefused step.toCommand
    · exact .inr ⟨hcwd, hwarning⟩
    · have hcontext : after.context = _ := (before.take_respond launcher step).2.context
      rw [hcontext, respond_context_of_enters launcher henters hwarning]
      exact .inl rfl
  · have hcwd : after.context.cwd = there := congrArg Context.cwd hmoves
    refine ⟨hretains, fun _ => hcwd ▸ hthere, fun directory henters => ?_⟩
    exact .inl (hcwd.trans (hthere.unique henters))

/-- Behind an `exit` and a `cd` that cannot open its file, `cd ~ > log` enters the home
directory.  In a deep tree `cd z` enters a directory that has no canonical path, and keeps the
path that led there. -/
theorem run_context_home :
    let files := FileSystem.empty.put [Text.utf8 "a"] (.directory FileSystem.directoryMode)
    let home := some (Path.ofString "/a/")
    let s : Session Sink Sink := ⟨⟨Path.ofString "/", home, [Path.ofString "b"]⟩, files, {}, {}, []⟩
    let launcher : Launcher := fun _ _ => .error (.system .noEntry)
    let steps : List Step :=
      [.line "exit 3", .command ⟨"cd", ["a"], some ⟨.stderr, "a", .append⟩⟩]
    let step := Step.line "cd ~ > log"
    let deep : Session Sink Sink :=
      ⟨⟨FileSystem.deepDetour, none, []⟩, FileSystem.deepTree, {}, {}, []⟩
    let down := Step.command ⟨"cd", ["z"], none⟩
    let z := FileSystem.deepDetour.join (Path.ofString "z")
    (s.Retains (s.run launcher steps) ∧
      (s.run launcher steps).context.cwd = Path.ofString "/" ∧
      ((s.run launcher steps).take launcher step).2.context.cwd = Path.ofString "/a" ∧
      (s.run launcher steps).context.Enters (s.run launcher steps).files step.toCommand
        ((s.run launcher steps).take launcher step).2.context.cwd) ∧
    (∀ d, deep.files.canonical z ≠ .ok d) ∧ deep.context.Enters deep.files down.toCommand z ∧
      (deep.take launcher down).2.context.cwd = z := by
  intro files home s launcher steps step deep down z
  obtain ⟨hretains, hmoved, -⟩ := run_context s launcher steps step
  obtain ⟨-, -, harrives⟩ := run_context deep launcher [] down
  rw [run, List.foldl_nil] at harrives
  obtain ⟨-, hm, hcanonical⟩ := FileSystem.deepTree_z
  have hexpanded : deep.context.expanded "z" = "z" := by decide +kernel
  have henters : deep.context.Enters deep.files down.toCommand z := by
    let m : Metadata := ⟨.directory, FileSystem.directoryMode⟩
    refine ⟨"z", none, deep.files, m, rfl, rfl, rfl, ?_, rfl, ?_⟩
    · rw [hexpanded]
      exact hm
    · rw [hexpanded]
      exact (FileSystem.destination_of_no_canonical hcanonical).symm
  refine ⟨⟨hretains, by decide +kernel, by decide +kernel, hmoved (by decide +kernel)⟩, hcanonical,
    henters, (harrives z henters).resolve_right ?_⟩
  -- no warning has to be given
  rintro ⟨-, p, target, warning, fault, -, harguments, hwarning, -⟩
  cases harguments
  have hsilent : expandTilde "z" none = .ok "z" := by decide +kernel
  cases hsilent.symm.trans hwarning

end Session
end LineShell
