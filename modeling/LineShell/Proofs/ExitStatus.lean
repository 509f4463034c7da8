import LineShell.Program
import LineShell.Proofs.LineByLine
import Mathlib.Control.Monad.Basic

/-! # How the interpreter ends

The interpreter ends because a command asks for it, and only an `exit` with one argument does:
a flow other than going on comes from nothing that fails, be it a builtin, a redirection, a
program or a stream.  Nor is anything that fails in the way of it; what the streams do with the
diagnostic of an argument that is no number makes no difference (`Session.dispatch_flow_iff`).

With streams that never fail the read loop ends with the status that the first such command asks
for, or with 0 if there is none.  Such streams need not be without a file behind them, so it is
said of them what they do and not what they are: a state is faultless if nothing that can be done
to the stream from there on is refused.
-/
namespace LineShell

/-! ## Asking for the end -/

/-- The status that an argument of `exit` stands for. -/
def Builtin.statusOf (argument : String) : Int :=
  match Text.readInt32 argument.toList with
  | .ok status => status
  | .error _ => 1

/-- The command is an `exit` with one argument whose redirection opens; `status` is what it asks
to end with. -/
def Context.Exits (ctx : Context) (fs : FileSystem) (c : Command) (status : Int) : Prop :=
  ∃ argument opened files,
    c.verb = Builtin.exit.name ∧ c.arguments = [argument] ∧
    ctx.openTarget fs c.redirect = .ok (opened, files) ∧ status = Builtin.statusOf argument

namespace Builtin
variable {arguments : List String} {ctx : Context} {fs : FileSystem} {refused : Option Fault}

/-- What the answer of a builtin makes of the reading of lines. -/
def Result.flow (result : Result) : Flow :=
  match result.answer with
  | .ok (.exit status) => .exit status
  | .ok (.output _) => .proceed
  | .ok .silent => .proceed
  | .error d => (d.exitStatus?.map Flow.exit).getD .proceed

theorem Result.performance_flow (result : Result) (files : FileSystem) (warned : List Bytes) :
    (result.performance files warned).flow = result.flow := by
  obtain ⟨answer, context, events⟩ := result
  rcases answer with d | _ | _ | status <;> rfl

/-- An `exit` with one argument ends the interpreter, whether the argument is a number or not. -/
theorem flow_exit (argument : String) :
    (exit.outcome [argument] ctx fs refused).flow = .exit (statusOf argument) := by
  simp only [outcome, run, statusOf]
  cases Text.readInt32 argument.toList <;> rfl

/-- With any other number of arguments it does not. -/
theorem flow_exit_of_ne (h : ∀ argument, arguments ≠ [argument]) :
    (exit.outcome arguments ctx fs refused).flow = .proceed := by
  rcases arguments with _ | ⟨argument, _ | ⟨_, _⟩⟩
  · rfl
  · exact absurd rfl (h argument)
  · rfl

/-- A `cd` never ends the interpreter: what is wrong with its target, or with the stream of its
warning, is no reason. -/
theorem flow_cd : (cd.outcome arguments ctx fs refused).flow = .proceed := by
  have henter : ∀ target, (enter target ctx fs).flow = .proceed := by
    intro target
    simp only [enter]
    split
    · split <;> rfl
    · rfl
  rcases arguments with _ | ⟨target, _ | ⟨_, _⟩⟩
  · rfl
  · simp only [outcome, run, changeDirectory]
    cases expandTilde target ctx.home with
    | ok expanded => exact henter expanded
    | error warning =>
      cases refused with
      | none => exact henter target
      | some fault => rfl
  · rfl

/-- **Only `exit` ends the interpreter**, and it does so with one argument only. -/
theorem flow_outcome_iff {b : Builtin} {status : Int} :
    (b.outcome arguments ctx fs refused).flow = .exit status ↔
      b = exit ∧ ∃ argument, arguments = [argument] ∧ status = statusOf argument := by
  cases b with
  | exit =>
    by_cases h : ∃ argument, arguments = [argument]
    · obtain ⟨argument, rfl⟩ := h
      rw [flow_exit]
      simp [eq_comm]
    · rw [flow_exit_of_ne (not_exists.mp h)]
      simp only [reduceCtorEq, true_and, false_iff]
      rintro ⟨argument, rfl, -⟩
      exact h ⟨argument, rfl⟩
  | cd => simp [flow_cd]
  | echo | pwd => simp [outcome, run, Result.flow]
  | type =>
    rcases arguments with _ | ⟨name, _ | ⟨_, _⟩⟩ <;>
      simp [outcome, run, Result.flow, Diagnostic.exitStatus?]

end Builtin

namespace Context
variable {ctx : Context} {fs : FileSystem} {c : Command}

/-- Nothing turns such a command down. -/
theorem Exits.exists_prepare {status : Int} (h : ctx.Exits fs c status) :
    ∃ p, ctx.prepare fs c = .ok p := by
  obtain ⟨argument, opened, files, hverb, -, hopen, -⟩ := h
  have htask : ctx.task? fs c.verb = some (.builtin .exit) := by
    rw [hverb]
    exact task?_of_builtin (Builtin.ofName?_name .exit)
  exact ⟨⟨.builtin .exit, opened, files⟩, prepare_eq_ok_iff.mpr ⟨htask, hopen⟩⟩

end Context

/-! ## Commands and lines -/

namespace Session

section
variable {ω ε : Type} [Writer ω] [Writer ε]

/-- A command that is carried out ends the interpreter exactly if it asks for that. -/
theorem performance_flow_iff {s : Session ω ε} (launcher : Launcher) {c : Command} {p : Prepared}
    (h : s.context.prepare s.files c = .ok p) {status : Int} :
    (s.performance launcher c p).flow = .exit status ↔ s.context.Exits s.files c status := by
  obtain ⟨htask, hopen⟩ := Context.prepare_eq_ok_iff.mp h
  obtain ⟨task, opened, files⟩ := p
  cases task with
  | builtin b =>
    have hverb : c.verb = b.name := Context.verb_of_task_builtin htask
    rw [performance, Task.perform, Builtin.perform, Builtin.Result.performance_flow,
      Builtin.flow_outcome_iff]
    constructor
    · rintro ⟨rfl, argument, hargument, rfl⟩
      exact ⟨argument, opened, files, hverb, hargument, hopen, rfl⟩
    · rintro ⟨argument, -, -, hexit, hargument, -, rfl⟩
      have hname := congrArg Builtin.ofName? (hverb.symm.trans hexit)
      rw [Builtin.ofName?_name, Builtin.ofName?_name, Option.some_inj] at hname
      exact ⟨hname, argument, hargument, rfl⟩
  | program program =>
    have hverb : c.verb ≠ Builtin.exit.name := by
      intro hexit
      rw [hexit, Context.task?_of_builtin (Builtin.ofName?_name .exit)] at htask
      cases htask
    rw [performance, Task.perform, Launcher.perform_flow]
    constructor
    · rintro ⟨⟩
    · rintro ⟨-, -, -, hexit, -⟩
      exact absurd hexit hverb

/-- What a command comes to ends the interpreter exactly if it asks for that. -/
theorem respond_flow_iff (s : Session ω ε) (launcher : Launcher) (c : Command) (status : Int) :
    (s.respond launcher c).1 = .exit status ↔ s.context.Exits s.files c status := by
  by_cases hblank : c.isBlank = true
  · have hnot : ¬s.context.Exits s.files c status := by
      intro h
      obtain ⟨p, hp⟩ := h.exists_prepare
      rw [Context.isBlank_of_task (Context.prepare_eq_ok_iff.mp hp).1] at hblank
      cases hblank
    simp [respond, hblank, hnot]
  rw [Bool.not_eq_true] at hblank
  cases hprepared : s.context.prepare s.files c with
  | error d =>
    have hnot : ¬s.context.Exits s.files c status := by
      intro h
      obtain ⟨p, hp⟩ := h.exists_prepare
      rw [hprepared] at hp
      cases hp
    simp [respond, hblank, hprepared, hnot]
  | ok p =>
    simp only [respond, hblank, hprepared]
    exact s.performance_flow_iff launcher hprepared

/-- **A command ends the interpreter exactly if it asks for that**, whatever the streams do. -/
theorem dispatch_flow_iff (s : Session ω ε) (launcher : Launcher) (c : Command) (status : Int) :
    (s.dispatch launcher c).1 = .exit status ↔ s.context.Exits s.files c status := by
  rw [(s.dispatch_respond launcher c).1, s.respond_flow_iff launcher c status]

/-- So does a line. -/
theorem executeLine_flow_iff (s : Session ω ε) (launcher : Launcher) (line : String)
    (status : Int) :
    (s.executeLine launcher line).1 = .exit status ↔
      s.context.Exits s.files (Command.ofLine line) status := by
  rw [(s.executeLine_respond launcher line).1, s.respond_flow_iff launcher _ status]

end

end Session

/-- A flow goes on unless it ends with some status. -/
theorem Flow.eq_proceed_iff {flow : Flow} : flow = .proceed ↔ ∀ status, flow ≠ .exit status := by
  cases flow with
  | proceed => simp
  | exit status => simp

/-! ## Streams that never fail -/

/-- From now on nothing that is done to the stream is refused. -/
def Writer.Faultless {ω : Type} [Writer ω] (w : ω) : Prop :=
  ∃ P : ω → Prop, P w ∧ ∀ w, P w →
    (∀ bytes, (write w bytes).1 = none ∧ P (write w bytes).2) ∧
    ((flush w).1 = none ∧ P (flush w).2) ∧
    ∀ files, P (settle w files).1

namespace Writer.Faultless
variable {ω : Type} [Writer ω] {w : ω}

theorem write (h : Faultless w) (bytes : Bytes) :
    (Writer.write w bytes).1 = none ∧ Faultless (Writer.write w bytes).2 := by
  obtain ⟨P, hw, hP⟩ := h
  obtain ⟨hfault, hafter⟩ := (hP w hw).1 bytes
  exact ⟨hfault, P, hafter, hP⟩

theorem flush (h : Faultless w) :
    (Writer.flush w).1 = none ∧ Faultless (Writer.flush w).2 := by
  obtain ⟨P, hw, hP⟩ := h
  obtain ⟨hfault, hafter⟩ := (hP w hw).2.1
  exact ⟨hfault, P, hafter, hP⟩

theorem settle (h : Faultless w) (files : FileSystem) : Faultless (Writer.settle w files).1 := by
  obtain ⟨P, hw, hP⟩ := h
  exact ⟨P, (hP w hw).2.2 files, hP⟩

theorem keeps : Writer.Keeps fun w w' : ω => w = w' ∧ Faultless w :=
  Writer.keeps_eq_of (fun _ h bytes => (h.write bytes).2) fun _ h files => h.settle files

end Writer.Faultless

/-- A stream that accepts everything is one. -/
theorem Receiver.Accepts.faultless {ω : Type} [Receiver ω] {w : ω} (h : Accepts w) :
    Writer.Faultless w := by
  refine ⟨Accepts, h, fun w h => ⟨fun bytes => ?_, ?_, fun files => ?_⟩⟩
  · exact ⟨(write_unlimited h.1 bytes).1, accepts_write h bytes⟩
  · obtain ⟨hfault, hunlimited, hflushable, -⟩ := flush_unlimited h.1 h.2
    exact ⟨hfault, hunlimited, hflushable⟩
  · exact (settle_unlimited h.1 files).symm ▸ h

/-- So is a stream over a sink without a limit, even if there is a file behind it. -/
theorem Stored.faultless {w : Stored} (h : w.stream.sink.room = none) : Writer.Faultless w := by
  refine ⟨fun w => w.stream.sink.room = none, h, fun w h => ⟨fun bytes => ?_, ?_, fun files => ?_⟩⟩
  · obtain ⟨hfault, hafter, -⟩ := Receiver.write_unlimited (w := w.stream) h bytes
    exact ⟨hfault, hafter⟩
  · obtain ⟨hfault, hafter, -⟩ := Receiver.flush_unlimited (w := w.stream) h trivial
    exact ⟨hfault, hafter⟩
  · change (w.settle files).1.stream.sink.room = none
    unfold Stored.settle
    split
    · exact h
    · exact h

/-! ## Sessions that never fail -/

/-- Neither stream ever fails. -/
structure Session.Faultless {ω ε : Type} [Writer ω] [Writer ε] (s : Session ω ε) : Prop where
  out : Writer.Faultless s.out
  err : Writer.Faultless s.err

section
variable {ω ε : Type} [Writer ω] [Writer ε]

namespace Session.Faultless
variable {s : Session ω ε}

theorem writeOut (h : s.Faultless) (bytes : Bytes) :
    (s.writeOut bytes).1 = none ∧ (s.writeOut bytes).2.Faultless := by
  obtain ⟨hfault, hafter⟩ := h.out.write bytes
  exact ⟨hfault, hafter.settle s.files, h.err⟩

theorem writeErr (h : s.Faultless) (bytes : Bytes) : (s.writeErr bytes).2.Faultless :=
  ⟨h.out, (h.err.write bytes).2.settle s.files⟩

theorem flushOut (h : s.Faultless) : s.flushOut.1 = none ∧ s.flushOut.2.Faultless := by
  obtain ⟨hfault, hafter⟩ := h.out.flush
  exact ⟨hfault, hafter.settle s.files, h.err⟩

theorem flushErr (h : s.Faultless) : s.flushErr.1 = none := h.err.flush.1

theorem note (h : s.Faultless) (e : Event) : (s.note e).Faultless := ⟨h.out, h.err⟩

/-- No line makes a stream fail. -/
theorem executeLine (h : s.Faultless) (launcher : Launcher) (line : String) :
    (s.executeLine launcher line).2.Faultless := by
  have hs : s.Corresponds (fun w w' => w = w' ∧ Writer.Faultless w)
      (fun w w' => w = w' ∧ Writer.Faultless w) s := ⟨rfl, rfl, ⟨rfl, h.out⟩, rfl, h.err⟩
  obtain ⟨-, hafter⟩ := hs.executeLine Writer.Faultless.keeps Writer.refuseAlike_eq_of
    Writer.Faultless.keeps launcher line fun _ _ => rfl
  exact ⟨hafter.out.2, hafter.err.2⟩

/-- A prompt is never refused. -/
theorem prompt (h : s.Faultless) (text : String) :
    ∃ t, ReadLoop.prompt s text = (none, t) ∧ t.Faultless := by
  obtain ⟨hwritten, hafter⟩ := h.writeOut (Text.utf8 text)
  rcases hw : s.writeOut (Text.utf8 text) with ⟨fault, t⟩
  rw [hw] at hwritten hafter
  obtain rfl : fault = none := hwritten
  obtain ⟨hflushed, hafter⟩ := hafter.flushOut
  refine ⟨t.flushOut.2, ?_, hafter⟩
  simp only [ReadLoop.prompt, hw]
  exact Prod.ext hflushed rfl

/-- The status that the loop ends with is the one that it has been told. -/
theorem finish (h : s.Faultless) (status : Int) : (ReadLoop.finish s status).1 = .ok status := by
  obtain ⟨hflushed, hafter⟩ := h.flushOut
  rcases hs : s.flushOut with ⟨fault, t⟩
  rw [hs] at hflushed hafter
  obtain rfl : fault = none := hflushed
  have hflushed' := hafter.flushErr
  rcases ht : t.flushErr with ⟨fault, u⟩
  rw [ht] at hflushed'
  obtain rfl : fault = none := hflushed'
  simp only [ReadLoop.finish, hs, ht]

/-- At the end of the input it is 0. -/
theorem atEnd (h : s.Faultless) : (ReadLoop.atEnd none s).1 = .ok 0 := by
  obtain ⟨t, hprompt, ht⟩ := (h.note .inputEnded).prompt "\n"
  simp only [ReadLoop.atEnd, hprompt]
  exact ht.finish 0

end Session.Faultless

/-! ## The first line that asks for the end -/

namespace ReadLoop

/-- The session behind some lines and the prompt that follows them, whatever these lines ask
for. -/
def arrival (launcher : Launcher) (promptText : String) (s : Session ω ε) (lines : List Bytes) :
    Session ω ε :=
  let carryOut (s : Session ω ε) (line : Bytes) :=
    ((prompt s promptText).2.executeLine launcher (Text.lossyString line)).2
  (prompt (lines.foldl carryOut s) promptText).2

/-- The line number `i` asks, where the loop has come by then, to end with `status`. -/
def ExitsAt (launcher : Launcher) (promptText : String) (s : Session ω ε) (lines : List Bytes)
    (i : Nat) (status : Int) : Prop :=
  ∃ line, lines[i]? = some line ∧
    let t := arrival launcher promptText s (lines.take i)
    t.context.Exits t.files (Command.ofLine (Text.lossyString line)) status

/-- The first line that asks for the end asks for `status`; or no line does, and the status
is 0. -/
def Concludes (launcher : Launcher) (promptText : String) (s : Session ω ε) (lines : List Bytes)
    (status : Int) : Prop :=
  (∃ i, ExitsAt launcher promptText s lines i status ∧
    ∀ j < i, ∀ n, ¬ExitsAt launcher promptText s lines j n) ∨
  (∀ i n, ¬ExitsAt launcher promptText s lines i n) ∧ status = 0

section
variable {launcher : Launcher} {promptText : String} {s t u : Session ω ε} {line : Bytes}
variable {rest : List Bytes} {status : Int}

theorem concludes_nil : Concludes launcher promptText s [] status ↔ status = 0 := by
  simp [Concludes, ExitsAt]

theorem exitsAt_cons_zero (h : prompt s promptText = (none, t)) :
    ExitsAt launcher promptText s (line :: rest) 0 status ↔
      t.context.Exits t.files (Command.ofLine (Text.lossyString line)) status := by
  simp [ExitsAt, arrival, h]

theorem exitsAt_cons_succ (h : prompt s promptText = (none, t)) (i : Nat) :
    ExitsAt launcher promptText s (line :: rest) (i + 1) status ↔
      ExitsAt launcher promptText (t.executeLine launcher (Text.lossyString line)).2 rest i
        status := by
  simp [ExitsAt, arrival, h]

/-- A line asks for the end, or those behind it decide. -/
theorem concludes_cons (h : prompt s promptText = (none, t)) :
    Concludes launcher promptText s (line :: rest) status ↔
      t.context.Exits t.files (Command.ofLine (Text.lossyString line)) status ∨
      (∀ n, ¬t.context.Exits t.files (Command.ofLine (Text.lossyString line)) n) ∧
        Concludes launcher promptText (t.executeLine launcher (Text.lossyString line)).2 rest
          status := by
  constructor
  · rintro (⟨i, hi, hbefore⟩ | ⟨hnone, rfl⟩)
    · cases i with
      | zero => exact .inl ((exitsAt_cons_zero h).mp hi)
      | succ i =>
        refine .inr ⟨fun n hn => ?_, .inl ⟨i, (exitsAt_cons_succ h i).mp hi, fun j hj n hn => ?_⟩⟩
        · exact hbefore 0 (Nat.succ_pos i) n ((exitsAt_cons_zero h).mpr hn)
        · exact hbefore (j + 1) (Nat.succ_lt_succ hj) n ((exitsAt_cons_succ h j).mpr hn)
    · refine .inr ⟨fun n hn => ?_, .inr ⟨fun i n hn => ?_, rfl⟩⟩
      · exact hnone 0 n ((exitsAt_cons_zero h).mpr hn)
      · exact hnone (i + 1) n ((exitsAt_cons_succ h i).mpr hn)
  · rintro (hfirst | ⟨hnot, ⟨i, hi, hbefore⟩ | ⟨hnone, rfl⟩⟩)
    · exact .inl ⟨0, (exitsAt_cons_zero h).mpr hfirst, fun j hj => absurd hj (Nat.not_lt_zero j)⟩
    · refine .inl ⟨i + 1, (exitsAt_cons_succ h i).mpr hi, fun j hj n hn => ?_⟩
      cases j with
      | zero => exact hnot n ((exitsAt_cons_zero h).mp hn)
      | succ j => exact hbefore j (Nat.lt_of_succ_lt_succ hj) n ((exitsAt_cons_succ h j).mp hn)
    · refine .inr ⟨fun i n hn => ?_, rfl⟩
      cases i with
      | zero => exact hnot n ((exitsAt_cons_zero h).mp hn)
      | succ i => exact hnone i n ((exitsAt_cons_succ h i).mp hn)

end

/-- **The loop ends with what the first line asks for that asks for the end**, or with 0. -/
theorem readLines_status (launcher : Launcher) (promptText : String) (lines : List Bytes)
    {s : Session ω ε} (h : s.Faultless) :
    ∃ status, (readLines launcher promptText none lines s).1 = .ok status ∧
      ∀ n, Concludes launcher promptText s lines n ↔ n = status := by
  induction lines generalizing s with
  | nil =>
    obtain ⟨t, hprompt, ht⟩ := h.prompt promptText
    exact ⟨0, by rw [readLines_nil hprompt, ht.atEnd], fun n => concludes_nil⟩
  | cons line rest ih =>
    obtain ⟨t, hprompt, ht⟩ := h.prompt promptText
    have hflow := t.executeLine_flow_iff launcher (Text.lossyString line)
    have hafter := ht.executeLine launcher (Text.lossyString line)
    rcases hline : t.executeLine launcher (Text.lossyString line) with ⟨_ | status, u⟩
    · simp only [hline, reduceCtorEq, false_iff] at hflow hafter
      obtain ⟨status, hread, hstatus⟩ := ih hafter
      refine ⟨status, by rw [readLines_of_proceed hprompt hline, hread], fun n => ?_⟩
      rw [concludes_cons hprompt, hline, ← hstatus n]
      simp [hflow]
    · simp only [hline, Flow.exit.injEq] at hflow hafter
      refine ⟨status, by rw [readLines_of_exit hprompt hline, hafter.finish], fun n => ?_⟩
      rw [concludes_cons hprompt, ← hflow n, eq_comm, or_iff_left]
      rintro ⟨hnot, -⟩
      exact hnot status ((hflow status).mp rfl)

end ReadLoop

end
/-! ## The process -/

namespace Program

/-- The session that the read loop of a process starts with. -/
def opening (w : Surroundings) : Session Stored Sink :=
  let settings := Settings.ofEnvironment w.environment
  let (out, files) := standardOutput w.files w.stdout
  let s : Session Stored Sink := { context := Context.fallback, files, out, err := {} }
  start w (s.note (.thresholdSet settings.threshold))

/-- Standard output is the only stream of a process that can fail. -/
theorem faultless_opening {w : Surroundings}
    (h : Writer.Faultless (standardOutput w.files w.stdout).1) : (opening w).Faultless := by
  let s : Session Stored Sink :=
    { context := Context.fallback
      files := (standardOutput w.files w.stdout).2
      out := (standardOutput w.files w.stdout).1
      err := {} }
  have hs : s.Faultless := ⟨h, Receiver.Accepts.faultless ⟨rfl, rfl⟩⟩
  simp only [opening, start]
  split
  · exact ⟨hs.out, hs.err⟩
  · exact ⟨hs.out, ((hs.note _).writeErr _).err⟩

/-- It does not, unless it is the device that is always full. -/
theorem faultless_standardOutput (files : FileSystem) {path : Option Path}
    (h : ∀ p after, path = some p → files.openFile .append p ≠ .ok (.device .full, after)) :
    Writer.Faultless (standardOutput files path).1 := by
  apply Stored.faultless
  unfold standardOutput
  split
  · next after hopen =>
    obtain ⟨p, hp, hfull⟩ := Option.map_eq_some_iff.mp hopen
    exact absurd hfull (h p after hp)
  all_goals rfl

/-- The process ends with the status of its loop, as the system sees it. -/
theorem run_status (launcher : Launcher) (w : Surroundings) {status : Int}
    (h : (ReadLoop.run launcher (Settings.ofEnvironment w.environment) w.input (opening w)).1 =
      .ok status) : ((run launcher w).status : Int) = status % 256 := by
  have hrun : (run launcher w).status = statusByte status := by
    simp only [opening] at h
    simp only [run, h]
  rw [hrun, statusByte, Int.toNat_of_nonneg (Int.emod_nonneg status (by decide))]

/-- **The interpreter ends exactly as it is asked to.**  A command that is carried out in any
state, with any streams, ends it with a status exactly if it asks for that one, and otherwise the
reading of lines goes on.  So with streams that never fail the status of the read loop is what the
first line asks for that asks for the end, where the loop has come by then, and 0 if there is no
such line; and the status of the process is the same modulo 256. -/
theorem ends_as_asked :
    (∀ {ω ε : Type} [Writer ω] [Writer ε] (s : Session ω ε) (launcher : Launcher) (c : Command),
      (∀ n, (s.dispatch launcher c).1 = .exit n ↔ s.context.Exits s.files c n) ∧
      ((s.dispatch launcher c).1 = .proceed ↔ ∀ n, ¬s.context.Exits s.files c n)) ∧
    (∀ {ω ε : Type} [Writer ω] [Writer ε] (s : Session ω ε) (launcher : Launcher)
      (settings : Settings) (bytes : Bytes) (lines : List Bytes),
      s.Faultless → IsCut bytes lines →
      ∃ status, (ReadLoop.run launcher settings ⟨bytes, none⟩ s).1 = .ok status ∧
        ∀ n, ReadLoop.Concludes launcher settings.prompt s lines n ↔ n = status) ∧
    ∀ (launcher : Launcher) (w : Surroundings) (lines : List Bytes),
      Writer.Faultless (standardOutput w.files w.stdout).1 → w.input.failure = none →
      IsCut w.input.bytes lines →
      ∃ status, ((run launcher w).status : Int) = status % 256 ∧
        ∀ n, ReadLoop.Concludes launcher (Settings.ofEnvironment w.environment).prompt (opening w)
          lines n ↔ n = status := by
  have hloop : ∀ {ω ε : Type} [Writer ω] [Writer ε] (s : Session ω ε) (launcher : Launcher)
      (settings : Settings) (bytes : Bytes) (lines : List Bytes),
      s.Faultless → IsCut bytes lines →
      ∃ status, (ReadLoop.run launcher settings ⟨bytes, none⟩ s).1 = .ok status ∧
        ∀ n, ReadLoop.Concludes launcher settings.prompt s lines n ↔ n = status := by
    intro ω ε _ _ s launcher settings bytes lines h hcut
    simp only [ReadLoop.run, Input.lines_of_isCut hcut]
    exact ReadLoop.readLines_status launcher settings.prompt lines h
  refine ⟨fun s launcher c => ?_, hloop, fun launcher w lines hout hfailure hcut => ?_⟩
  · have hexit := s.dispatch_flow_iff launcher c
    refine ⟨hexit, ?_⟩
    rw [Flow.eq_proceed_iff]
    exact forall_congr' fun n => not_congr (hexit n)
  · have hinput : w.input = ⟨w.input.bytes, none⟩ := by rw [← hfailure]
    obtain ⟨status, hrun, hstatus⟩ := hloop (opening w) launcher
      (Settings.ofEnvironment w.environment) w.input.bytes lines (faultless_opening hout) hcut
    rw [← hinput] at hrun
    exact ⟨status, run_status launcher w hrun, hstatus⟩

/-- The first `exit` has too many arguments, the second asks for -1, and the third is not read.
Streams that refuse everything keep nobody from leaving with a wrong status. -/
theorem ends_as_asked_second :
    let launcher : Launcher := fun _ _ => .error (.system .noEntry)
    let w : Surroundings :=
      { environment := [(Settings.promptVariable, Text.utf8 "> ")]
        directory := .ok (Path.ofString "/"), files := .empty
        input := ⟨Text.utf8 "exit 1 2\nexit -1 2> f\nexit 3", none⟩
        stamp := ⟨1, ""⟩ }
    let lines := w.input.lines
    let full : Sink := { room := some 0, flushRefusal := some (.system .noSpace) }
    let s : Session Sink Sink := ⟨Context.fallback, .empty, full, full, []⟩
    (s.dispatch launcher ⟨"exit", ["one"], none⟩).1 = .exit 1 ∧
      (s.dispatch launcher ⟨"exit", ["1", "2"], none⟩).1 = .proceed ∧
      IsCut w.input.bytes lines ∧ lines.length = 3 ∧
      ReadLoop.Concludes launcher "> " (opening w) lines (-1) ∧ (run launcher w).status = 255 := by
  intro launcher w lines full s
  obtain ⟨hdispatch, hloop, hprocess⟩ := ends_as_asked
  have hexits : s.context.Exits s.files ⟨"exit", ["one"], none⟩ 1 :=
    ⟨"one", none, .empty, rfl, rfl, rfl, by decide⟩
  have hnot : ∀ n, ¬s.context.Exits s.files ⟨"exit", ["1", "2"], none⟩ n := by
    rintro n ⟨_, _, _, _, hargument, _⟩
    cases hargument
  have hcut : IsCut w.input.bytes lines := Input.isCut_lines w.input.bytes
  have hout : Writer.Faultless (standardOutput w.files w.stdout).1 :=
    faultless_standardOutput w.files fun p after hp => by cases hp
  have hsettings : Settings.ofEnvironment w.environment = { prompt := "> " } := by decide +kernel
  obtain ⟨status, hrun, hconcludes⟩ := hloop (opening w) launcher
    (Settings.ofEnvironment w.environment) w.input.bytes lines (faultless_opening hout) hcut
  have hstatus : status = -1 := by
    have hminus : (ReadLoop.run launcher (Settings.ofEnvironment w.environment) w.input
        (opening w)).1 = .ok (-1) := by decide +kernel
    exact Except.ok.inj (hrun.symm.trans hminus)
  subst hstatus
  obtain ⟨status, hprocess, hconcludes'⟩ := hprocess launcher w lines hout rfl hcut
  have hfirst := (hconcludes (-1)).mpr rfl
  have hsame : -1 = status := (hconcludes' (-1)).mp hfirst
  rw [hsettings] at hfirst
  refine ⟨((hdispatch s launcher _).1 1).mpr hexits, (hdispatch s launcher _).2.mpr hnot, hcut,
    by decide +kernel, hfirst, ?_⟩
  rw [← hsame] at hprocess
  exact Int.ofNat.inj hprocess

end Program

end LineShell
