import LineShell.Proofs.Routing
import LineShell.Proofs.Whereabouts

/-! # Sessions whose output stream runs full

An output stream that takes some bytes and no more cuts off what is said, and does nothing else.
As long as no error output is redirected, what a step comes to (`Context.turn`) does not depend on
the output stream, and is the same for a stream with a limit as for one without.  The one with the
limit takes the beginning of the output; each step whose output does not fit is reported on the
error stream, before what else is complained of.
-/
namespace LineShell
open Receiver (received Unlimited)

/-! ## Turns -/

/-- What is seen of one step. -/
structure Turn where
  flow : Flow
  context : Context
  files : FileSystem
  /-- What the step has brought to the session's own output stream. -/
  out : Bytes
  /-- What it has brought to the session's own error stream. -/
  err : Bytes
  deriving DecidableEq

namespace Turn

/-- The turn if the output stream has room for `room` bytes and refuses more with `refusal`. -/
def clip (refusal : Fault) (room : Nat) (turn : Turn) : Turn :=
  { turn with
    out := turn.out.take room
    err := (if turn.out.length ≤ room then [] else (Diagnostic.output refusal).line) ++ turn.err }

/-- The same of turns, one after the other. -/
def clipAll (refusal : Fault) : Nat → List Turn → List Turn
  | _, [] => []
  | room, turn :: rest =>
    turn.clip refusal room :: clipAll refusal (room - turn.out.length) rest

/-- The output is cut off, and nothing is taken behind that. -/
theorem flatMap_out_clipAll (refusal : Fault) (room : Nat) (turns : List Turn) :
    (clipAll refusal room turns).flatMap out = (turns.flatMap out).take room := by
  induction turns generalizing room with
  | nil => exact List.take_nil.symm
  | cons turn rest ih =>
    rw [clipAll, List.flatMap_cons, List.flatMap_cons, ih, List.take_append, clip]

/-- Nothing but the streams shows the limit. -/
theorem map_clipAll {α : Type} (seen : Turn → α)
    (hseen : ∀ refusal room (turn : Turn), seen (turn.clip refusal room) = seen turn)
    (refusal : Fault) (room : Nat) (turns : List Turn) :
    (clipAll refusal room turns).map seen = turns.map seen := by
  induction turns generalizing room with
  | nil => rfl
  | cons turn rest ih => rw [clipAll, List.map_cons, List.map_cons, hseen, ih]

end Turn

/-- The command has no redirection, or one of its output. -/
def Command.SparesErrors (c : Command) : Prop := ∀ r ∈ c.redirect, r.stream = .stdout

instance (c : Command) : Decidable c.SparesErrors :=
  inferInstanceAs (Decidable (∀ r ∈ c.redirect, r.stream = .stdout))

/-- What is written on the error stream if output is refused. -/
def complaint (refused : Option Fault) : Bytes :=
  match refused with
  | none => []
  | some fault => (Diagnostic.output fault).line

@[simp] theorem complaint_none : complaint none = [] := rfl

/-- A turn of a performance whose output goes to the file that is opened, if one is.  That file may
refuse it. -/
def Performance.turn (made : Performance) (opened : Option Opened) : Turn :=
  let said := made.out.getD []
  match opened with
  | none => ⟨made.flow, made.context, made.files, said, made.err.flatten⟩
  | some o =>
    let (refused, _, files) := made.files.write o.handle said
    ⟨made.flow, made.context, files, [], complaint refused ++ made.err.flatten⟩

/-- The turn of a command that spares the errors, if both streams take everything. -/
def Context.turn (launcher : Launcher) (ctx : Context) (fs : FileSystem) (c : Command) : Turn :=
  if c.isBlank then ⟨.proceed, ctx, fs, [], []⟩
  else
    match ctx.prepare fs c with
    | .error d => ⟨.proceed, ctx, fs, [], d.line⟩
    | .ok p => (p.task.perform launcher (fun _ => none) ctx p.files c).turn p.opened

/-- Only output goes to the file of a command that spares the errors. -/
theorem Command.SparesErrors.opened {c : Command} (hc : c.SparesErrors) {ctx : Context}
    {fs files : FileSystem} {opened : Option Opened}
    (h : ctx.openTarget fs c.redirect = .ok (opened, files)) :
    ∀ o ∈ opened, o.stream = .stdout := by
  cases hredirect : c.redirect with
  | none =>
    rw [hredirect] at h
    cases h
    exact fun o ho => by cases ho
  | some r =>
    rw [hredirect] at h
    obtain ⟨handle, rfl, -⟩ := Context.exists_of_openTarget_ok h
    rintro o ⟨⟩
    exact hc r (by rw [hredirect]; rfl)

variable {ε : Type} [Receiver ε]

/-! ## One delivery -/

namespace Running

/-- What is said on the session's own output stream, which may refuse it. -/
theorem said_refusable {s : Session Sink ε} (herr : Unlimited s.err) (said : Option Bytes) :
    let written := s.out.write (said.getD [])
    ∃ err, said.elim ⟨s, none⟩ (say ⟨s, none⟩) = ⟨{ s with out := written.2, err }, none⟩ ∧
      Unlimited err ∧ received err = received s.err ++ complaint written.1 := by
  intro written
  cases said with
  | none => exact ⟨s.err, by simp [written], herr, by simp [written, complaint]⟩
  | some bytes =>
    have hwrite : Running.write .stdout ⟨s, none⟩ bytes =
        (written.1, ⟨{ s with out := written.2 }, none⟩) := rfl
    simp only [Option.elim_some, say, hwrite]
    cases hrefused : written.1 with
    | none => exact ⟨s.err, rfl, herr, (List.append_nil _).symm⟩
    | some fault =>
      obtain ⟨-, hafter, hreceived⟩ :=
        Receiver.write_unlimited herr (Diagnostic.output fault).line
      refine ⟨_, ?_, hafter, hreceived⟩
      simp only [modify, Session.writeErr_unlimited (s := { s with out := written.2 }) herr]

/-- What is said while output goes to a file, which may refuse it. -/
theorem said_to_refusable_file {s : Session Sink ε} (herr : Unlimited s.err) (handle : Handle)
    (said : Option Bytes) :
    let written := s.files.write handle (said.getD [])
    ∃ err, said.elim ⟨s, some ⟨.stdout, handle⟩⟩ (say ⟨s, some ⟨.stdout, handle⟩⟩) =
        ⟨{ s with files := written.2.2, err }, some ⟨.stdout, written.2.1⟩⟩ ∧
      Unlimited err ∧ received err = received s.err ++ complaint written.1 := by
  intro written
  cases said with
  | none =>
    have hnothing : written = (none, handle, s.files) := FileSystem.write_nil _ _
    rw [hnothing]
    exact ⟨s.err, rfl, herr, (List.append_nil _).symm⟩
  | some bytes =>
    have hwrite : Running.write .stdout ⟨s, some ⟨.stdout, handle⟩⟩ bytes =
        (written.1, ⟨{ s with files := written.2.2 }, some ⟨.stdout, written.2.1⟩⟩) :=
      write_to_file _ _ _ _
    simp only [Option.elim_some, say, hwrite]
    cases hrefused : written.1 with
    | none => exact ⟨s.err, rfl, herr, (List.append_nil _).symm⟩
    | some fault =>
      obtain ⟨-, hafter, hreceived⟩ :=
        Receiver.write_unlimited herr (Diagnostic.output fault).line
      refine ⟨_, ?_, hafter, hreceived⟩
      simp only [modify, Session.writeErr_unlimited (s := { s with files := written.2.2 }) herr]

end Running

namespace Session

/-- The session `s` has gone through a turn: its output stream has been given what was said, and
the error stream has the rest, with a complaint before it if that was refused. -/
structure Passes (s : Session Sink ε) (turn : Turn) (after : Session Sink ε) : Prop where
  context : after.context = turn.context
  files : after.files = turn.files
  out : after.out = (s.out.write turn.out).2
  err : received after.err =
    received s.err ++ (complaint (s.out.write turn.out).1 ++ turn.err)
  unlimited : Unlimited after.err

/-- A delivery is the turn of what is delivered. -/
theorem deliver_passes {s : Session Sink ε} (herr : Unlimited s.err) {opened : Option Opened}
    (hstdout : ∀ o ∈ opened, o.stream = .stdout) (made : Performance) :
    s.Passes (made.turn opened) (s.deliver opened made) := by
  let moved : Session Sink ε := { s with context := made.context, files := made.files }
  have hmoved : Unlimited moved.err := herr
  simp only [deliver, Running.deliver]
  rcases opened with _ | ⟨stream, handle⟩
  · obtain ⟨err, hsaid, herr', hcomplaint⟩ := Running.said_refusable hmoved made.out
    obtain ⟨err', hcomplained, hunlimited, hreceived⟩ := Running.complained_own
      { moved with out := (s.out.write (made.out.getD [])).2, err } none herr' (by simp) made.err
    rw [hsaid, hcomplained]
    exact ⟨rfl, rfl, rfl, by rw [hreceived, hcomplaint, List.append_assoc]; rfl, hunlimited⟩
  · obtain rfl : stream = .stdout := hstdout _ rfl
    let written := made.files.write handle (made.out.getD [])
    obtain ⟨err, hsaid, herr', hcomplaint⟩ :=
      Running.said_to_refusable_file hmoved handle made.out
    obtain ⟨err', hcomplained, hunlimited, hreceived⟩ := Running.complained_own
      { moved with files := written.2.2, err } (some ⟨.stdout, written.2.1⟩) herr' (by simp)
      made.err
    rw [hsaid, hcomplained]
    refine ⟨rfl, rfl, ?_, ?_, hunlimited⟩
    · rw [Performance.turn, Sink.write_nil]
    · rw [hreceived, hcomplaint, Performance.turn, Sink.write_nil, List.append_assoc]
      rfl

/-- No warning is refused, for it goes to the session's own error stream. -/
theorem performance_unwarned {s : Session Sink ε} (herr : Unlimited s.err) (launcher : Launcher)
    {c : Command} (hc : c.SparesErrors) {p : Prepared}
    (hprepared : s.context.prepare s.files c = .ok p) :
    s.performance launcher c p = p.task.perform launcher (fun _ => none) s.context p.files c := by
  obtain ⟨-, hopen⟩ := Context.prepare_eq_ok_iff.mp hprepared
  have hown : ∀ handle, p.opened ≠ some ⟨.stderr, handle⟩ := fun handle hopened => by
    cases hc.opened hopen _ hopened
  have hrefusal : s.refusal p = fun _ => none := by
    funext bytes
    rw [refusal, Running.write_own _ _ _ hown]
    exact congrArg Prod.fst (writeErr_unlimited (s := { s with files := p.files }) herr bytes)
  rw [performance, hrefusal]

/-- **One command.**  Whatever the output stream is like, a command that spares the errors comes
to its turn. -/
theorem respond_passes {s : Session Sink ε} (herr : Unlimited s.err) (launcher : Launcher)
    {c : Command} (hc : c.SparesErrors) :
    (s.respond launcher c).1 = (s.context.turn launcher s.files c).flow ∧
      s.Passes (s.context.turn launcher s.files c) (s.respond launcher c).2 := by
  by_cases hblank : c.isBlank = true
  · simp only [respond, Context.turn, hblank, if_true]
    exact ⟨trivial, rfl, rfl, by simp, by simp, herr⟩
  rw [Bool.not_eq_true] at hblank
  simp only [respond, Context.turn, hblank, Bool.false_eq_true, if_false]
  cases hprepared : s.context.prepare s.files c with
  | error d =>
    simp only [writeErr_unlimited herr]
    obtain ⟨-, hafter, hreceived⟩ := Receiver.write_unlimited herr d.line
    exact ⟨trivial, rfl, rfl, by simp, by simpa using hreceived, hafter⟩
  | ok p =>
    obtain ⟨-, hopen⟩ := Context.prepare_eq_ok_iff.mp hprepared
    simp only [performance_unwarned herr launcher hc hprepared]
    refine ⟨?_, deliver_passes herr (hc.opened hopen) _⟩
    simp only [Performance.turn]
    split <;> rfl

/-- One step. -/
theorem take_passes {s : Session Sink ε} (herr : Unlimited s.err) (launcher : Launcher)
    {step : Step} (hstep : step.toCommand.SparesErrors) :
    (s.take launcher step).1 = (s.context.turn launcher s.files step.toCommand).flow ∧
      s.Passes (s.context.turn launcher s.files step.toCommand) (s.take launcher step).2 := by
  obtain ⟨hflow, hagree⟩ := s.take_respond launcher step
  obtain ⟨hflow', hpasses⟩ := respond_passes herr launcher hstep
  refine ⟨hflow.trans hflow', hagree.context.trans hpasses.context,
    hagree.files.trans hpasses.files, hagree.out.trans hpasses.out, ?_, ?_⟩
  · rw [hagree.err, hpasses.err]
  · rw [hagree.err]
    exact hpasses.unlimited

/-! ## Many steps -/

/-- What is seen of a step that has led to `after`. -/
def turnTo (s : Session Sink ε) (flow : Flow) (after : Session Sink ε) : Turn where
  flow := flow
  context := after.context
  files := after.files
  out := after.out.taken.drop s.out.taken.length
  err := (received after.err).drop (received s.err).length

/-- What is seen of steps, one after the other.  All of them are carried out, also those behind
one that asks for the end. -/
def turns (launcher : Launcher) : Session Sink ε → List Step → List Turn
  | _, [] => []
  | s, step :: rest =>
    let (flow, after) := s.take launcher step
    s.turnTo flow after :: turns launcher after rest

namespace Passes
variable {s after : Session Sink ε} {turn : Turn}

/-- All of the turn is seen if the output stream has no limit. -/
theorem turnTo_eq (h : s.Passes turn after) (hroom : s.out.room = none) :
    s.turnTo turn.flow after = turn := by
  have hwritten := Sink.write_of_room hroom turn.out
  obtain ⟨flow, context, files, out, err⟩ := turn
  simp only [turnTo, h.context, h.files, h.out, h.err, hwritten, List.drop_left, complaint_none,
    List.nil_append]

/-- Otherwise what is left of it. -/
theorem turnTo_eq_clip (h : s.Passes turn after) {room : Nat} (hroom : s.out.room = some room) :
    s.turnTo turn.flow after = turn.clip s.out.refusal room := by
  have hwritten : s.out.write turn.out =
      (if turn.out.length ≤ room then none else some s.out.refusal,
        { s.out with
          taken := s.out.taken ++ turn.out.take room, room := some (room - turn.out.length) }) := by
    simp only [Sink.write, hroom]
  simp only [turnTo, Turn.clip, h.context, h.files, h.out, h.err, hwritten, List.drop_left]
  congr 2
  split <;> rfl

end Passes

/-- What has been seen of steps that spare the errors has come to the streams, and nothing else
has. -/
theorem received_run {s : Session Sink ε} (herr : Unlimited s.err) (launcher : Launcher)
    {steps : List Step} (hsteps : ∀ step ∈ steps, step.toCommand.SparesErrors) :
    (s.run launcher steps).out.taken =
        s.out.taken ++ (s.turns launcher steps).flatMap Turn.out ∧
      received (s.run launcher steps).err =
        received s.err ++ (s.turns launcher steps).flatMap Turn.err := by
  induction steps generalizing s with
  | nil => exact ⟨(List.append_nil _).symm, (List.append_nil _).symm⟩
  | cons step rest ih =>
    obtain ⟨-, hpasses⟩ := take_passes herr launcher (hsteps step List.mem_cons_self)
    obtain ⟨hout, herr'⟩ := ih hpasses.unlimited fun later hlater =>
      hsteps later (List.mem_cons_of_mem _ hlater)
    have hrun : s.run launcher (step :: rest) = (s.take launcher step).2.run launcher rest := rfl
    simp only [turns, List.flatMap_cons, turnTo, hrun]
    rw [hout, herr', hpasses.out, hpasses.err, Sink.taken_write, List.drop_left, List.drop_left]
    exact ⟨List.append_assoc _ _ _, List.append_assoc _ _ _⟩

/-- Sessions in one place, over one tree, of which only the second has a limit on its output. -/
structure Limits (room : Nat) (refusal : Fault) (s t : Session Sink ε) : Prop where
  context : t.context = s.context
  files : t.files = s.files
  unlimited : s.out.room = none
  room : t.out.room = some room
  refusal : t.out.refusal = refusal
  err : Unlimited s.err
  err' : Unlimited t.err

/-- **One step** with a limit is that step clipped, and takes as much of the room as it says. -/
theorem Limits.take {room : Nat} {refusal : Fault} {s t : Session Sink ε}
    (h : Limits room refusal s t) (launcher : Launcher) {step : Step}
    (hstep : step.toCommand.SparesErrors) :
    let turn := s.context.turn launcher s.files step.toCommand
    s.turnTo (s.take launcher step).1 (s.take launcher step).2 = turn ∧
      t.turnTo (t.take launcher step).1 (t.take launcher step).2 = turn.clip refusal room ∧
      Limits (room - turn.out.length) refusal (s.take launcher step).2
        (t.take launcher step).2 := by
  intro turn
  obtain ⟨hflow, hpasses⟩ := take_passes h.err launcher hstep
  obtain ⟨hflow', hpasses'⟩ := take_passes h.err' launcher hstep
  rw [h.context, h.files] at hflow' hpasses'
  refine ⟨?_, ?_, ?_⟩
  · rw [hflow]
    exact hpasses.turnTo_eq h.unlimited
  · rw [hflow', hpasses'.turnTo_eq_clip h.room, h.refusal]
  · refine
      { context := hpasses'.context.trans hpasses.context.symm
        files := hpasses'.files.trans hpasses.files.symm
        unlimited := ?_
        room := ?_
        refusal := ?_
        err := hpasses.unlimited
        err' := hpasses'.unlimited }
    · rw [hpasses.out, Sink.write_of_room h.unlimited]
      exact h.unlimited
    · rw [hpasses'.out, Sink.write, h.room]
    · rw [hpasses'.out, Sink.write, h.room]
      exact h.refusal

/-- Many steps with a limit. -/
theorem Limits.turns {room : Nat} {refusal : Fault} {s t : Session Sink ε}
    (h : Limits room refusal s t) (launcher : Launcher) {steps : List Step}
    (hsteps : ∀ step ∈ steps, step.toCommand.SparesErrors) :
    t.turns launcher steps = Turn.clipAll refusal room (s.turns launcher steps) := by
  induction steps generalizing s t room with
  | nil => rfl
  | cons step rest ih =>
    obtain ⟨hturn, hclipped, hafter⟩ := h.take launcher (hsteps step List.mem_cons_self)
    have hrest := ih hafter fun later hlater => hsteps later (List.mem_cons_of_mem _ hlater)
    rw [Session.turns, Session.turns]
    simp only [hturn, hclipped, hrest, Turn.clipAll]

/-- **A full output stream cuts off output and does nothing else.**  Let the error stream take
everything, and let no step redirect its errors.  With a limit on the output stream, each step
has the flow and leaves the context and the tree as it does without, also where its output is
refused.  Of the output the stream takes just the beginning that it has room for.  On the error
stream there is, for each step whose own output does not fit, the line that it was refused, before
what else the step brings there; and nothing else is new. -/
theorem turns_limited (launcher : Launcher) {s : Session Sink ε} (hroom : s.out.room = none)
    (herr : Unlimited s.err) (limit : Nat) (refusal : Fault) {steps : List Step}
    (hsteps : ∀ step ∈ steps, step.toCommand.SparesErrors) :
    let limited : Session Sink ε := { s with out := { s.out with room := some limit, refusal } }
    let turns := s.turns launcher steps
    let clipped := limited.turns launcher steps
    clipped = Turn.clipAll refusal limit turns ∧
    clipped.map Turn.flow = turns.map Turn.flow ∧
    clipped.map Turn.context = turns.map Turn.context ∧
    clipped.map Turn.files = turns.map Turn.files ∧
    (s.run launcher steps).out.taken = s.out.taken ++ turns.flatMap Turn.out ∧
    (limited.run launcher steps).out.taken =
      s.out.taken ++ (turns.flatMap Turn.out).take limit ∧
    received (s.run launcher steps).err = received s.err ++ turns.flatMap Turn.err ∧
    received (limited.run launcher steps).err = received s.err ++ clipped.flatMap Turn.err := by
  intro limited turns clipped
  have hlimits : Limits limit refusal s limited := ⟨rfl, rfl, hroom, rfl, rfl, herr, herr⟩
  have hclipped : clipped = Turn.clipAll refusal limit turns := hlimits.turns launcher hsteps
  obtain ⟨hout, herr'⟩ := received_run herr launcher hsteps
  have hlimitedErr : Unlimited limited.err := herr
  obtain ⟨hlimitedOut, hlimitedReceived⟩ := received_run hlimitedErr launcher hsteps
  refine ⟨hclipped, ?_, ?_, ?_, hout, ?_, herr', hlimitedReceived⟩
  · rw [hclipped, Turn.map_clipAll Turn.flow fun _ _ _ => rfl]
  · rw [hclipped, Turn.map_clipAll Turn.context fun _ _ _ => rfl]
  · rw [hclipped, Turn.map_clipAll Turn.files fun _ _ _ => rfl]
  · exact hlimitedOut.trans
      (congrArg (s.out.taken ++ ·)
        ((congrArg (List.flatMap Turn.out) hclipped).trans (Turn.flatMap_out_clipAll _ _ _)))

/-- With room for four bytes: a program that also complains loses its second byte, and a builtin
behind it all of its output; what a program says to a file is not counted. -/
theorem turns_limited_program :
    let files := FileSystem.empty.create [Text.utf8 "p"] { mode := 0o755, content := [] }
    let s : Session Sink LineBuffered :=
      ⟨⟨Path.ofString "/", none, []⟩, files, {}, { sink := {} }, []⟩
    let refusal : Fault := .described .other "full"
    let limited : Session Sink LineBuffered :=
      { s with out := { s.out with room := some 4, refusal } }
    let launcher : Launcher := fun _ files =>
      .ok (⟨.exited 1, Text.utf8 "hi", Text.utf8 "no\n"⟩, files)
    let steps : List Step :=
      [.line "echo ab", .line "/p > log", .command ⟨"/p", [], none⟩, .line "pwd"]
    s.out.room = none ∧ (∀ step ∈ steps, step.toCommand.SparesErrors) ∧
      (s.turns launcher steps).map Turn.out =
        [Text.utf8 "ab\n", [], Text.utf8 "hi", Text.utf8 "/\n"] ∧
      limited.turns launcher steps = Turn.clipAll refusal 4 (s.turns launcher steps) ∧
      (limited.run launcher steps).out.taken = Text.utf8 "ab\nh" ∧
      (limited.run launcher steps).err.all =
        Text.utf8 "no\nwrite error: full\nno\nwrite error: full\n" := by
  intro files s refusal limited launcher steps
  have hsteps : ∀ step ∈ steps, step.toCommand.SparesErrors := by decide +kernel
  have hroom : s.out.room = none := rfl
  obtain ⟨hclipped, -, -, -, -, hout, -, herr⟩ := turns_limited launcher hroom rfl 4 refusal hsteps
  exact ⟨hroom, hsteps, by decide +kernel, hclipped, hout.trans (by decide +kernel),
    herr.trans (by decide +kernel)⟩

end Session
end LineShell
