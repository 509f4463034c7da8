import LineShell.Proofs.Correspondence
import LineShell.Proofs.Cutting
import LineShell.Proofs.Decoding
import LineShell.Proofs.Launches
import LineShell.Proofs.Reception
import LineShell.Proofs.Scanning

/-! # The read loop, line by line

The read loop is nothing but the lines of its input, carried out one after the other up to the
first that ends the interpreter, with a prompt written before each.  `Session.follow` carries
them out without a loop and without prompts; as long as the streams take everything, the loop
comes to the same place by the same way, and what it writes is what the lines write, each
behind a prompt.
-/
namespace LineShell

/-- What lines come to that are carried out one after the other. -/
structure Course (ω ε : Type) where
  /-- The status that a line asked to end with, if one did. -/
  status : Option Int
  /-- What each line that was carried out has written to the output stream. -/
  outputs : List Bytes
  /-- The session after the last of them. -/
  session : Session ω ε

/-- What the loop writes on such a course: each output behind a prompt, and at the end of the
input one more prompt and a newline. -/
def Course.transcript {ω ε : Type} (course : Course ω ε) (prompt : String) : Bytes :=
  course.outputs.flatMap (Text.utf8 prompt ++ ·) ++
    if course.status = none then Text.utf8 prompt ++ Text.utf8 "\n" else []

/-- A stream that takes everything and is never refused a flush. -/
def Receiver.Accepts {ω : Type} [Receiver ω] (w : ω) : Prop := Unlimited w ∧ Flushable w

variable {ω ε : Type} [Receiver ω] [Receiver ε]

/-- Carries out lines, one after the other, up to the first that ends the interpreter. -/
def Session.follow (launcher : Launcher) : Session ω ε → List String → Course ω ε
  | s, [] => ⟨none, [], s⟩
  | s, line :: rest =>
    let (flow, after) := s.executeLine launcher line
    let output := (Receiver.received after.out).drop (Receiver.received s.out).length
    match flow with
    | .exit status => ⟨some status, [output], after⟩
    | .proceed =>
      let course := follow launcher after rest
      { course with outputs := output :: course.outputs }

/-! ## Streams that grow alike -/

namespace Receiver
variable {w w' : ω}

theorem accepts_write (h : Accepts w) (bytes : Bytes) : Accepts (Writer.write w bytes).2 :=
  ⟨(write_unlimited h.1 bytes).2.1, flushable_write h.1 h.2 bytes⟩

/-- Both streams accept everything, and have received the same since they had received `base`
and `base'`. -/
structure Grown (base base' : Bytes) (w w' : ω) : Prop where
  accepts : Accepts w
  accepts' : Accepts w'
  alike : ∃ more, received w = base ++ more ∧ received w' = base' ++ more

theorem keeps_grown (base base' : Bytes) :
    Writer.Keeps fun w w' : ω => Grown base base' w w' where
  related := by
    intro w w' h bytes files
    have hafter := accepts_write h.accepts bytes
    have hafter' := accepts_write h.accepts' bytes
    obtain ⟨more, hmore, hmore'⟩ := h.alike
    rw [settle_unlimited hafter.1, settle_unlimited hafter'.1]
    refine ⟨hafter, hafter', more ++ bytes, ?_, ?_⟩
    · rw [(write_unlimited h.accepts.1 bytes).2.2, hmore, List.append_assoc]
    · rw [(write_unlimited h.accepts'.1 bytes).2.2, hmore', List.append_assoc]
  files := by
    intro w w' h bytes files
    rw [settle_unlimited (accepts_write h.accepts bytes).1,
      settle_unlimited (accepts_write h.accepts' bytes).1]

theorem refuseAlike_grown (base base' : Bytes) :
    Writer.RefuseAlike fun w w' : ω => Grown base base' w w' := by
  intro w w' h bytes
  rw [(write_unlimited h.accepts.1 bytes).1, (write_unlimited h.accepts'.1 bytes).1]

/-- One stream, which accepts everything. -/
def Same (w w' : ω) : Prop := w = w' ∧ Accepts w

theorem keeps_same : Writer.Keeps fun w w' : ω => Same w w' :=
  Writer.keeps_eq_of (fun _ h => accepts_write h) fun _ h files =>
    (settle_unlimited h.1 files).symm ▸ h

theorem refuseAlike_same : Writer.RefuseAlike fun w w' : ω => Same w w' :=
  Writer.refuseAlike_eq_of

end Receiver

/-! ## Sessions in step -/

/-- `t` is where `s` is, with the same error stream, and has started the same programs.  Only
the output streams may differ; everything accepts what it is given. -/
structure Session.InStep (s t : Session ω ε) : Prop where
  context : s.context = t.context
  files : s.files = t.files
  err : s.err = t.err
  launches : s.launches = t.launches
  errAccepts : Receiver.Accepts s.err
  outAccepts : Receiver.Accepts s.out
  outAccepts' : Receiver.Accepts t.out

namespace Session

omit [Receiver ω] [Receiver ε] in
/-- What a line starts. -/
theorem launches_executeLine [Writer ω] [Writer ε] (s : Session ω ε) (launcher : Launcher)
    (line : String) :
    (s.executeLine launcher line).2.launches =
      (s.context.launch? s.files (Command.ofLine line)).toList ++ s.launches := by
  simp only [executeLine]
  refine (launches_dispatch launcher _ _).trans ?_
  split
  · rw [s.launches_note_of_none rfl]
    rfl
  · rfl

namespace InStep
variable {s t : Session ω ε}

/-- One line keeps sessions in step, and makes their output grow alike. -/
theorem executeLine (h : s.InStep t) (launcher : Launcher) (line : String) :
    (s.executeLine launcher line).1 = (t.executeLine launcher line).1 ∧
      (s.executeLine launcher line).2.InStep (t.executeLine launcher line).2 ∧
      ∃ output,
        Receiver.received (s.executeLine launcher line).2.out =
          Receiver.received s.out ++ output ∧
        Receiver.received (t.executeLine launcher line).2.out =
          Receiver.received t.out ++ output := by
  -- the two output streams differ by the prompts alone, so they grow alike from here
  have hout : Receiver.Grown (Receiver.received s.out) (Receiver.received t.out) s.out t.out :=
    ⟨h.outAccepts, h.outAccepts', [], (List.append_nil _).symm, (List.append_nil _).symm⟩
  have hst : s.Corresponds (Receiver.Grown (Receiver.received s.out) (Receiver.received t.out))
      Receiver.Same t := ⟨h.context, h.files, hout, h.err, h.errAccepts⟩
  obtain ⟨hflow, hafter⟩ := hst.executeLine (Receiver.keeps_grown _ _)
    (Receiver.refuseAlike_grown _ _) Receiver.keeps_same launcher line
    fun p _ => hst.performance Receiver.refuseAlike_same Receiver.keeps_same launcher _ p
  refine ⟨hflow, ?_, hafter.out.alike⟩
  exact
    { context := hafter.context
      files := hafter.files
      err := hafter.err.1
      launches := by
        rw [launches_executeLine, launches_executeLine, h.context, h.files, h.launches]
      errAccepts := hafter.err.2
      outAccepts := hafter.out.accepts
      outAccepts' := hafter.out.accepts' }

/-- A prompt is written and nothing else happens. -/
theorem prompt (h : s.InStep t) (text : String) :
    ∃ t', ReadLoop.prompt t text = (none, t') ∧ s.InStep t' ∧
      Receiver.received t'.out = Receiver.received t.out ++ Text.utf8 text := by
  obtain ⟨hfault, hunlimited, hreceived⟩ :=
    Receiver.write_unlimited h.outAccepts'.1 (Text.utf8 text)
  have hwritten := Receiver.accepts_write h.outAccepts' (Text.utf8 text)
  obtain ⟨hflushed, hunlimited', hflushable, hreceived'⟩ :=
    Receiver.flush_unlimited hwritten.1 hwritten.2
  refine ⟨{ t with out := (Writer.flush (Writer.write t.out (Text.utf8 text)).2).2 }, ?_, ?_, ?_⟩
  · simp only [ReadLoop.prompt, writeOut, withOut, flushOut, hfault, hflushed,
      Receiver.settle_unlimited hunlimited, Receiver.settle_unlimited hunlimited']
  · exact { h with outAccepts' := ⟨hunlimited', hflushable⟩ }
  · exact hreceived'.trans hreceived

end InStep

/-- The loop has ended with `status` after `s` had been reached: both streams are flushed and
nothing else has happened. -/
structure Ended (s : Session ω ε) (received : Bytes) (status : Int)
    (result : Except ReadLoop.Failure Int × Session ω ε) : Prop where
  status : result.1 = .ok status
  context : result.2.context = s.context
  files : result.2.files = s.files
  err : result.2.err = (Writer.flush s.err).2
  errReceived : Receiver.received result.2.err = Receiver.received s.err
  outReceived : Receiver.received result.2.out = received
  launches : result.2.launches = s.launches

theorem InStep.finish {s t : Session ω ε} (h : s.InStep t) (status : Int) :
    s.Ended (Receiver.received t.out) status (ReadLoop.finish t status) := by
  obtain ⟨hout, hunlimited, -, hreceived⟩ :=
    Receiver.flush_unlimited h.outAccepts'.1 h.outAccepts'.2
  have herrAccepts : Receiver.Accepts t.err := h.err ▸ h.errAccepts
  obtain ⟨herr, hunlimited', -, hreceived'⟩ :=
    Receiver.flush_unlimited herrAccepts.1 herrAccepts.2
  have hfinish : ReadLoop.finish t status =
      (.ok status, { t with out := (Writer.flush t.out).2, err := (Writer.flush t.err).2 }) := by
    simp only [ReadLoop.finish, flushOut, withOut, flushErr, withErr, hout, herr,
      Receiver.settle_unlimited hunlimited, Receiver.settle_unlimited hunlimited']
  rw [hfinish]
  exact ⟨rfl, h.context.symm, h.files.symm, congrArg (fun err => (Writer.flush err).2) h.err.symm,
    hreceived'.trans (congrArg _ h.err.symm), hreceived, h.launches.symm⟩

end Session

namespace ReadLoop
open Session

/-- The loop goes where the lines go, and then finishes or finds nothing more to read. -/
theorem readLines_follow (launcher : Launcher) (promptText : String) (failure : Option Fault)
    (lines : List Bytes) {s t : Session ω ε} (h : s.InStep t) :
    let course := s.follow launcher (lines.map Text.lossyString)
    ∃ t', course.session.InStep t' ∧
      Receiver.received course.session.out = Receiver.received s.out ++ course.outputs.flatten ∧
      Receiver.received t'.out = Receiver.received t.out ++
        course.outputs.flatMap (Text.utf8 promptText ++ ·) ++
        (if course.status = none then Text.utf8 promptText else []) ∧
      readLines launcher promptText failure lines t =
        match course.status with
        | some status => finish t' status
        | none => atEnd failure t' := by
  -- a prompt and a line keep the sessions in step, so the induction is over both of them
  induction lines generalizing s t with
  | nil =>
    obtain ⟨t', hprompt, hafter, hreceived⟩ := h.prompt promptText
    refine ⟨t', hafter, (List.append_nil _).symm, ?_, ?_⟩
    · simpa [follow] using hreceived
    · exact readLines_nil hprompt
  | cons line rest ih =>
    obtain ⟨t', hprompt, hprompted, hpromptReceived⟩ := h.prompt promptText
    obtain ⟨hflow, hafter, output, hout, hout'⟩ :=
      hprompted.executeLine launcher (Text.lossyString line)
    have houtput : (Receiver.received (s.executeLine launcher (Text.lossyString line)).2.out).drop
        (Receiver.received s.out).length = output := by
      rw [hout, List.drop_left]
    rcases hs : s.executeLine launcher (Text.lossyString line) with ⟨flow, s'⟩
    rcases ht : t'.executeLine launcher (Text.lossyString line) with ⟨flow', t''⟩
    rw [hs] at hflow hafter hout houtput
    rw [ht] at hflow hafter hout'
    obtain rfl : flow = flow' := hflow
    simp only [List.map_cons, follow, hs, houtput]
    cases flow with
    | exit status =>
      refine ⟨t'', hafter, ?_, ?_, readLines_of_exit hprompt ht⟩
      · simpa using hout
      · simpa [hpromptReceived] using hout'
    | proceed =>
      obtain ⟨u, hu, hreceived, hreceived', hread⟩ := ih hafter
      refine ⟨u, hu, ?_, ?_, (readLines_of_proceed hprompt ht).trans hread⟩
      · rw [hreceived, hout, List.flatten_cons, List.append_assoc]
      · rw [hreceived', hout', hpromptReceived, List.flatMap_cons]
        simp only [List.append_assoc]

/-- Lines behind one that ends the interpreter are not read. -/
theorem readLines_append_of_exit (launcher : Launcher) (promptText : String)
    (failure failure' : Option Fault) (lines more : List Bytes) {s t : Session ω ε}
    (h : s.InStep t)
    (hexit : (s.follow launcher (lines.map Text.lossyString)).status.isSome) :
    readLines launcher promptText failure (lines ++ more) t =
      readLines launcher promptText failure' lines t := by
  induction lines generalizing s t with
  | nil => cases hexit
  | cons line rest ih =>
    obtain ⟨t', hprompt, hprompted, -⟩ := h.prompt promptText
    obtain ⟨hflow, hafter, -⟩ := hprompted.executeLine launcher (Text.lossyString line)
    rcases hs : s.executeLine launcher (Text.lossyString line) with ⟨flow, s'⟩
    rcases ht : t'.executeLine launcher (Text.lossyString line) with ⟨flow', t''⟩
    rw [hs, ht] at hflow hafter
    obtain rfl : flow = flow' := hflow
    simp only [List.map_cons, follow, hs] at hexit
    cases flow with
    | exit status =>
      rw [List.cons_append, readLines_of_exit hprompt ht, readLines_of_exit hprompt ht]
    | proceed =>
      rw [List.cons_append, readLines_of_proceed hprompt ht, readLines_of_proceed hprompt ht]
      exact ih hafter hexit

omit [Receiver ω] [Receiver ε] in
/-- A newline at the end of a line is a blank there, and makes no difference. -/
theorem executeLine_append_newline [Writer ω] [Writer ε] (s : Session ω ε) (launcher : Launcher)
    (line : Bytes) :
    s.executeLine launcher (Text.lossyString (line ++ [10])) =
      s.executeLine launcher (Text.lossyString line) := by
  have hblank : Text.AllBlank ['\n'] := by decide
  have hscanned : Scanned.ofLine (Text.lossyString (line ++ [10])) =
      Scanned.ofLine (Text.lossyString line) := by
    rw [Text.lossyString, Text.decodeLossy_append_newline, Scanned.ofLine_append_blanks hblank,
      Text.lossyString]
  simp only [executeLine, hscanned]

omit [Receiver ω] [Receiver ε] in
/-- Of a line the loop knows only how it is carried out. -/
theorem readLines_cons_congr [Writer ω] [Writer ε] {launcher : Launcher} {promptText : String}
    {failure : Option Fault} {line line' : Bytes} {rest rest' : List Bytes}
    (hline : ∀ s : Session ω ε, s.executeLine launcher (Text.lossyString line) =
      s.executeLine launcher (Text.lossyString line'))
    (hrest : ∀ s : Session ω ε, readLines launcher promptText failure rest s =
      readLines launcher promptText failure rest' s) (s : Session ω ε) :
    readLines launcher promptText failure (line :: rest) s =
      readLines launcher promptText failure (line' :: rest') s := by
  rcases hprompt : prompt s promptText with ⟨_ | fault, t⟩
  · rcases hdone : t.executeLine launcher (Text.lossyString line) with ⟨_ | status, u⟩
    · rw [readLines_of_proceed hprompt hdone,
        readLines_of_proceed hprompt ((hline t).symm.trans hdone), hrest]
    · rw [readLines_of_exit hprompt hdone,
        readLines_of_exit hprompt ((hline t).symm.trans hdone)]
  · rw [readLines_of_refused hprompt, readLines_of_refused hprompt]

omit [Receiver ω] [Receiver ε] in
theorem readLines_append_newline [Writer ω] [Writer ε] (launcher : Launcher)
    (promptText : String) (failure : Option Fault) (init : List Bytes) (last : Bytes)
    (s : Session ω ε) :
    readLines launcher promptText failure (init ++ [last ++ [10]]) s =
      readLines launcher promptText failure (init ++ [last]) s := by
  induction init generalizing s with
  | nil =>
    exact readLines_cons_congr (fun s => executeLine_append_newline s launcher last)
      (fun _ => rfl) s
  | cons line rest ih => exact readLines_cons_congr (fun _ => rfl) ih s

/-- **The read loop is its lines.**  Let the streams accept everything.  The loop carries out
the texts of the lines of its input, up to the first that ends the interpreter, and comes to
their context, tree and error stream (flushed); its output stream has received the transcript
of their course, and its status is theirs, or 0.  So nothing depends on what stands behind a
line that ends the interpreter, nor on the newline of the last line. -/
theorem run_follow (launcher : Launcher) (settings : Settings) {s : Session ω ε}
    (hout : Receiver.Accepts s.out) (herr : Receiver.Accepts s.err) {bytes : Bytes}
    {lines : List Bytes} (hcut : IsCut bytes lines) :
    let course := s.follow launcher (lines.map Text.lossyString)
    let result := run launcher settings ⟨bytes, none⟩ s
    course.session.Ended (Receiver.received s.out ++ course.transcript settings.prompt)
      (course.status.getD 0) result ∧
    Receiver.received course.session.out = Receiver.received s.out ++ course.outputs.flatten ∧
    (bytes.getLast? = some 10 → course.status.isSome → ∀ more failure,
      run launcher settings ⟨bytes ++ more, failure⟩ s = result) ∧
    (bytes ≠ [] → bytes.getLast? ≠ some 10 →
      run launcher settings ⟨bytes ++ [10], none⟩ s = result) := by
  intro course result
  have hlines := Input.lines_of_isCut hcut
  have hstep : s.InStep s := ⟨rfl, rfl, rfl, rfl, herr, hout, hout⟩
  obtain ⟨t, ht, houtputs, hreceived, hread⟩ :=
    readLines_follow launcher settings.prompt none lines hstep
  have hresult : result = match course.status with
      | some status => finish t status
      | none => atEnd none t := by
    simp only [result, run, hlines]
    exact hread
  refine ⟨?_, houtputs, ?_, ?_⟩
  · rw [hresult]
    cases hstatus : course.status with
    | some status =>
      have hended := ht.finish status
      have htranscript : Receiver.received t.out =
          Receiver.received s.out ++ course.transcript settings.prompt := by
        rw [hreceived]
        simp [Course.transcript, course, hstatus]
      rwa [htranscript] at hended
    | none =>
      have hnoted : course.session.InStep (t.note .inputEnded) :=
        { ht with launches := ht.launches.trans (t.launches_note_of_none rfl).symm }
      -- the newline at the end of the input is written the way a prompt is
      obtain ⟨t', hprompt, hafter, hnewline⟩ := hnoted.prompt "\n"
      have hended := hafter.finish 0
      have htranscript : Receiver.received t'.out =
          Receiver.received s.out ++ course.transcript settings.prompt := by
        rw [hnewline]
        simp [note, hreceived, Course.transcript, course, hstatus]
      rw [htranscript] at hended
      simpa only [atEnd, hprompt, Option.getD_none] using hended
  · intro hended hexit more failure
    have hrest := cutLines_rest_of_ended hended
    simp only [result, run, Input.lines_append hrest, hlines]
    exact readLines_append_of_exit launcher settings.prompt failure none lines _ hstep hexit
  · intro hne hended
    obtain ⟨init, last, hbefore, hafter⟩ :=
      Input.lines_append_newline (cutLines_rest_ne_nil hne hended)
    simp only [result, run, hbefore, hafter, readLines_append_newline]

/-- A line that ends the interpreter, and one that lacks its newline. -/
theorem run_follow_exit :
    let s : Session Sink LineBuffered :=
      ⟨⟨Path.ofString "/", none, []⟩, .empty, {}, { sink := {} }, []⟩
    let launcher : Launcher := fun _ _ => .error (.system .noEntry)
    let settings : Settings := { prompt := "$ " }
    let ends := run launcher settings ⟨Text.utf8 "echo a\nexit 3\n", none⟩ s
    let goesOn := run launcher settings ⟨Text.utf8 "pwd", none⟩ s
    ends.1 = .ok 3 ∧ ends.2.out.taken = Text.utf8 "$ a\n$ " ∧
      run launcher settings ⟨Text.utf8 "echo a\nexit 3\n" ++ Text.utf8 "pwd", none⟩ s = ends ∧
      goesOn.1 = .ok 0 ∧ goesOn.2.out.taken = Text.utf8 "$ /\n$ \n" ∧
      run launcher settings ⟨Text.utf8 "pwd" ++ [10], none⟩ s = goesOn := by
  intro s launcher settings ends goesOn
  have hout : Receiver.Accepts s.out := ⟨rfl, rfl⟩
  have herr : Receiver.Accepts s.err := ⟨rfl, trivial⟩
  obtain ⟨hends, -, hmore, -⟩ := run_follow launcher settings hout herr
    (Input.isCut_lines (Text.utf8 "echo a\nexit 3\n"))
  obtain ⟨hgoesOn, -, -, hnewline⟩ := run_follow launcher settings hout herr
    (Input.isCut_lines (Text.utf8 "pwd"))
  refine ⟨hends.status.trans ?_, hends.outReceived.trans ?_, hmore ?_ ?_ _ _,
    hgoesOn.status.trans ?_, hgoesOn.outReceived.trans ?_, hnewline ?_ ?_⟩
  all_goals decide +kernel

end ReadLoop
end LineShell
