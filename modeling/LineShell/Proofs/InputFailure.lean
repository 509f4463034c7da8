import LineShell.Proofs.HandedLines
import LineShell.Proofs.LineByLine

/-! # Input that cannot be read to its end

Reading may fail instead of coming to the end of the input.  What has been read by then are lines
that are complete and a rest without a newline.  The complete lines have been carried out, the
rest never is, and where the loop stops everything is as the complete lines alone leave it: only
the last prompt has nothing behind it, and the loop says why it stopped.  A line that ends the
interpreter comes before: then nobody learns that reading would have failed.
-/
namespace LineShell

/-- The bytes are complete lines and a rest without a newline. -/
structure IsTorn (bytes : Bytes) (lines : List Bytes) (rest : Bytes) : Prop where
  /-- They make up the bytes. -/
  flatten : lines.flatten ++ rest = bytes
  /-- Every line has its newline at the end and nowhere else. -/
  complete : ∀ line ∈ lines, ∃ body, line = body ++ [10] ∧ 10 ∉ body
  /-- The rest has none. -/
  rest : 10 ∉ rest

namespace IsTorn

variable {bytes : Bytes} {lines : List Bytes} {rest : Bytes}

/-- All bytes can be seen so, as `cutLines` cuts them. -/
theorem of_cutLines (h : cutLines bytes = (lines, rest)) : IsTorn bytes lines rest := by
  have hcomplete : ∀ line ∈ (cutLines bytes).1, ∃ body, line = body ++ [10] ∧ 10 ∉ body :=
    fun _ => exists_eq_of_mem_cutLines
  have hflatten := cutLines_flatten bytes
  have hrest := newline_notMem_rest bytes
  rw [h] at hcomplete hflatten hrest
  exact ⟨hflatten, hcomplete, hrest⟩

/-- And in no other way. -/
theorem cutLines_eq (h : IsTorn bytes lines rest) : cutLines bytes = (lines, rest) := by
  obtain ⟨rfl, hcomplete, hrest⟩ := h
  induction lines with
  | nil => exact cutLines_of_notMem hrest
  | cons line lines ih =>
    obtain ⟨body, rfl, hbody⟩ := hcomplete line List.mem_cons_self
    have hline : cutLines (body ++ [10]) = ([body ++ [10]], []) := by
      rw [cutLines_append_newline, cutLines_of_notMem hbody]
      rfl
    have ih := ih fun later hlater => hcomplete later (List.mem_cons_of_mem _ hlater)
    rw [List.flatten_cons, List.append_assoc, cutLines_append (by rw [hline]), hline, ih]
    rfl

/-- The complete lines are all that can be read before the failure. -/
theorem lines_of_failure (h : IsTorn bytes lines rest) (fault : Fault) :
    Input.lines ⟨bytes, some fault⟩ = lines := by
  simp [Input.lines, h.cutLines_eq]

/-- By themselves they leave no rest. -/
theorem alone (h : IsTorn bytes lines rest) : IsTorn lines.flatten lines [] :=
  ⟨List.append_nil _, h.complete, List.not_mem_nil⟩

/-- They are the lines of an input that ends behind them. -/
theorem lines_flatten (h : IsTorn bytes lines rest) :
    Input.lines ⟨lines.flatten, none⟩ = lines := by
  rw [Input.lines_of_rest (by rw [h.alone.cutLines_eq]), h.alone.cutLines_eq]

end IsTorn

namespace ReadLoop

section
variable {ω ε : Type} [Writer ω] [Writer ε]
variable {launcher : Launcher} {promptText : String} {fault : Fault}

/-- A line that ends the loop leaves nothing to read. -/
theorem finish_ne_readingInput (s : Session ω ε) (status : Int) :
    (finish s status).1 ≠ .error ⟨.readingInput, fault⟩ := by
  simp only [finish]
  split
  · simp
  · split
    · simp
    · simp

/-- Only behind lines that all go on does the loop say that reading has failed. -/
theorem proceed_of_readingInput (lines : List Bytes) (s : Session ω ε)
    (h : (readLines launcher promptText (some fault) lines s).1 = .error ⟨.readingInput, fault⟩) :
    ∀ e ∈ (readLinesRecorded launcher promptText (some fault) lines s).1, e.2 = .proceed := by
  induction lines generalizing s with
  | nil =>
    rw [List.map_eq_nil_iff.mp (List.prefix_nil.mp (map_fst_readLinesRecorded [] s))]
    exact fun e he => absurd he List.not_mem_nil
  | cons line rest ih =>
    rcases hprompt : prompt s promptText with ⟨_ | refused, t⟩
    · rcases hline : t.executeLine launcher (Text.lossyString line) with ⟨_ | status, u⟩
      · rw [readLines_of_proceed hprompt hline] at h
        rw [readLinesRecorded_of_proceed hprompt hline]
        exact List.forall_mem_cons.mpr ⟨rfl, ih u h⟩
      · rw [readLines_of_exit hprompt hline] at h
        exact absurd h (finish_ne_readingInput u status)
    · rw [readLinesRecorded_of_refused hprompt]
      exact fun e he => absurd he List.not_mem_nil

end

variable {ω ε : Type} [Receiver ω] [Receiver ε]

/-- Where no line ends the interpreter each has its output. -/
theorem length_outputs (launcher : Launcher) (lines : List String) (s : Session ω ε)
    (h : (s.follow launcher lines).status = none) :
    (s.follow launcher lines).outputs.length = lines.length := by
  induction lines generalizing s with
  | nil => rfl
  | cons line rest ih =>
    rcases hline : s.executeLine launcher line with ⟨_ | status, t⟩
    · simp only [Session.follow, hline] at h ⊢
      simp only [List.length_cons, ih t h]
    · simp [Session.follow, hline] at h

/-- The loop has stopped where reading failed: it has handed over `lines` and gone where `course`
has gone, and everything is as in `whole`, the session that is left of an input that ends there. -/
structure StopsAt (s : Session ω ε) (promptText : String) (lines : List Bytes) (fault : Fault)
    (course : Course ω ε) (whole : Session ω ε)
    (recorded : List (String × Flow) × (Except Failure Int × Session ω ε)) : Prop where
  failure : ∃ f, recorded.2.1 = .error f ∧ f.stage.message = "error reading input" ∧ f.cause = fault
  handed : recorded.1.map Prod.fst = lines.map Text.lossyString
  outputs : course.outputs.length = lines.length
  /-- A prompt before each line, and one behind which nothing comes. -/
  out : Receiver.received recorded.2.2.out =
    Receiver.received s.out ++ course.outputs.flatMap (Text.utf8 promptText ++ ·) ++
      Text.utf8 promptText
  context : recorded.2.2.context = whole.context
  files : recorded.2.2.files = whole.files
  /-- Only that the streams are flushed at the end of an input. -/
  err : (Writer.flush recorded.2.2.err).2 = whole.err
  errReceived : Receiver.received recorded.2.2.err = Receiver.received whole.err
  launches : recorded.2.2.launches = whole.launches

/-- If a complete line ends the interpreter, the loop ends with its status, whatever stands behind
the complete lines. -/
theorem run_of_exit (launcher : Launcher) (settings : Settings) {s : Session ω ε}
    (hout : Receiver.Accepts s.out) (herr : Receiver.Accepts s.err) {bytes : Bytes}
    {lines : List Bytes} {rest : Bytes} (htorn : IsTorn bytes lines rest) (fault : Fault)
    {status : Int}
    (hstatus : (s.follow launcher (lines.map Text.lossyString)).status = some status) :
    (run launcher settings ⟨bytes, some fault⟩ s).1 = .ok status ∧
      ∀ more failure, run launcher settings ⟨lines.flatten ++ more, failure⟩ s =
        run launcher settings ⟨bytes, some fault⟩ s := by
  have hstep : s.InStep s := ⟨rfl, rfl, rfl, rfl, herr, hout, hout⟩
  have hexit : (s.follow launcher (lines.map Text.lossyString)).status.isSome = true := by
    rw [hstatus]
    rfl
  have hrest : (cutLines lines.flatten).2 = [] := by rw [htorn.alone.cutLines_eq]
  obtain ⟨t, ht, -, -, hread⟩ := readLines_follow launcher settings.prompt (some fault) lines hstep
  rw [hstatus] at hread
  simp only [run, htorn.lines_of_failure fault]
  refine ⟨?_, fun more failure => ?_⟩
  · rw [hread]
    exact (ht.finish status).status
  · rw [Input.lines_append hrest, htorn.lines_flatten]
    exact readLines_append_of_exit launcher settings.prompt failure (some fault) lines _ hstep hexit

/-- If none does, the loop goes where the complete lines go, and stops there. -/
theorem run_stopsAt (launcher : Launcher) (settings : Settings) {s : Session ω ε}
    (hout : Receiver.Accepts s.out) (herr : Receiver.Accepts s.err) {bytes : Bytes}
    {lines : List Bytes} {rest : Bytes} (htorn : IsTorn bytes lines rest) (fault : Fault)
    (hstatus : (s.follow launcher (lines.map Text.lossyString)).status = none) :
    (run launcher settings ⟨lines.flatten, none⟩ s).1 = .ok 0 ∧
      StopsAt s settings.prompt lines fault (s.follow launcher (lines.map Text.lossyString))
        (run launcher settings ⟨lines.flatten, none⟩ s).2
        (runRecorded launcher settings ⟨bytes, some fault⟩ s) := by
  have hstep : s.InStep s := ⟨rfl, rfl, rfl, rfl, herr, hout, hout⟩
  obtain ⟨t, ht, -, hreceived, hread⟩ :=
    readLines_follow launcher settings.prompt (some fault) lines hstep
  rw [hstatus] at hreceived hread
  have hstopped : (readLines launcher settings.prompt (some fault) lines s) =
      (.error ⟨.readingInput, fault⟩, t) := hread
  have hrecorded : runRecorded launcher settings ⟨bytes, some fault⟩ s =
      readLinesRecorded launcher settings.prompt (some fault) lines s := by
    simp only [runRecorded, htorn.lines_of_failure fault]
  have hresult : (runRecorded launcher settings ⟨bytes, some fault⟩ s).2 =
      (.error ⟨.readingInput, fault⟩, t) := by
    rw [hrecorded, readLinesRecorded_snd, hstopped]
  have hhanded : (runRecorded launcher settings ⟨bytes, some fault⟩ s).1.map Prod.fst =
      lines.map Text.lossyString := by
    rw [hrecorded]
    refine readLinesRecorded_complete lines s (proceed_of_readingInput lines s ?_) ?_
    · rw [hstopped]
    · rw [hstopped]
      exact fun refused h => by cases h
  -- the run over the complete lines alone goes the same way
  have hcut : IsCut lines.flatten lines := by
    have hcut := Input.isCut_lines lines.flatten
    rwa [htorn.lines_flatten] at hcut
  obtain ⟨hwhole, -⟩ := run_follow launcher settings hout herr hcut
  refine ⟨?_, ?_⟩
  · rw [hwhole.status, hstatus]
    rfl
  refine
    { failure := ⟨⟨.readingInput, fault⟩, by rw [hresult], rfl, rfl⟩
      handed := hhanded
      outputs := (length_outputs launcher _ s hstatus).trans (List.length_map _)
      out := ?_
      context := ?_
      files := ?_
      err := ?_
      errReceived := ?_
      launches := ?_ }
  all_goals rw [hresult]
  · exact hreceived
  · exact ht.context.symm.trans hwhole.context.symm
  · exact ht.files.symm.trans hwhole.files.symm
  · rw [hwhole.err, ht.err]
  · rw [hwhole.errReceived, ht.err]
  · exact ht.launches.symm.trans hwhole.launches.symm

/-- **A read failure stops the loop at a line boundary.**  Let the streams accept everything, and
let reading fail behind complete lines and a rest.  If a complete line ends the interpreter, then
the loop ends with its status, and what stands behind the complete lines plays no part, be it
bytes or a failure.  Otherwise the complete lines have been carried out, each once and in order,
and nothing of the rest; the loop ends with the failure, and everything is as behind an input of
just the complete lines, whose end the loop does reach. -/
theorem run_torn (launcher : Launcher) (settings : Settings) {s : Session ω ε}
    (hout : Receiver.Accepts s.out) (herr : Receiver.Accepts s.err) {bytes : Bytes}
    {lines : List Bytes} {rest : Bytes} (htorn : IsTorn bytes lines rest) (fault : Fault) :
    let course := s.follow launcher (lines.map Text.lossyString)
    let result := run launcher settings ⟨bytes, some fault⟩ s
    let whole := run launcher settings ⟨lines.flatten, none⟩ s
    (∀ status, course.status = some status →
      result.1 = .ok status ∧
      ∀ more failure, run launcher settings ⟨lines.flatten ++ more, failure⟩ s = result) ∧
    (course.status = none →
      whole.1 = .ok 0 ∧
      (runRecorded launcher settings ⟨bytes, some fault⟩ s).2 = result ∧
      StopsAt s settings.prompt lines fault course whole.2
        (runRecorded launcher settings ⟨bytes, some fault⟩ s)) := by
  intro course result whole
  refine ⟨fun status hstatus => run_of_exit launcher settings hout herr htorn fault hstatus,
    fun hstatus => ?_⟩
  obtain ⟨hended, hstops⟩ := run_stopsAt launcher settings hout herr htorn fault hstatus
  exact ⟨hended, readLinesRecorded_snd _ s, hstops⟩

/-- A `cd` before the failure, and a rest that asks for the end and is not carried out; and an
`exit` before it, which nothing behind it can change. -/
theorem run_torn_exit :
    let files := FileSystem.empty.put [Text.utf8 "a"] (.directory FileSystem.directoryMode)
    let s : Session Sink Sink := ⟨⟨Path.ofString "/", none, []⟩, files, {}, {}, []⟩
    let launcher : Launcher := fun _ _ => .error (.system .noEntry)
    let fault : Fault := .described .other "stdin went away"
    let stopped := runRecorded launcher {} ⟨Text.utf8 "cd a\npwd\nexit 3", some fault⟩ s
    let ended := run launcher {} ⟨Text.utf8 "exit 3\npwd", some fault⟩ s
    (∃ f, stopped.2.1 = .error f ∧ f.stage.message = "error reading input" ∧ f.cause = fault) ∧
      stopped.1.map Prod.fst = ["cd a\n", "pwd\n"] ∧
      stopped.2.2.out.taken = Text.utf8 "$ $ /a\n$ " ∧
      stopped.2.2.context.cwd = Path.ofString "/a" ∧
      ended.1 = .ok 3 ∧
      run launcher {} ⟨Text.utf8 "exit 3\n" ++ Text.utf8 "exit 4\n", none⟩ s = ended := by
  intro files s launcher fault stopped ended
  have hout : Receiver.Accepts s.out := ⟨rfl, rfl⟩
  have herr : Receiver.Accepts s.err := ⟨rfl, rfl⟩
  have htorn : IsTorn (Text.utf8 "cd a\npwd\nexit 3") [Text.utf8 "cd a\n", Text.utf8 "pwd\n"]
      (Text.utf8 "exit 3") :=
    IsTorn.of_cutLines (by decide +kernel)
  have htorn' : IsTorn (Text.utf8 "exit 3\npwd") [Text.utf8 "exit 3\n"] (Text.utf8 "pwd") :=
    IsTorn.of_cutLines (by decide +kernel)
  obtain ⟨-, hstopped⟩ := run_torn launcher {} hout herr htorn fault
  have hstopped : StopsAt _ _ _ _ _ _ stopped := (hstopped (by decide +kernel)).2.2
  obtain ⟨hended, -⟩ := run_torn launcher {} hout herr htorn' fault
  obtain ⟨hstatus, hmore⟩ := hended 3 (by decide +kernel)
  have hmore := hmore (Text.utf8 "exit 4\n") none
  rw [List.flatten_singleton] at hmore
  refine ⟨hstopped.failure, hstopped.handed.trans ?_, hstopped.out.trans ?_,
    (congrArg Context.cwd hstopped.context).trans ?_, hstatus, hmore⟩
  all_goals decide +kernel

end ReadLoop
end LineShell
