import LineShell.Proofs.Characters
import LineShell.Proofs.Cutting
import Mathlib.Control.Monad.Basic

/-! # The lines that are handed over

The read loop cuts bytes and reads each piece as a text.  It comes to the same to read the whole
input and to cut the text: the texts that the loop hands over to be carried out are the decoded
input, cut behind every newline character.  A broken run at the end of a line takes no newline
with it, and what stands in one line makes no difference to another.
-/
namespace LineShell

/-! ## Cutting a text -/

namespace Text

/-- A text cut behind every newline. -/
def cut : List Char → List (List Char)
  | [] => []
  | c :: cs =>
    if c = '\n' then [c] :: cut cs
    else
      match cut cs with
      | [] => [[c]]
      | line :: lines => (c :: line) :: lines

/-- Nothing is lost by cutting. -/
theorem cut_flatten (cs : List Char) : (cut cs).flatten = cs := by
  induction cs with
  | nil => rfl
  | cons c cs ih =>
    by_cases hc : c = '\n'
    · simp [cut, hc, ih]
    · cases hcut : cut cs <;> simp_all [cut]

/-- A newline ends the line before it. -/
theorem cut_append_newline {body : List Char} (h : '\n' ∉ body) (more : List Char) :
    cut (body ++ '\n' :: more) = (body ++ ['\n']) :: cut more := by
  induction body with
  | nil => rfl
  | cons c body ih =>
    obtain ⟨hc, hbody⟩ := List.ne_and_not_mem_of_not_mem_cons h
    simp [cut, ih hbody, Ne.symm hc]

/-- Without a newline nothing is cut. -/
theorem cut_of_notMem {cs : List Char} (h : '\n' ∉ cs) (hne : cs ≠ []) : cut cs = [cs] := by
  induction cs with
  | nil => exact absurd rfl hne
  | cons c cs ih =>
    obtain ⟨hc, hcs⟩ := List.ne_and_not_mem_of_not_mem_cons h
    by_cases hend : cs = []
    · simp [cut, hend, Ne.symm hc]
    · simp [cut, ih hcs hend, Ne.symm hc]

/-- Complete lines and a rest are read one by one. -/
theorem cut_decodeLossy_flatten {complete : List Bytes} {rest : Bytes}
    (hcomplete : ∀ line ∈ complete, ∃ body, line = body ++ [10] ∧ 10 ∉ body) (hrest : 10 ∉ rest) :
    cut (decodeLossy (complete.flatten ++ rest)) =
      (if rest = [] then complete else complete ++ [rest]).map decodeLossy := by
  induction complete with
  | nil =>
    by_cases hempty : rest = []
    · simp [hempty, cut]
    · have hne : decodeLossy rest ≠ [] := fun h => hempty (decodeLossy_eq_nil_iff.mp h)
      simp [hempty, cut_of_notMem (newline_notMem_decodeLossy hrest) hne]
  | cons line complete ih =>
    obtain ⟨body, rfl, hbody⟩ := hcomplete line List.mem_cons_self
    have ih := ih fun later hlater => hcomplete later (List.mem_cons_of_mem _ hlater)
    have hsplit : ((body ++ [10]) :: complete).flatten ++ rest =
        body ++ 10 :: (complete.flatten ++ rest) := by simp
    have hnewline : Char.ofNat (10 : UInt8).toNat = '\n' := rfl
    rw [hsplit, decodeLossy_append_ascii (by decide), hnewline,
      cut_append_newline (newline_notMem_decodeLossy hbody), ih, ← decodeLossy_append_newline]
    split <;> rfl

/-- **Reading commutes with cutting.** -/
theorem cut_decodeLossy (bytes : Bytes) :
    cut (decodeLossy bytes) = (Input.lines ⟨bytes, none⟩).map decodeLossy := by
  have hcomplete : ∀ line ∈ (cutLines bytes).1, ∃ body, line = body ++ [10] ∧ 10 ∉ body :=
    fun _ => exists_eq_of_mem_cutLines
  have hcut := cut_decodeLossy_flatten hcomplete (newline_notMem_rest bytes)
  rw [cutLines_flatten] at hcut
  rw [hcut]
  by_cases hrest : (cutLines bytes).2 = [] <;> simp [Input.lines, hrest]

end Text

namespace ReadLoop
variable {ω ε : Type} [Writer ω] [Writer ε]

/-! ## The loop with a record -/

/-- The read loop with a record of what it hands over: the text of each line that it carries out,
and the flow that comes of it. -/
def readLinesRecorded (launcher : Launcher) (promptText : String) (failure : Option Fault) :
    List Bytes → Session ω ε → List (String × Flow) × (Except Failure Int × Session ω ε)
  | lines, s =>
    match prompt s promptText with
    | (some fault, s) => ([], .error ⟨.writingPrompt, fault⟩, s)
    | (none, s) =>
      match lines with
      | [] => ([], atEnd failure s)
      | line :: rest =>
        let text := Text.lossyString line
        match s.executeLine launcher text with
        | (.exit status, s) => ([(text, .exit status)], finish s status)
        | (.proceed, s) =>
          let (handed, result) := readLinesRecorded launcher promptText failure rest s
          ((text, .proceed) :: handed, result)

/-- `run` with a record of what the loop hands over. -/
def runRecorded (launcher : Launcher) (settings : Settings) (input : Input) (s : Session ω ε) :
    List (String × Flow) × (Except Failure Int × Session ω ε) :=
  readLinesRecorded launcher settings.prompt input.failure input.lines s

section
variable {launcher : Launcher} {promptText : String} {failure : Option Fault}
variable {line : Bytes} {rest : List Bytes} {s t u : Session ω ε}

theorem readLinesRecorded_of_refused {fault : Fault} (h : prompt s promptText = (some fault, t))
    (lines : List Bytes) :
    readLinesRecorded launcher promptText failure lines s =
      ([], .error ⟨.writingPrompt, fault⟩, t) := by
  rw [readLinesRecorded.eq_def]
  simp only [h]

theorem readLinesRecorded_nil (h : prompt s promptText = (none, t)) :
    readLinesRecorded launcher promptText failure [] s = ([], atEnd failure t) := by
  rw [readLinesRecorded.eq_def]
  simp only [h]

theorem readLinesRecorded_of_exit {status : Int} (h : prompt s promptText = (none, t))
    (hline : t.executeLine launcher (Text.lossyString line) = (.exit status, u)) :
    readLinesRecorded launcher promptText failure (line :: rest) s =
      ([(Text.lossyString line, .exit status)], finish u status) := by
  rw [readLinesRecorded.eq_def]
  simp only [h, hline]

theorem readLinesRecorded_of_proceed (h : prompt s promptText = (none, t))
    (hline : t.executeLine launcher (Text.lossyString line) = (.proceed, u)) :
    readLinesRecorded launcher promptText failure (line :: rest) s =
      let (handed, result) := readLinesRecorded launcher promptText failure rest u
      ((Text.lossyString line, .proceed) :: handed, result) := by
  rw [readLinesRecorded.eq_def]
  simp only [h, hline]

/-- To keep a record changes nothing. -/
theorem readLinesRecorded_snd (lines : List Bytes) (s : Session ω ε) :
    (readLinesRecorded launcher promptText failure lines s).2 =
      readLines launcher promptText failure lines s := by
  induction lines generalizing s with
  | nil =>
    rcases hprompt : prompt s promptText with ⟨_ | fault, t⟩
    · rw [readLinesRecorded_nil hprompt, readLines_nil hprompt]
    · rw [readLinesRecorded_of_refused hprompt, readLines_of_refused hprompt]
  | cons line rest ih =>
    rcases hprompt : prompt s promptText with ⟨_ | fault, t⟩
    · rcases hline : t.executeLine launcher (Text.lossyString line) with ⟨_ | status, u⟩
      · rw [readLinesRecorded_of_proceed hprompt hline, readLines_of_proceed hprompt hline]
        exact ih u
      · rw [readLinesRecorded_of_exit hprompt hline, readLines_of_exit hprompt hline]
    · rw [readLinesRecorded_of_refused hprompt, readLines_of_refused hprompt]

/-- What is handed over are the texts of the lines, from the first on. -/
theorem map_fst_readLinesRecorded (lines : List Bytes) (s : Session ω ε) :
    (readLinesRecorded launcher promptText failure lines s).1.map Prod.fst <+:
      lines.map Text.lossyString := by
  induction lines generalizing s with
  | nil =>
    rcases hprompt : prompt s promptText with ⟨_ | fault, t⟩
    · rw [readLinesRecorded_nil hprompt]
      exact List.nil_prefix
    · rw [readLinesRecorded_of_refused hprompt]
      exact List.nil_prefix
  | cons line rest ih =>
    rcases hprompt : prompt s promptText with ⟨_ | fault, t⟩
    · rcases hline : t.executeLine launcher (Text.lossyString line) with ⟨_ | status, u⟩
      · rw [readLinesRecorded_of_proceed hprompt hline]
        exact List.cons_prefix_cons.mpr ⟨rfl, ih u⟩
      · rw [readLinesRecorded_of_exit hprompt hline]
        exact List.cons_prefix_cons.mpr ⟨rfl, List.nil_prefix⟩
    · rw [readLinesRecorded_of_refused hprompt]
      exact List.nil_prefix

/-- All of them are, unless a line ends the loop or a prompt is refused. -/
theorem readLinesRecorded_complete (lines : List Bytes) (s : Session ω ε)
    (hproceed : ∀ e ∈ (readLinesRecorded launcher promptText failure lines s).1, e.2 = .proceed)
    (hprompts : ∀ fault, (readLines launcher promptText failure lines s).1 ≠
      .error ⟨.writingPrompt, fault⟩) :
    (readLinesRecorded launcher promptText failure lines s).1.map Prod.fst =
      lines.map Text.lossyString := by
  induction lines generalizing s with
  | nil => exact List.prefix_nil.mp (map_fst_readLinesRecorded [] s)
  | cons line rest ih =>
    rcases hprompt : prompt s promptText with ⟨_ | fault, t⟩
    · rcases hline : t.executeLine launcher (Text.lossyString line) with ⟨_ | status, u⟩
      · rw [readLinesRecorded_of_proceed hprompt hline] at hproceed ⊢
        rw [readLines_of_proceed hprompt hline] at hprompts
        exact congrArg (Text.lossyString line :: ·)
          (ih u (fun e he => hproceed e (List.mem_cons_of_mem _ he)) hprompts)
      · rw [readLinesRecorded_of_exit hprompt hline] at hproceed
        cases hproceed _ List.mem_cons_self
    · rw [readLines_of_refused hprompt] at hprompts
      exact absurd rfl (hprompts fault)

end

/-- **The loop hands over the decoded input, line by line.**  Keeping a record of it changes
nothing.  In any run, whatever the streams refuse, the texts that are handed over are the first
lines of the decoded input, cut behind every newline character.  If no line ends the loop and no
prompt is refused, they are all of them, so that put together they are the decoded input.  Each
is read from the bytes of its own line alone, and a line that is the UTF-8 form of a text is
handed over as that text. -/
theorem run_hands_over (launcher : Launcher) (settings : Settings) (s : Session ω ε)
    {bytes : Bytes} {lines : List Bytes} (hcut : IsCut bytes lines) :
    let recorded := runRecorded launcher settings ⟨bytes, none⟩ s
    let texts := recorded.1.map Prod.fst
    let decoded := Text.decodeLossy bytes
    recorded.2 = run launcher settings ⟨bytes, none⟩ s ∧
    texts.map String.toList <+: Text.cut decoded ∧
    ((∀ e ∈ recorded.1, e.2 = .proceed) →
      (∀ fault, recorded.2.1 ≠ .error ⟨.writingPrompt, fault⟩) →
      texts.flatMap String.toList = decoded ∧
      texts.map String.toList = Text.cut decoded ∧
      texts = lines.map Text.lossyString ∧
      ∀ (i : Nat) (cs : List Char),
        lines[i]? = some (Text.encode cs) → texts[i]? = some (String.ofList cs)) := by
  intro recorded texts decoded
  have hlines := Input.lines_of_isCut hcut
  have hdecoded : (lines.map Text.lossyString).map String.toList = Text.cut decoded := by
    rw [Text.cut_decodeLossy, hlines, List.map_map]
    exact List.map_congr_left fun line _ => String.toList_ofList
  have hsame : recorded.2 = run launcher settings ⟨bytes, none⟩ s := readLinesRecorded_snd _ s
  have hfirst : texts <+: lines.map Text.lossyString := hlines ▸ map_fst_readLinesRecorded _ s
  refine ⟨hsame, hdecoded ▸ hfirst.map String.toList, fun hproceed hprompts => ?_⟩
  rw [hsame] at hprompts
  have hall : texts = lines.map Text.lossyString :=
    hlines ▸ readLinesRecorded_complete _ s hproceed hprompts
  refine ⟨?_, hall ▸ hdecoded, hall, fun i cs hline => ?_⟩
  · rw [List.flatMap_def, hall, hdecoded, Text.cut_flatten]
  · rw [hall, List.getElem?_map, hline, Option.map_some, Text.lossyString, Text.decodeLossy_encode]

/-- A sequence that is broken off by a newline, a line of characters of one byte and of two, and a
surrogate at the end of the input. -/
theorem run_hands_over_broken :
    let s : Session Sink Sink := ⟨⟨Path.ofString "/", none, []⟩, .empty, {}, {}, []⟩
    let launcher : Launcher := fun _ _ => .error (.system .noEntry)
    let lines : List Bytes := [[0xE2, 0x82, 10], Text.utf8 "echo é\n", [0xED, 0xA0, 0x80]]
    let recorded := runRecorded launcher {} ⟨lines.flatten, none⟩ s
    IsCut lines.flatten lines ∧ (∀ e ∈ recorded.1, e.2 = .proceed) ∧
      recorded.2.1 = .ok 0 ∧
      recorded.1.map Prod.fst = ["\uFFFD\n", "echo é\n", "\uFFFD\uFFFD\uFFFD"] ∧
      (recorded.1.map Prod.fst)[1]? = some (String.ofList "echo é\n".toList) ∧
      recorded.2.2.out.taken = Text.utf8 "$ $ é\n$ $ \n" := by
  intro s launcher lines recorded
  have hlines : Input.lines ⟨lines.flatten, none⟩ = lines := by decide +kernel
  have hcut : IsCut lines.flatten lines := hlines ▸ Input.isCut_lines lines.flatten
  have hproceed : ∀ e ∈ recorded.1, e.2 = .proceed := by decide +kernel
  have hended : recorded.2.1 = .ok 0 := by decide +kernel
  obtain ⟨-, -, hhanded⟩ := run_hands_over launcher {} s hcut
  obtain ⟨-, -, htexts, hvalid⟩ := hhanded hproceed fun fault hrefused => by
    rw [hended] at hrefused
    cases hrefused
  exact ⟨hcut, hproceed, hended, htexts.trans (by decide +kernel), hvalid 1 _ rfl,
    by decide +kernel⟩

end ReadLoop
end LineShell
