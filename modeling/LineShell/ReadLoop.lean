import LineShell.Session

/-! # The read loop

The loop writes the prompt, reads a line, carries it out, and so on until a command ends
the interpreter or the input ends.  Input is cut behind every newline byte; bytes after
the last newline are a line as well, unless reading fails before their end is known.
What is no UTF-8 in a line is replaced, so that every line is a text.
-/
namespace LineShell

/-- What there is to read: bytes, and then either the end or a failure. -/
structure Input where
  bytes : Bytes
  failure : Option Fault := none
  deriving DecidableEq, Repr

/-- Cuts bytes behind every newline: the complete lines, and what is left. -/
def cutLines : Bytes → List Bytes × Bytes
  | [] => ([], [])
  | b :: bs =>
    let (lines, rest) := cutLines bs
    if b = 10 then ([b] :: lines, rest)
    else
      match lines with
      | [] => ([], b :: rest)
      | line :: lines => ((b :: line) :: lines, rest)

/-- Nothing is lost by cutting. -/
theorem cutLines_flatten (bs : Bytes) : (cutLines bs).1.flatten ++ (cutLines bs).2 = bs := by
  induction bs with
  | nil => rfl
  | cons b bs ih =>
    rcases hc : cutLines bs with ⟨lines, rest⟩
    rw [hc] at ih
    by_cases hb : b = 10
    · simpa [cutLines, hc, hb] using ih
    · cases lines <;> simp_all [cutLines]

/-- What is left holds no newline. -/
theorem newline_notMem_rest (bs : Bytes) : 10 ∉ (cutLines bs).2 := by
  induction bs with
  | nil => simp [cutLines]
  | cons b bs ih =>
    rcases hc : cutLines bs with ⟨lines, rest⟩
    rw [hc] at ih
    by_cases hb : b = 10
    · simpa [cutLines, hc, hb] using ih
    · cases lines <;> simp_all [cutLines, eq_comm]

/-- Every line has its newline at the end and nowhere else. -/
theorem exists_eq_of_mem_cutLines {bs line : Bytes} (h : line ∈ (cutLines bs).1) :
    ∃ body, line = body ++ [10] ∧ 10 ∉ body := by
  induction bs generalizing line with
  | nil => simp [cutLines] at h
  | cons b bs ih =>
    rcases hc : cutLines bs with ⟨lines, rest⟩
    rw [hc] at ih
    by_cases hb : b = 10
    · simp only [cutLines, hc, hb, if_true, List.mem_cons] at h
      rcases h with rfl | h
      · exact ⟨[], by simp, by simp⟩
      · exact ih h
    · cases lines with
      | nil => simp [cutLines, hc, hb] at h
      | cons first lines =>
        simp only [cutLines, hc, hb, if_false, List.mem_cons] at h
        rcases h with rfl | h
        · obtain ⟨body, rfl, hnot⟩ := @ih first (by simp)
          exact ⟨b :: body, by simp, by simp [hnot, Ne.symm hb]⟩
        · exact ih (by simp [h])

/-- The lines that can be read from an input. -/
def Input.lines (i : Input) : List Bytes :=
  let (lines, rest) := cutLines i.bytes
  if i.failure.isSome || rest.isEmpty then lines else lines ++ [rest]

namespace ReadLoop

/-- What the loop was doing when it failed. -/
inductive Stage where
  | writingPrompt
  | readingInput
  | writingOutput
  | flushingOutput
  deriving DecidableEq, Repr

/-- Why the loop stopped before its time. -/
structure Failure where
  stage : Stage
  cause : Fault
  deriving DecidableEq, Repr

/-- The wording of a stage. -/
def Stage.message : Stage → String
  | .writingPrompt => "failed to write prompt"
  | .readingInput => "error reading input"
  | .writingOutput => "failed to write output"
  | .flushingOutput => "failed to flush output"

/-- A failure as the user sees it. -/
def Failure.message (f : Failure) : String := f.stage.message ++ ": " ++ f.cause.message

variable {ω ε : Type} [Writer ω] [Writer ε]

/-- Writes a text to the session's output stream and flushes it. -/
def prompt (s : Session ω ε) (text : String) : Option Fault × Session ω ε :=
  match s.writeOut (Text.utf8 text) with
  | (some fault, s) => (some fault, s)
  | (none, s) => s.flushOut

/-- Flushes both streams and ends the loop with a status. -/
def finish (s : Session ω ε) (status : Int) : Except Failure Int × Session ω ε :=
  match s.flushOut with
  | (some fault, s) => (.error ⟨.flushingOutput, fault⟩, s)
  | (none, s) =>
    match s.flushErr with
    | (some fault, s) => (.error ⟨.flushingOutput, fault⟩, s)
    | (none, s) => (.ok status, s)

/-- There are no more lines: either reading has failed, or the input has ended, and then
the terminal is left on a fresh line. -/
def atEnd (failure : Option Fault) (s : Session ω ε) : Except Failure Int × Session ω ε :=
  match failure with
  | some fault => (.error ⟨.readingInput, fault⟩, s)
  | none =>
    match prompt (s.note .inputEnded) "\n" with
    | (some fault, s) => (.error ⟨.writingOutput, fault⟩, s)
    | (none, s) => finish s 0

/-- Reads and carries out the lines that are left. -/
def readLines (launcher : Launcher) (promptText : String) (failure : Option Fault) :
    List Bytes → Session ω ε → Except Failure Int × Session ω ε
  | lines, s =>
    match prompt s promptText with
    | (some fault, s) => (.error ⟨.writingPrompt, fault⟩, s)
    | (none, s) =>
      match lines with
      -- the prompt comes first: whether there is another line shows only afterwards
      | [] => atEnd failure s
      | line :: rest =>
        match s.executeLine launcher (Text.lossyString line) with
        | (.exit status, s) => finish s status
        | (.proceed, s) => readLines launcher promptText failure rest s

section Passes
variable {launcher : Launcher} {promptText : String} {failure : Option Fault}
variable {line : Bytes} {rest : List Bytes} {s t u : Session ω ε}

/-- A prompt that is refused ends the loop. -/
theorem readLines_of_refused {fault : Fault} (h : prompt s promptText = (some fault, t))
    (lines : List Bytes) :
    readLines launcher promptText failure lines s = (.error ⟨.writingPrompt, fault⟩, t) := by
  rw [readLines.eq_def]
  simp only [h]

/-- There is nothing more to read. -/
theorem readLines_nil (h : prompt s promptText = (none, t)) :
    readLines launcher promptText failure [] s = atEnd failure t := by
  rw [readLines.eq_def]
  simp only [h]

/-- A line ends the loop. -/
theorem readLines_of_exit {status : Int} (h : prompt s promptText = (none, t))
    (hline : t.executeLine launcher (Text.lossyString line) = (.exit status, u)) :
    readLines launcher promptText failure (line :: rest) s = finish u status := by
  rw [readLines.eq_def]
  simp only [h, hline]

/-- The loop goes on after a line. -/
theorem readLines_of_proceed (h : prompt s promptText = (none, t))
    (hline : t.executeLine launcher (Text.lossyString line) = (.proceed, u)) :
    readLines launcher promptText failure (line :: rest) s =
      readLines launcher promptText failure rest u := by
  rw [readLines.eq_def]
  simp only [h, hline]

end Passes

/-- Runs the loop over an input.  The status is the one that a command asked for, or 0 at
the end of the input. -/
def run (launcher : Launcher) (settings : Settings) (input : Input) (s : Session ω ε) :
    Except Failure Int × Session ω ε :=
  readLines launcher settings.prompt input.failure input.lines s

end ReadLoop
end LineShell
