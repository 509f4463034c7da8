import LineShell.Proofs.Scanning

/-! # The first operator of a line

A line with a live operator is a phrase, the operator, and a rest of any kind.  The words of
the command are those of the phrase, and the rest has no influence on them.  Only a word
typed as the single character `1` or `2` right before the operator is no word of the
command: it selects the stream (`Word.selects?`).  That is a fact about what was typed, while
the scan sees a flag and the characters it has read; the two agree
(`Phrase.pending_eq_singleton_iff`), since a word that was typed in one character was typed
plain, and a plain word is typed as what it stands for.

The rest of the line, trimmed, is the path as it stands, and without a path there is no
redirection (`Redirect.requested`).
-/
namespace LineShell

/-! ## What the operator and the word before it say -/

/-- How an operator is typed. -/
def WriteMode.operator : WriteMode → List Char
  | overwrite => ['>']
  | append => ['>', '>']

/-- The stream that a word selects if an operator is glued to it. -/
def Word.selects? (w : Word) : Option Stream :=
  if w.typed = ['2'] then some .stderr
  else if w.typed = ['1'] then some .stdout
  else none

namespace Phrase

/-- The stream that the last word selects, if an operator is glued to the phrase. -/
def selected? (p : Phrase) : Option Stream := p.last.bind Word.selects?

/-- The words of a phrase to which an operator is glued: a last word that selects a stream
is none of them. -/
def wordsBeforeOperator (p : Phrase) : List Word :=
  p.spaced.map Prod.fst ++ p.last.toList.filter (·.selects? = none)

end Phrase

/-- The redirection that an operator asks for with `rest` behind it. -/
def Redirect.requested (stream : Stream) (mode : WriteMode) (rest : List Char) :
    Option Redirect :=
  if Text.trim rest = [] then none else some ⟨stream, String.ofList (Text.trim rest), mode⟩

/-! ## The flag and the digit -/

namespace Phrase

/-- What has been read at the end of a phrase is a certain character, without quotes and
backslashes, exactly if the last word was typed as this character. -/
theorem pending_eq_singleton_iff (p : Phrase) (c : Char) :
    (p.pendingIsBare = true ∧ p.pending = [c]) ↔ ∃ w, p.last = some w ∧ w.typed = [c] := by
  rw [pendingIsBare, pending]
  cases p.last with
  | none =>
    constructor
    · rintro ⟨_, h⟩
      cases h
    · rintro ⟨w, h, _⟩
      cases h
  | some w =>
    constructor
    · rintro ⟨hbare, hread⟩
      exact ⟨w, rfl, (Word.typed_of_isBare hbare).trans hread⟩
    · rintro ⟨w', hw, htyped⟩
      obtain rfl := Option.some.inj hw
      have hbare := Word.isBare_of_typed_singleton htyped
      exact ⟨hbare, (Word.typed_of_isBare hbare).symm.trans htyped⟩

/-- The stream selected, told by what the scan knows. -/
theorem selected?_eq (p : Phrase) :
    p.selected? =
      if p.pendingIsBare = true ∧ p.pending = ['2'] then some .stderr
      else if p.pendingIsBare = true ∧ p.pending = ['1'] then some .stdout
      else none := by
  simp only [pending_eq_singleton_iff]
  rw [selected?]
  cases p.last with
  | none => simp
  | some w => simp [Word.selects?]

/-- The words before an operator, told by the word that is still being read. -/
theorem wordsBeforeOperator_map_meaning (p : Phrase) (s : Scanned) :
    Scanned.consWords (p.wordsBeforeOperator.map Word.meaning) s =
      Scanned.consWords (p.spaced.map fun w => w.1.meaning)
        (Scanned.consWord (if p.selected? = none then p.pending else []) s) := by
  rw [wordsBeforeOperator, List.map_append, List.map_map, Scanned.consWords_append, selected?,
    pending]
  congr 1
  cases p.last with
  | none => rfl
  | some w =>
    change _ = Scanned.consWord (if w.selects? = none then w.meaning else []) s
    by_cases hw : w.selects? = none
    · simp [hw]
    · simp [hw]

end Phrase

/-! ## The scan at an operator -/

namespace Scanned

/-- With or without a path, the word before the operator is settled. -/
theorem consWord_path (word path : List Char) (stream : Stream) (mode : WriteMode) :
    (if path = [] then consWord word ⟨[], none, true⟩
      else consWord word ⟨[], some ⟨stream, String.ofList path, mode⟩, false⟩) =
      consWord word ⟨[], if path = [] then none else some ⟨stream, String.ofList path, mode⟩,
        decide (path = [])⟩ := by
  by_cases hpath : path = []
  · simp [hpath]
  · simp [hpath]

/-- Whatever stands at an operator, at most one word is settled by it, and the redirection
is the one that some rest of the line asks for. -/
theorem operator_eq_consWord (bare : Bool) (word rest : List Char) :
    ∃ stream kept mode rest', operator bare word rest =
      consWord kept ⟨[], Redirect.requested stream mode rest', decide (Text.trim rest' = [])⟩ := by
  simp only [operator, Redirect.requested, consWord_path]
  exact ⟨_, _, _, _, rfl⟩

/-- What the operator leaves of the word before it and of the rest behind it. -/
theorem operator_phrase (p : Phrase) (mode : WriteMode) (rest : List Char)
    (h : mode = .overwrite → rest.head? ≠ some '>') :
    operator p.pendingIsBare p.pending (mode.operator.tail ++ rest) =
      consWord (if p.selected? = none then p.pending else [])
        ⟨[], Redirect.requested (p.selected?.getD .stdout) mode rest,
          decide (Text.trim rest = [])⟩ := by
  have hstream : (if p.pendingIsBare && p.pending = ['2'] then (Stream.stderr, [])
      else if p.pendingIsBare && p.pending = ['1'] then (Stream.stdout, [])
      else (Stream.stdout, p.pending)) =
        (p.selected?.getD .stdout, if p.selected? = none then p.pending else []) := by
    rw [p.selected?_eq]
    simp only [Bool.and_eq_true, decide_eq_true_eq]
    split
    · rfl
    · split
      · rfl
      · rfl
  rw [Redirect.requested, ← consWord_path]
  cases mode with
  | append => simp only [WriteMode.operator, List.tail_cons, List.cons_append, List.nil_append,
      operator, hstream]
  | overwrite =>
    simp only [WriteMode.operator, List.tail_cons, List.nil_append, operator, hstream]
    split
    · next rest => exact absurd rfl (h rfl)
    · rfl

/-- **The scan of a phrase with an operator behind it.** -/
theorem scan_phrase_operator (p : Phrase) (mode : WriteMode) (rest : List Char)
    (h : mode = .overwrite → rest.head? ≠ some '>') :
    scan .none true [] (p.typed ++ (mode.operator ++ rest)) =
      consWords (p.wordsBeforeOperator.map Word.meaning)
        ⟨[], Redirect.requested (p.selected?.getD .stdout) mode rest,
          decide (Text.trim rest = [])⟩ := by
  have hcons : mode.operator ++ rest = '>' :: (mode.operator.tail ++ rest) := by
    cases mode <;> rfl
  rw [scan_phrase, hcons, scan_none_operator, List.reverse_reverse, operator_phrase p mode rest h,
    p.wordsBeforeOperator_map_meaning]

end Scanned

/-! ## The line -/

namespace WriteMode

theorem head_operator (mode : WriteMode) : mode.operator.head? = some '>' := by cases mode <;> rfl

theorem getLast_operator (mode : WriteMode) : mode.operator.getLast? = some '>' := by
  cases mode <;> rfl

theorem tight_operator (mode : WriteMode) : Text.Tight mode.operator :=
  ⟨⟨'>', mode.head_operator, by decide⟩, '>', mode.getLast_operator, by decide⟩

end WriteMode

/-- What is found on a line with an operator. -/
theorem Scanned.ofLine_typed_operator (p : Phrase) (mode : WriteMode) (rest : List Char)
    (h : mode = .overwrite → rest.head? ≠ some '>') :
    Scanned.ofLine (String.ofList (p.typed ++ mode.operator ++ rest)) =
      Scanned.consWords (p.wordsBeforeOperator.map Word.meaning)
        ⟨[], Redirect.requested (p.selected?.getD .stdout) mode rest,
          decide (Text.trim rest = [])⟩ := by
  have htrim : Text.trim (p.typed ++ mode.operator ++ rest) =
      p.unled.typed ++ (mode.operator ++ rest.rdropWhile Text.isBlank) := by
    rw [p.typed_eq_unled, List.append_assoc, List.append_assoc,
      Text.trim_append_left p.lead_blank, ← List.append_assoc,
      Text.trim_append (p.tight_unled_append mode.tight_operator), List.append_assoc]
  -- the blanks at the end of the line are not what the rest begins with
  have hrest : mode = .overwrite → (rest.rdropWhile Text.isBlank).head? ≠ some '>' := by
    intro hmode hhead
    obtain ⟨tail, htail⟩ := List.rdropWhile_prefix Text.isBlank (l := rest)
    refine h hmode ?_
    rw [← htail, List.head?_append, hhead, Option.some_or]
  rw [Scanned.ofLine, String.toList_ofList, htrim, Scanned.scan_phrase_operator _ _ _ hrest,
    Redirect.requested, Text.trim_rdropWhile]
  rfl

/-- **The words of a line end at its first live operator.**  They are the words typed before
it, except for one that is typed as `1` or `2` and glued to it: that one selects the stream.
A doubled operator appends, the trimmed rest of the line is the path as it stands, and
without a path there is no redirection.  The command is blank exactly if no word is left. -/
theorem Command.ofLine_operator (p : Phrase) (mode : WriteMode) (rest : List Char)
    (h : mode = .overwrite → rest.head? ≠ some '>') :
    let c := Command.ofLine (String.ofList (p.typed ++ mode.operator ++ rest))
    (c.isBlank = true ↔ Word.kept p.wordsBeforeOperator = []) ∧
    (c.isBlank = false →
      c.verb :: c.arguments = Word.kept p.wordsBeforeOperator ∧
      c.redirect = Redirect.requested (p.selected?.getD .stdout) mode rest) := by
  intro c
  have hc : c = Command.ofWords (Word.kept p.wordsBeforeOperator)
      (Redirect.requested (p.selected?.getD .stdout) mode rest) := by
    rw [← Scanned.command_consWords, ← Scanned.ofLine_typed_operator p mode rest h]
    rfl
  rw [hc]
  cases hk : Word.kept p.wordsBeforeOperator with
  | nil => simp
  | cons verb arguments =>
    have hverb : verb ≠ "" := Word.ne_empty_of_mem_kept (by rw [hk]; exact List.mem_cons_self)
    simp [Command.isBlank, hverb]

/-- A quoted digit and a bare one before an operator, and an operator in the path: the line is
`p ''2 2> 'f' > g `. -/
theorem Command.ofLine_operator_selecting :
    let gap : Gap := ⟨[' '], by decide, by decide⟩
    let p : Phrase := ⟨[], by decide, [(⟨[.plain 'p' (by decide)], by simp⟩, gap),
      (⟨[.single [] (by decide), .plain '2' (by decide)], by simp⟩, gap)],
      some ⟨[.plain '2' (by decide)], by simp⟩⟩
    let rest := " 'f' > g ".toList
    (WriteMode.overwrite = .overwrite → rest.head? ≠ some '>') ∧
      Command.ofLine (String.ofList (p.typed ++ WriteMode.overwrite.operator ++ rest)) =
        ⟨"p", ["2"], some ⟨.stderr, "'f' > g", .overwrite⟩⟩ := by
  intro gap p rest
  have hrest : WriteMode.overwrite = .overwrite → rest.head? ≠ some '>' := by decide
  obtain ⟨hwords, hredirect⟩ := (Command.ofLine_operator p .overwrite rest hrest).2 (by decide)
  refine ⟨hrest, ?_⟩
  have hkept : Word.kept p.wordsBeforeOperator = ["p", "2"] := by decide
  have hrequested : Redirect.requested (p.selected?.getD .stdout) .overwrite rest =
      some ⟨.stderr, "'f' > g", .overwrite⟩ := by decide
  rw [hkept] at hwords
  rw [hrequested] at hredirect
  generalize Command.ofLine _ = c at hwords hredirect
  obtain ⟨verb, arguments, redirect⟩ := c
  obtain ⟨rfl, rfl⟩ := List.cons.inj hwords
  rw [← hredirect]

end LineShell
