import LineShell.Proofs.Scanning

/-! # Open quotes and dangling backslashes

A scan may come to the end of its line in the middle of something: inside quotes, or behind a
backslash whose character is missing.  What it is in the middle of depends on the whole text
before, since a quote means nothing behind a backslash or inside quotes of the other kind; it
is the state of an automaton that reads the text once (`Text.posture`), and the scan itself is
in this state (`Scanned.scan_posture`).

An open text is a phrase and an ending behind it (`Text.exists_ending`), and an ending is a
fragment that lacks its last characters.  By induction on the text, from its end: every
character either makes the ending longer, or completes it to a fragment of the phrase.  The scan
treats an ending like that fragment (`Scanned.scan_ending_end`), so the line asks for the same
command as the line that has been completed.

A line is trimmed before it is scanned, and so is the completed one.  The second trimming takes
nothing away: the completed line ends in a quote.
-/
namespace LineShell

/-! ## The state of the scan at the end of a text -/

/-- What a scan is in the middle of. -/
inductive Posture where
  /-- Outside quotes, and nothing is missing. -/
  | unquoted
  /-- Outside quotes, behind a backslash that waits for its character. -/
  | escape
  | single
  | double
  /-- Inside double quotes, behind a backslash that waits for its character. -/
  | doubleEscape
  /-- Behind a live operator, where nothing is scanned any more. -/
  | operator
  deriving DecidableEq, Repr

/-- One more character. -/
def Posture.next : Posture → Char → Posture
  | unquoted, c =>
    if c = '\\' then escape
    else if c = '\'' then single
    else if c = '"' then double
    else if c = '>' then operator
    else unquoted
  | escape, _ => unquoted
  | single, c => if c = '\'' then unquoted else single
  | double, c =>
    if c = '"' then unquoted
    else if c = '\\' then doubleEscape
    else double
  | doubleEscape, _ => double
  | operator, _ => operator

/-- What the scan of a text is in the middle of at its end. -/
def Text.posture (text : List Char) : Posture := text.foldl Posture.next .unquoted

theorem Text.posture_concat (text : List Char) (c : Char) :
    posture (text ++ [c]) = (posture text).next c := List.foldl_concat ..

/-! ## Endings -/

/-- What stands open at the end of a text. -/
inductive Ending where
  | escape
  | single (text : List Char) (h : '\'' ∉ text)
  | double (items : List QuotedItem)
  | doubleEscape (items : List QuotedItem)

namespace Ending

def typed : Ending → List Char
  | escape => ['\\']
  | single text _ => '\'' :: text
  | double items => '"' :: items.flatMap QuotedItem.typed
  | doubleEscape items => '"' :: items.flatMap QuotedItem.typed ++ ['\\']

def posture : Ending → Posture
  | escape => .escape
  | single _ _ => .single
  | double _ => .double
  | doubleEscape _ => .doubleEscape

/-- The fragment that it stands for.  A backslash without a character stands for nothing. -/
def fragment : Ending → Fragment
  | escape => .single [] List.not_mem_nil
  | single text h => .single text h
  | double items => .double items
  | doubleEscape items => .double items

end Ending

/-! ## Every open text has an ending -/

namespace Phrase

/-- The last word of a phrase, with a fragment glued to it. -/
def grown (p : Phrase) (f : Fragment) : Word :=
  ⟨p.last.elim [] Word.fragments ++ [f], List.append_ne_nil_of_right_ne_nil _ (List.cons_ne_nil f [])⟩

/-- A phrase with a fragment glued to it. -/
def glue (p : Phrase) (f : Fragment) : Phrase := { p with last := some (p.grown f) }

theorem typed_glue (p : Phrase) (f : Fragment) : (p.glue f).typed = p.typed ++ f.typed := by
  simp only [typed, glue, grown, Option.toList_some, List.flatMap_singleton, Word.typed,
    List.flatMap_append, List.append_assoc]
  cases p.last with
  | none => rfl
  | some w => simp [Word.typed]

/-- A blank behind a phrase belongs to a phrase of the same words. -/
theorem exists_typed_blank (p : Phrase) {c : Char} (h : Text.isBlank c = true) :
    ∃ q : Phrase, q.typed = p.typed ++ [c] := by
  have hc : Text.AllBlank [c] := by simpa [Text.AllBlank] using h
  obtain ⟨lead, hlead, spaced, last⟩ := p
  cases last with
  | some w =>
    refine ⟨⟨lead, hlead, spaced ++ [(w, ⟨[c], List.cons_ne_nil _ _, hc⟩)], none⟩, ?_⟩
    simp [typed, typedSpaced]
  | none =>
    rcases List.eq_nil_or_concat' spaced with rfl | ⟨spaced, ⟨w, gap⟩, rfl⟩
    · have hblank : Text.AllBlank (lead ++ [c]) := fun d hd =>
        (List.mem_append.mp hd).elim (hlead d) (hc d)
      refine ⟨⟨lead ++ [c], hblank, [], none⟩, ?_⟩
      simp [typed, typedSpaced]
    · have hblank : Text.AllBlank (gap.blanks ++ [c]) := fun d hd =>
        (List.mem_append.mp hd).elim (gap.blank d) (hc d)
      refine ⟨⟨lead, hlead, spaced ++ [(w, ⟨gap.blanks ++ [c], by simp, hblank⟩)], none⟩, ?_⟩
      simp [typed, typedSpaced]

end Phrase

/-- A text that is a phrase, one that has an ending behind it, or one with an operator. -/
inductive Text.Ends (text : List Char) : Posture → Prop
  | closed (p : Phrase) (h : text = p.typed) : Ends text .unquoted
  | opened (p : Phrase) (e : Ending) (h : text = p.typed ++ e.typed) : Ends text e.posture
  | operator (p : Phrase) (rest : List Char) (h : text = p.typed ++ '>' :: rest) :
      Ends text .operator

namespace Text
variable {text : List Char} {posture : Posture}

theorem Ends.glue (p : Phrase) (f : Fragment) : Ends (p.typed ++ f.typed) .unquoted :=
  .closed (p.glue f) (p.typed_glue f).symm

/-- A character behind a phrase. -/
theorem Ends.next_closed (p : Phrase) (c : Char) :
    Ends (p.typed ++ [c]) (Posture.unquoted.next c) := by
  by_cases hbackslash : c = '\\'
  · subst hbackslash
    exact .opened p .escape rfl
  by_cases hsingle : c = '\''
  · subst hsingle
    exact .opened p (.single [] List.not_mem_nil) rfl
  by_cases hdouble : c = '"'
  · subst hdouble
    exact .opened p (.double []) rfl
  by_cases hoperator : c = '>'
  · subst hoperator
    exact .operator p [] rfl
  have hnext : Posture.unquoted.next c = .unquoted := by
    simp [Posture.next, hbackslash, hsingle, hdouble, hoperator]
  rw [hnext]
  by_cases hblank : isBlank c = true
  · obtain ⟨q, hq⟩ := p.exists_typed_blank hblank
    exact .closed q hq.symm
  · have hplain : isPlain c = true := by
      simp [isPlain, hblank, hbackslash, hsingle, hdouble, hoperator]
    exact .glue p (.plain c hplain)

/-- A character behind an ending completes it to a fragment, or makes it longer. -/
theorem Ends.next_opened (p : Phrase) (e : Ending) (c : Char) :
    Ends (p.typed ++ e.typed ++ [c]) (e.posture.next c) := by
  rw [List.append_assoc]
  cases e with
  | escape => exact .glue p (.escaped c)
  | single text h =>
    by_cases hc : c = '\''
    · subst hc
      exact .glue p (.single text h)
    · rw [Ending.posture, Posture.next, if_neg hc]
      exact .opened p (.single (text ++ [c]) (by simp [h, Ne.symm hc])) rfl
  | double items =>
    by_cases hquote : c = '"'
    · subst hquote
      exact .glue p (.double items)
    by_cases hbackslash : c = '\\'
    · subst hbackslash
      exact .opened p (.doubleEscape items) rfl
    · rw [Ending.posture, Posture.next, if_neg hquote, if_neg hbackslash]
      refine .opened p (.double (items ++ [.char c ⟨hquote, hbackslash⟩])) ?_
      simp [Ending.typed, QuotedItem.typed]
  | doubleEscape items =>
    refine .opened p (.double (items ++ [.escaped c])) ?_
    simp [Ending.typed, QuotedItem.typed]

/-- **One more character** keeps a text in what its posture says. -/
theorem Ends.next (h : Ends text posture) (c : Char) : Ends (text ++ [c]) (posture.next c) := by
  cases h with
  | closed p h => exact h ▸ Ends.next_closed p c
  | opened p e h => exact h ▸ Ends.next_opened p e c
  | operator p rest h => exact .operator p (rest ++ [c]) (by simp [h])

/-- Every text ends as its posture says. -/
theorem ends (text : List Char) : Ends text (Text.posture text) := by
  induction text using List.reverseRecOn with
  | nil => exact .closed ⟨[], allBlank_nil, [], none⟩ rfl
  | append_singleton text c ih =>
    rw [posture_concat]
    exact ih.next c

/-- A text that is open at its end is a phrase with an ending behind it. -/
theorem exists_ending (hclosed : Text.posture text ≠ .unquoted)
    (hoperator : Text.posture text ≠ .operator) :
    ∃ (p : Phrase) (e : Ending), text = p.typed ++ e.typed ∧ e.posture = Text.posture text := by
  have h := ends text
  generalize Text.posture text = posture at *
  cases h with
  | closed p h => exact absurd rfl hclosed
  | opened p e h => exact ⟨p, e, h, rfl⟩
  | operator p rest h => exact absurd rfl hoperator

/-- A text with a live operator is a phrase with the operator behind it. -/
theorem exists_operator (hoperator : Text.posture text = .operator) :
    ∃ (p : Phrase) (rest : List Char), text = p.typed ++ '>' :: rest := by
  have h := ends text
  generalize Text.posture text = posture at *
  cases h with
  | closed p h => cases hoperator
  | opened p e h => cases e <;> cases hoperator
  | operator p rest h => exact ⟨p, rest, h⟩

end Text

/-! ## The scan of an open text -/

namespace Posture

/-- The quotes that it is inside of. -/
def quoting : Posture → Quoting
  | unquoted => .none
  | escape => .none
  | single => .single
  | double => .double
  | doubleEscape => .double
  | operator => .none

/-- The backslash that has been read and not been scanned yet. -/
def held : Posture → List Char
  | unquoted => []
  | escape => ['\\']
  | single => []
  | double => []
  | doubleEscape => ['\\']
  | operator => []

end Posture

namespace Scanned
variable {bare : Bool} {read : List Char}

/-- At the end of the line it makes no difference what the scan is in the middle of. -/
theorem scan_held (posture : Posture) :
    scan posture.quoting bare read posture.held = finish read.reverse := by
  cases posture <;> simp [Posture.quoting, Posture.held, scan]

/-- **What an ending does to the scan**, whatever stands behind it. -/
theorem scan_ending (bare : Bool) (read : List Char) (e : Ending) : ∃ bare', ∀ rest,
    scan .none bare read (e.typed ++ rest) =
      scan e.posture.quoting bare' (e.fragment.meaning.reverse ++ read) (e.posture.held ++ rest) := by
  cases e with
  | escape => exact ⟨bare, fun rest => rfl⟩
  | single text h =>
    refine ⟨false, fun rest => ?_⟩
    rw [Ending.typed, List.cons_append, scan_none_single, scan_text h]
    rfl
  | double items =>
    refine ⟨false, fun rest => ?_⟩
    rw [Ending.typed, List.cons_append, scan_none_double, scan_items]
    rfl
  | doubleEscape items =>
    refine ⟨false, fun rest => ?_⟩
    rw [Ending.typed, List.cons_append, List.cons_append, scan_none_double, List.append_assoc,
      scan_items]
    rfl

/-- An ending is scanned like the fragment that it stands for. -/
theorem scan_ending_end (e : Ending) :
    scan .none bare read e.typed = scan .none bare read e.fragment.typed := by
  obtain ⟨bare', h⟩ := scan_ending bare read e
  have hending := h []
  have hfragment : scan .none bare read (e.fragment.typed ++ []) = _ := scan_fragment e.fragment
  rw [List.append_nil, List.append_nil, scan_held] at hending
  rw [List.append_nil, scan_none_nil] at hfragment
  rw [hending, hfragment]

/-- **The posture of a text is the state in which the scan comes to its end.** -/
theorem scan_posture {text : List Char} (h : Text.posture text ≠ .operator) :
    ∃ words bare read, ∀ rest, scan .none true [] (text ++ rest) =
      consWords words (scan (Text.posture text).quoting bare read
        ((Text.posture text).held ++ rest)) := by
  have hends := Text.ends text
  generalize Text.posture text = posture at *
  cases hends with
  | closed p htext => exact ⟨_, _, _, fun rest => htext ▸ scan_phrase p rest⟩
  | opened p e htext =>
    obtain ⟨bare, hscan⟩ := scan_ending p.pendingIsBare p.pending.reverse e
    refine ⟨p.spaced.map fun w => w.1.meaning, bare,
      e.fragment.meaning.reverse ++ p.pending.reverse, fun rest => ?_⟩
    rw [htext, List.append_assoc, scan_phrase, hscan]
  | operator p rest htext => exact absurd rfl h

/-- What is found on a line that is open at its end. -/
theorem ofLine_ending {line : String} {p : Phrase} {e : Ending}
    (h : Text.trim line.toList = p.typed ++ e.typed) :
    ofLine line = consWords ((p.glue e.fragment).words.map Word.meaning) ⟨[], none, false⟩ := by
  rw [ofLine, h, scan_phrase, scan_ending_end, ← scan_phrase, ← Phrase.typed_glue, scan_phrase_end]

end Scanned

/-! ## Completed lines -/

theorem Phrase.words_glue (p : Phrase) (f : Fragment) :
    (p.glue f).words = p.spaced.map Prod.fst ++ [p.grown f] := rfl

/-- What an ending stands for is between quotes. -/
theorem Phrase.not_endsInEscapedBlank_glue (p : Phrase) (e : Ending) :
    ¬(p.glue e.fragment).EndsInEscapedBlank := by
  rintro ⟨w, hw, c, hc, -⟩
  rw [words_glue, List.getLast?_concat] at hw
  obtain rfl := Option.some.inj hw
  have hfragment : e.fragment = .escaped c :=
    Option.some.inj (List.getLast?_concat.symm.trans hc)
  cases e <;> cases hfragment

namespace Command
variable {line : String} {p : Phrase} {e : Ending}

/-- A line that is open at its end asks for what the completed line asks for. -/
theorem ofLine_eq_of_ending (h : Text.trim line.toList = p.typed ++ e.typed) :
    ofLine line = ofLine (String.ofList (p.typed ++ e.fragment.typed)) := by
  rw [ofLine, ofLine, Scanned.ofLine_ending h, ← Phrase.typed_glue,
    Scanned.ofLine_typed _ (p.not_endsInEscapedBlank_glue e)]

/-- Its words are those with a gap behind them, and the one that was left open. -/
theorem ofLine_words_of_ending (h : Text.trim line.toList = p.typed ++ e.typed) :
    ofLine line = ofWords (Word.kept (p.spaced.map Prod.fst) ++ Word.kept [p.grown e.fragment])
      none := by
  rw [ofLine, Scanned.ofLine_ending h, Scanned.command_consWords, Phrase.words_glue, Word.kept,
    List.map_append, List.filter_append, List.map_append]
  rfl

end Command

/-- **A line that is open at its end is as good as the completed one.**  Unless there is a live
operator, the posture of the trimmed text is the state in which the scan comes to its end.  Of a
text that ends inside quotes, the quote that closes them may be missing.  A backslash at the end
that has no character may be replaced: inside double quotes by the quote that closes them, and
outside quotes by an empty text between single quotes.  In all four cases the words before the
open one are kept as they were typed, and the open one gets what the ending stands for. -/
theorem Command.ofLine_completed (line : String) :
    let t := Text.trim line.toList
    (Text.posture t = .operator → ∃ (p : Phrase) (rest : List Char), t = p.typed ++ '>' :: rest) ∧
    (Text.posture t ≠ .operator → ∃ words bare read, ∀ rest,
      Scanned.scan .none true [] (t ++ rest) =
        Scanned.consWords words (Scanned.scan (Text.posture t).quoting bare read
          ((Text.posture t).held ++ rest))) ∧
    (Text.posture t = .single → ofLine line = ofLine (String.ofList (t ++ ['\'']))) ∧
    (Text.posture t = .double → ofLine line = ofLine (String.ofList (t ++ ['"']))) ∧
    (Text.posture t = .doubleEscape → ∃ u, t = u ++ ['\\'] ∧
      ofLine line = ofLine (String.ofList (u ++ ['"']))) ∧
    (Text.posture t = .escape → ∃ u, t = u ++ ['\\'] ∧
      ofLine line = ofLine (String.ofList (u ++ ['\'', '\'']))) ∧
    (Text.posture t ≠ .unquoted → Text.posture t ≠ .operator →
      ∃ (p : Phrase) (e : Ending), t = p.typed ++ e.typed ∧ e.posture = Text.posture t ∧
        ofLine line =
          ofWords (Word.kept (p.spaced.map Prod.fst) ++ Word.kept [p.grown e.fragment]) none) := by
  intro t
  have hending : ∀ {posture}, Text.posture t = posture → posture ≠ .unquoted →
      posture ≠ .operator → ∃ (p : Phrase) (e : Ending), t = p.typed ++ e.typed ∧
        e.posture = posture ∧ ofLine line = ofLine (String.ofList (p.typed ++ e.fragment.typed)) := by
    rintro _ rfl hclosed hoperator
    obtain ⟨p, e, ht, he⟩ := Text.exists_ending hclosed hoperator
    exact ⟨p, e, ht, he, ofLine_eq_of_ending ht⟩
  refine ⟨Text.exists_operator, Scanned.scan_posture, fun h => ?_, fun h => ?_, fun h => ?_,
    fun h => ?_, fun hclosed hoperator => ?_⟩
  · obtain ⟨p, e, ht, he, hline⟩ := hending h (by decide) (by decide)
    cases e with
    | single text htext => simpa [ht, Ending.typed, Ending.fragment, Fragment.typed] using hline
    | escape | double | doubleEscape => cases he
  · obtain ⟨p, e, ht, he, hline⟩ := hending h (by decide) (by decide)
    cases e with
    | double items => simpa [ht, Ending.typed, Ending.fragment, Fragment.typed] using hline
    | escape | single | doubleEscape => cases he
  · obtain ⟨p, e, ht, he, hline⟩ := hending h (by decide) (by decide)
    cases e with
    | doubleEscape items =>
      refine ⟨p.typed ++ '"' :: items.flatMap QuotedItem.typed, by simp [ht, Ending.typed], ?_⟩
      simpa [Ending.fragment, Fragment.typed] using hline
    | escape | single | double => cases he
  · obtain ⟨p, e, ht, he, hline⟩ := hending h (by decide) (by decide)
    cases e with
    | escape => exact ⟨p.typed, ht, hline⟩
    | single | double | doubleEscape => cases he
  · obtain ⟨p, e, ht, he⟩ := Text.exists_ending hclosed hoperator
    exact ⟨p, e, ht, he, ofLine_words_of_ending ht⟩

/-- Quotes of the other kind inside open quotes, a pair of backslashes before the one that is
left over, and an escaped blank before a dangling backslash. -/
theorem Command.ofLine_completed_each :
    (Text.posture (Text.trim "a \"'\" 'b\"  ".toList) = .single ∧
      Command.ofLine "a \"'\" 'b\"  " = Command.ofLine "a \"'\" 'b\"'") ∧
    (Text.posture (Text.trim "it\\'s \"a 'b".toList) = .double ∧
      Command.ofLine "it\\'s \"a 'b" = Command.ofLine "it\\'s \"a 'b\"") ∧
    (Text.posture (Text.trim "x \"a\\\\\\".toList) = .doubleEscape ∧
      Command.ofLine "x \"a\\\\\\" = Command.ofLine "x \"a\\\\\"") ∧
    (Text.posture (Text.trim "x a\\ \\".toList) = .escape ∧
      Command.ofLine "x a\\ \\" = Command.ofLine "x a\\ ''" ∧
      Command.ofLine "x a\\ \\" = ⟨"x", ["a "], none⟩) := by
  refine ⟨⟨by decide, ?_⟩, ⟨by decide, ?_⟩, ⟨by decide, ?_⟩, by decide, ?_, by decide⟩
  · exact (Command.ofLine_completed _).2.2.1 (by decide)
  · exact (Command.ofLine_completed _).2.2.2.1 (by decide)
  · obtain ⟨u, hu, hline⟩ := (Command.ofLine_completed "x \"a\\\\\\").2.2.2.2.1 (by decide)
    have ht : Text.trim "x \"a\\\\\\".toList = "x \"a\\\\".toList ++ ['\\'] := by decide
    rw [hline, List.append_cancel_right (hu.symm.trans ht)]
    rfl
  · obtain ⟨u, hu, hline⟩ := (Command.ofLine_completed "x a\\ \\").2.2.2.2.2.1 (by decide)
    have ht : Text.trim "x a\\ \\".toList = "x a\\ ".toList ++ ['\\'] := by decide
    rw [hline, List.append_cancel_right (hu.symm.trans ht)]
    rfl

end LineShell
