import LineShell.Command.Line
import LineShell.Proofs.Trimming

/-! # Phrases

A phrase is what can be typed before the first operator of a line: words, with blanks
between them.  A word is a row of fragments without a blank between them, and a fragment
is a plain character, a backslash with the character behind it, a text between single
quotes, or a row of items between double quotes.  Every fragment is typed in one way
(`typed`) and stands for certain characters (`meaning`); both are said without the scan.

The scan reads exactly that (`Scanned.scan_phrase`): whatever follows a phrase is scanned
with the words that a gap follows settled and with the meaning of the last word, which
nothing follows yet, as the part of a word that has been read.  The flag `bare` of the scan
is then whether that word was typed with plain characters only.

From this a line that is a phrase asks for the words of the phrase
(`Command.ofLine_phrase`).  The line is trimmed before it is scanned, so the phrase must not
end in a backslash before a blank: that blank would be taken away from its backslash.
-/
namespace LineShell

/-! ## What is typed, and what it stands for -/

/-- A character that stands for itself outside quotes. -/
def Text.isPlain (c : Char) : Bool :=
  !(Text.isBlank c || ['\'', '"', '\\', '>'].contains c)

/-- What double quotes hold: a character other than the quote and the backslash, or a
backslash with any character behind it. -/
inductive QuotedItem where
  | char (c : Char) (h : c ≠ '"' ∧ c ≠ '\\')
  | escaped (c : Char)

namespace QuotedItem

def typed : QuotedItem → List Char
  | char c _ => [c]
  | escaped c => ['\\', c]

/-- Three characters lose the backslash before them, any other keeps it. -/
def meaning : QuotedItem → List Char
  | char c _ => [c]
  | escaped c => if c ∈ ['\\', '$', '"'] then [c] else ['\\', c]

end QuotedItem

/-- A piece of a word. -/
inductive Fragment where
  | plain (c : Char) (h : Text.isPlain c = true)
  | escaped (c : Char)
  | single (text : List Char) (h : '\'' ∉ text)
  | double (items : List QuotedItem)

namespace Fragment

def typed : Fragment → List Char
  | plain c _ => [c]
  | escaped c => ['\\', c]
  | single text _ => '\'' :: text ++ ['\'']
  | double items => '"' :: items.flatMap QuotedItem.typed ++ ['"']

def meaning : Fragment → List Char
  | plain c _ => [c]
  | escaped c => [c]
  | single text _ => text
  | double items => items.flatMap QuotedItem.meaning

/-- Typed without a quote or a backslash. -/
def isBare : Fragment → Bool
  | plain _ _ => true
  | escaped _ => false
  | single _ _ => false
  | double _ => false

end Fragment

/-- A word as it is typed: fragments, and at least one of them. -/
structure Word where
  fragments : List Fragment
  ne_nil : fragments ≠ []

namespace Word

def typed (w : Word) : List Char := w.fragments.flatMap Fragment.typed

def meaning (w : Word) : List Char := w.fragments.flatMap Fragment.meaning

def isBare (w : Word) : Bool := w.fragments.all Fragment.isBare

/-- The words that a command gets from typed words: their meanings, in order, without
those that are empty. -/
def kept (ws : List Word) : List String :=
  ((ws.map meaning).filter (· ≠ [])).map String.ofList

/-- No word of a command is empty. -/
theorem ne_empty_of_mem_kept {ws : List Word} {word : String} (h : word ∈ kept ws) :
    word ≠ "" := by
  obtain ⟨cs, hcs, rfl⟩ := List.mem_map.mp h
  have hne : cs ≠ [] := by simpa using (List.mem_filter.mp hcs).2
  simpa using hne

end Word

/-- The blanks between two words. -/
structure Gap where
  blanks : List Char
  ne_nil : blanks ≠ []
  blank : Text.AllBlank blanks

/-- Words as they are typed, with the blanks around and between them.  If nothing follows
the last word it stands apart, since more may be glued to it. -/
structure Phrase where
  /-- The blanks before the first word. -/
  lead : List Char
  lead_blank : Text.AllBlank lead
  /-- The words behind which there is a gap. -/
  spaced : List (Word × Gap)
  /-- The word with nothing behind it, if the phrase ends in one. -/
  last : Option Word

namespace Phrase

/-- The words of a phrase, in order. -/
def words (p : Phrase) : List Word := p.spaced.map Prod.fst ++ p.last.toList

/-- The words with the gaps behind them. -/
def typedSpaced (ws : List (Word × Gap)) : List Char :=
  ws.flatMap fun (w, gap) => w.typed ++ gap.blanks

/-- The phrase as it is typed. -/
def typed (p : Phrase) : List Char :=
  p.lead ++ typedSpaced p.spaced ++ p.last.toList.flatMap Word.typed

/-- The very last fragment of the phrase is a backslash before a blank. -/
def EndsInEscapedBlank (p : Phrase) : Prop :=
  ∃ w, p.words.getLast? = some w ∧
    ∃ c, w.fragments.getLast? = some (.escaped c) ∧ Text.isBlank c = true

end Phrase

/-! ## The ends of what is typed -/

namespace Fragment

/-- A fragment begins with a character that is no blank, and ends with one unless it is a
backslash before a blank. -/
theorem head_typed (f : Fragment) : ∃ c, f.typed.head? = some c ∧ Text.isBlank c = false := by
  cases f with
  | plain c h =>
    refine ⟨c, rfl, ?_⟩
    simp only [Text.isPlain, Bool.not_eq_true', Bool.or_eq_false_iff] at h
    exact h.1
  | escaped c => exact ⟨'\\', rfl, by decide⟩
  | single text h => exact ⟨'\'', rfl, by decide⟩
  | double items => exact ⟨'"', rfl, by decide⟩

theorem getLast_typed (f : Fragment) (h : ∀ c, f = escaped c → Text.isBlank c = false) :
    ∃ c, f.typed.getLast? = some c ∧ Text.isBlank c = false := by
  cases f with
  | plain c hp =>
    refine ⟨c, rfl, ?_⟩
    simp only [Text.isPlain, Bool.not_eq_true', Bool.or_eq_false_iff] at hp
    exact hp.1
  | escaped c => exact ⟨c, rfl, h c rfl⟩
  | single text _ => exact ⟨'\'', List.getLast?_concat, by decide⟩
  | double items => exact ⟨'"', List.getLast?_concat, by decide⟩

theorem typed_ne_nil (f : Fragment) : f.typed ≠ [] := by
  obtain ⟨c, hc, _⟩ := f.head_typed
  intro h
  rw [h] at hc
  cases hc

/-- A plain fragment is typed as what it stands for. -/
theorem typed_of_isBare {f : Fragment} (h : f.isBare = true) : f.typed = f.meaning := by
  cases f with
  | plain c _ => rfl
  | escaped c => cases h
  | single text _ => cases h
  | double items => cases h

end Fragment

namespace Word

theorem head_typed (w : Word) : ∃ c, w.typed.head? = some c ∧ Text.isBlank c = false := by
  obtain ⟨f, fs, hw⟩ := List.exists_cons_of_ne_nil w.ne_nil
  obtain ⟨c, hc, hb⟩ := f.head_typed
  refine ⟨c, ?_, hb⟩
  rw [typed, hw, List.flatMap_cons, List.head?_append, hc]
  rfl

theorem getLast_typed (w : Word)
    (h : ∀ c, w.fragments.getLast? = some (.escaped c) → Text.isBlank c = false) :
    ∃ c, w.typed.getLast? = some c ∧ Text.isBlank c = false := by
  obtain ⟨fs, f, hw⟩ := List.eq_nil_or_concat w.fragments |>.resolve_left w.ne_nil
  rw [List.concat_eq_append] at hw
  obtain ⟨c, hc, hb⟩ := f.getLast_typed fun c hf => h c (by rw [hw, hf, List.getLast?_concat])
  refine ⟨c, ?_, hb⟩
  rw [typed, hw, List.flatMap_append, List.flatMap_singleton, List.getLast?_append, hc]
  rfl

/-- A word of plain fragments is typed as what it stands for. -/
theorem typed_of_isBare {w : Word} (h : w.isBare = true) : w.typed = w.meaning := by
  rw [isBare, List.all_eq_true] at h
  exact List.flatMap_congr fun f hf => Fragment.typed_of_isBare (h f hf)

/-- A word that is typed as one character is that character, plain. -/
theorem isBare_of_typed_singleton {w : Word} {c : Char} (h : w.typed = [c]) :
    w.isBare = true := by
  obtain ⟨f, fs, hw⟩ := List.exists_cons_of_ne_nil w.ne_nil
  rw [typed, hw, List.flatMap_cons] at h
  have hfs : fs = [] := by
    cases fs with
    | nil => rfl
    | cons g gs =>
      have hf := List.length_pos_iff.mpr f.typed_ne_nil
      have hg := List.length_pos_iff.mpr g.typed_ne_nil
      have hlen := congrArg List.length h
      simp only [List.flatMap_cons, List.length_append, List.length_singleton] at hlen
      omega
  subst hfs
  rw [List.flatMap_nil, List.append_nil] at h
  have hf : f.isBare = true := by
    cases f with
    | plain c hc => rfl
    | escaped c => cases h
    | single text _ => simp [Fragment.typed] at h
    | double items => simp [Fragment.typed] at h
  simp [isBare, hw, hf]

end Word

end LineShell
