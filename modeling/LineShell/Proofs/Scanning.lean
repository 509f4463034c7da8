import LineShell.Proofs.Phrase

/-! # Scanning a phrase

The scan has one branch for each kind of character in each of its three states; the first
section names them.  From these it follows, fragment by fragment and word by word, what a
phrase at the beginning of a line does to the scan (`Scanned.scan_phrase`): the words that a
gap follows are settled, and the meaning of the last word, behind which there is no gap, is
the part of a word that has been read so far.  Its flag says whether that word was typed
without quotes and backslashes; an earlier word has no influence on it, for every gap makes
the next word bare again.

The statement has an arbitrary rest of the line in it, so it serves for lines that end with
the phrase (`Command.ofLine_phrase`) as well as for those that go on with an operator.
-/
namespace LineShell
namespace Scanned
variable {bare : Bool} {read rest : List Char} {c : Char}

/-! ## Words found -/

/-- Words come, in order, before what is found later. -/
def consWords (words : List (List Char)) (s : Scanned) : Scanned := words.foldr consWord s

@[simp] theorem consWord_nil (s : Scanned) : consWord [] s = s := by simp [consWord]

@[simp] theorem consWords_nil (s : Scanned) : consWords [] s = s := rfl

@[simp] theorem consWords_cons (w : List Char) (ws : List (List Char)) (s : Scanned) :
    consWords (w :: ws) s = consWord w (consWords ws s) := rfl

theorem consWords_append (vs ws : List (List Char)) (s : Scanned) :
    consWords (vs ++ ws) s = consWords vs (consWords ws s) := List.foldr_append

/-- The empty words are no words. -/
theorem consWords_words (ws : List (List Char)) (s : Scanned) :
    (consWords ws s).words = (ws.filter (· ≠ [])).map String.ofList ++ s.words := by
  induction ws with
  | nil => rfl
  | cons w ws ih =>
    by_cases hw : w = []
    · simp [hw, ih]
    · simp [consWord, hw, ih]

theorem consWords_redirect (ws : List (List Char)) (s : Scanned) :
    (consWords ws s).redirect = s.redirect := by
  induction ws with
  | nil => rfl
  | cons w ws ih =>
    rw [consWords_cons, consWord]
    split
    · exact ih
    · exact ih

/-! ## The branches of the scan -/

theorem scan_none_single : scan .none bare read ('\'' :: rest) = scan .single false read rest := by
  simp [scan]

theorem scan_none_double : scan .none bare read ('"' :: rest) = scan .double false read rest := by
  simp [scan]

theorem scan_none_escaped :
    scan .none bare read ('\\' :: c :: rest) = scan .none false (c :: read) rest := by
  simp [scan]

theorem scan_none_dangling : scan .none bare read ['\\'] = finish read.reverse := by simp [scan]

theorem scan_none_operator :
    scan .none bare read ('>' :: rest) = operator bare read.reverse rest := by
  simp [scan]

theorem scan_none_blank (h : Text.isBlank c = true) :
    scan .none bare read (c :: rest) = consWord read.reverse (scan .none true [] rest) := by
  -- a blank is none of the characters that the scan looks for first
  have hne : c ≠ '\\' ∧ c ≠ '\'' ∧ c ≠ '"' ∧ c ≠ '>' := by
    refine ⟨?_, ?_, ?_, ?_⟩ <;> rintro rfl <;> revert h <;> decide
  obtain ⟨h₁, h₂, h₃, h₄⟩ := hne
  simp [scan, h, h₁, h₂, h₃, h₄]

theorem scan_none_plain (h : Text.isPlain c = true) :
    scan .none bare read (c :: rest) = scan .none bare (c :: read) rest := by
  simp [Text.isPlain] at h
  simp [scan, h]

theorem scan_single_close :
    scan .single bare read ('\'' :: rest) = scan .none bare read rest := by simp [scan]

theorem scan_single_char (h : c ≠ '\'') :
    scan .single bare read (c :: rest) = scan .single bare (c :: read) rest := by simp [scan, h]

theorem scan_double_close :
    scan .double bare read ('"' :: rest) = scan .none bare read rest := by simp [scan]

theorem scan_double_char (h : c ≠ '"' ∧ c ≠ '\\') :
    scan .double bare read (c :: rest) = scan .double bare (c :: read) rest := by simp [scan, h]

theorem scan_double_escaped :
    scan .double bare read ('\\' :: c :: rest) =
      scan .double bare ((QuotedItem.escaped c).meaning.reverse ++ read) rest := by
  have hesc : isEscapable c = decide (c ∈ ['\\', '$', '"']) := by simp [isEscapable, Bool.or_assoc]
  by_cases h : c ∈ ['\\', '$', '"']
  · simp only [scan, hesc, QuotedItem.meaning, h, decide_true, if_true, List.reverse_singleton,
      List.singleton_append]
  · simp only [scan, hesc, QuotedItem.meaning, h, decide_false, if_false, Bool.false_eq_true]
    rfl

/-! ## Fragments, words and phrases -/

/-- Items between double quotes. -/
theorem scan_items (items : List QuotedItem) :
    scan .double bare read (items.flatMap QuotedItem.typed ++ rest) =
      scan .double bare ((items.flatMap QuotedItem.meaning).reverse ++ read) rest := by
  induction items generalizing read with
  | nil => rfl
  | cons item items ih =>
    simp only [List.flatMap_cons, List.reverse_append, List.append_assoc]
    cases item with
    | char c h =>
      rw [QuotedItem.typed, List.singleton_append, scan_double_char h, ih]
      rfl
    | escaped c =>
      rw [QuotedItem.typed, List.cons_append, List.singleton_append, scan_double_escaped, ih]

/-- A text between single quotes. -/
theorem scan_text {text : List Char} (h : '\'' ∉ text) :
    scan .single bare read (text ++ rest) = scan .single bare (text.reverse ++ read) rest := by
  induction text generalizing read with
  | nil => rfl
  | cons c text ih =>
    rw [List.mem_cons, not_or] at h
    rw [List.cons_append, scan_single_char (Ne.symm h.1), ih h.2, List.reverse_cons,
      List.append_assoc, List.singleton_append]

theorem scan_fragment (f : Fragment) :
    scan .none bare read (f.typed ++ rest) =
      scan .none (bare && f.isBare) (f.meaning.reverse ++ read) rest := by
  cases f with
  | plain c h =>
    rw [Fragment.isBare, Bool.and_true]
    exact scan_none_plain h
  | escaped c =>
    rw [Fragment.isBare, Bool.and_false]
    exact scan_none_escaped
  | single text h =>
    rw [Fragment.isBare, Bool.and_false, Fragment.typed, List.cons_append, List.cons_append,
      scan_none_single, List.append_assoc, List.singleton_append, scan_text h]
    exact scan_single_close
  | double items =>
    rw [Fragment.isBare, Bool.and_false, Fragment.typed, List.cons_append, List.cons_append,
      scan_none_double, List.append_assoc, List.singleton_append, scan_items]
    exact scan_double_close

/-- A word adds its meaning to what has been read, and keeps it bare if every fragment is. -/
theorem scan_word (w : Word) :
    scan .none bare read (w.typed ++ rest) =
      scan .none (bare && w.isBare) (w.meaning.reverse ++ read) rest := by
  obtain ⟨fs, _⟩ := w
  simp only [Word.typed, Word.meaning, Word.isBare]
  induction fs generalizing bare read with
  | nil => exact congrArg (scan .none · read rest) (Bool.and_true bare).symm
  | cons f fs ih =>
    rw [List.flatMap_cons, List.append_assoc, scan_fragment]
    by_cases hfs : fs = []
    · subst hfs
      simp
    · rw [ih hfs, List.flatMap_cons, List.reverse_append, List.append_assoc, List.all_cons,
        Bool.and_assoc]

/-- Blanks before a word are passed over. -/
theorem scan_blanks {bs : List Char} (h : Text.AllBlank bs) :
    scan .none true [] (bs ++ rest) = scan .none true [] rest := by
  induction bs with
  | nil => rfl
  | cons b bs ih =>
    rw [List.cons_append, scan_none_blank (h b List.mem_cons_self), List.reverse_nil, consWord_nil]
    exact ih fun c hc => h c (List.mem_cons_of_mem b hc)

/-- A gap settles the word before it, and the next word is bare again. -/
theorem scan_gap (gap : Gap) :
    scan .none bare read (gap.blanks ++ rest) =
      consWord read.reverse (scan .none true [] rest) := by
  obtain ⟨b, bs, hbs⟩ := List.exists_cons_of_ne_nil gap.ne_nil
  have hblank := gap.blank
  rw [hbs] at hblank ⊢
  rw [List.cons_append, scan_none_blank (hblank b List.mem_cons_self)]
  exact congrArg _ (scan_blanks fun c hc => hblank c (List.mem_cons_of_mem b hc))

theorem scan_spaced (ws : List (Word × Gap)) :
    scan .none true [] (Phrase.typedSpaced ws ++ rest) =
      consWords (ws.map fun w => w.1.meaning) (scan .none true [] rest) := by
  induction ws with
  | nil => rfl
  | cons w ws ih =>
    rw [Phrase.typedSpaced, List.flatMap_cons, List.append_assoc, List.append_assoc, scan_word,
      scan_gap]
    change consWord _ (scan .none true [] (Phrase.typedSpaced ws ++ rest)) = _
    rw [ih, List.append_nil, List.reverse_reverse]
    rfl

end Scanned

/-! ## The rest of a line behind a phrase -/

namespace Phrase

/-- What has been read of a word at the end of a phrase. -/
def pending (p : Phrase) : List Char := p.last.elim [] Word.meaning

/-- Nothing of it was quoted or escaped. -/
def pendingIsBare (p : Phrase) : Bool := p.last.elim true Word.isBare

end Phrase

namespace Scanned

/-- **What a phrase does to the scan**, whatever stands behind it. -/
theorem scan_phrase (p : Phrase) (rest : List Char) :
    scan .none true [] (p.typed ++ rest) =
      consWords (p.spaced.map fun w => w.1.meaning)
        (scan .none p.pendingIsBare p.pending.reverse rest) := by
  rw [Phrase.typed, List.append_assoc, List.append_assoc, scan_blanks p.lead_blank, scan_spaced]
  congr 1
  rw [Phrase.pendingIsBare, Phrase.pending]
  cases p.last with
  | none => rfl
  | some w =>
    change scan .none true [] ([w].flatMap Word.typed ++ rest) = _
    rw [List.flatMap_singleton, scan_word, List.append_nil]
    rfl

/-- At the end of the line every word of the phrase has been found, and nothing else. -/
theorem scan_phrase_end (p : Phrase) :
    scan .none true [] p.typed = consWords (p.words.map Word.meaning) ⟨[], none, false⟩ := by
  have h := scan_phrase p []
  rw [List.append_nil, scan_none_nil, List.reverse_reverse, finish] at h
  rw [h, Phrase.words, List.map_append, List.map_map, consWords_append, Phrase.pending]
  cases p.last with
  | none => exact congrArg _ (consWord_nil _)
  | some w => rfl

end Scanned

/-! ## Phrases and trimming -/

namespace Phrase

/-- The phrase without the blanks before it. -/
def unled (p : Phrase) : Phrase := { p with lead := [], lead_blank := Text.allBlank_nil }

theorem typed_unled (p : Phrase) :
    p.unled.typed = typedSpaced p.spaced ++ p.last.toList.flatMap Word.typed := rfl

theorem typed_eq_unled (p : Phrase) : p.typed = p.lead ++ p.unled.typed :=
  List.append_assoc ..

theorem head_typedSpaced_append (ws : List (Word × Gap)) {rest : List Char}
    (h : ∃ c, rest.head? = some c ∧ Text.isBlank c = false) :
    ∃ c, (typedSpaced ws ++ rest).head? = some c ∧ Text.isBlank c = false := by
  cases ws with
  | nil => exact h
  | cons w ws =>
    obtain ⟨c, hc, hb⟩ := w.1.head_typed
    refine ⟨c, ?_, hb⟩
    simp only [typedSpaced, List.flatMap_cons, List.append_assoc, List.head?_append, hc,
      Option.some_or]

/-- A phrase that begins and ends with a word has no blank at its ends. -/
theorem tight_unled {p : Phrase} {w : Word} (hlast : p.last = some w)
    (hw : ∀ c, w.fragments.getLast? = some (.escaped c) → Text.isBlank c = false) :
    Text.Tight p.unled.typed := by
  rw [typed_unled, hlast, Option.toList_some, List.flatMap_singleton]
  refine ⟨head_typedSpaced_append p.spaced w.head_typed, ?_⟩
  obtain ⟨c, hc, hb⟩ := w.getLast_typed hw
  refine ⟨c, ?_, hb⟩
  rw [List.getLast?_append, hc, Option.some_or]

/-- What is glued to a phrase keeps its end from being trimmed. -/
theorem tight_unled_append (p : Phrase) {rest : List Char} (h : Text.Tight rest) :
    Text.Tight (p.unled.typed ++ rest) := by
  obtain ⟨hhead, c, hc, hb⟩ := h
  constructor
  · rw [typed_unled, List.append_assoc]
    refine head_typedSpaced_append p.spaced ?_
    cases p.last with
    | none => exact hhead
    | some w =>
      obtain ⟨d, hd, hdb⟩ := w.head_typed
      refine ⟨d, ?_, hdb⟩
      rw [Option.toList_some, List.flatMap_singleton, List.head?_append, hd, Option.some_or]
  · refine ⟨c, ?_, hb⟩
    rw [List.getLast?_append, hc, Option.some_or]

/-- Trimming a phrase leaves a phrase of the same words. -/
theorem exists_typed_eq_trim {p : Phrase} (h : ¬p.EndsInEscapedBlank) :
    ∃ q : Phrase, q.words = p.words ∧ q.typed = Text.trim p.typed := by
  have hend : ∀ w, p.words.getLast? = some w →
      ∀ c, w.fragments.getLast? = some (.escaped c) → Text.isBlank c = false := by
    intro w hw c hc
    by_contra hb
    exact h ⟨w, hw, c, hc, by simpa using hb⟩
  rw [typed_eq_unled, Text.trim_append_left p.lead_blank]
  cases hlast : p.last with
  | some w =>
    have hw : p.words.getLast? = some w := by rw [words, hlast]; exact List.getLast?_concat
    exact ⟨p.unled, rfl, (Text.trim_eq_self (tight_unled hlast (hend w hw))).symm⟩
  | none =>
    -- the blanks behind the last word, if there is one, belong to its gap
    rcases List.eq_nil_or_concat p.spaced with hs | ⟨init, ⟨w, gap⟩, hs⟩
    · refine ⟨p.unled, rfl, ?_⟩
      rw [typed_unled, hs, hlast]
      rfl
    · rw [List.concat_eq_append] at hs
      let q : Phrase := ⟨[], Text.allBlank_nil, init, some w⟩
      have hwords : q.words = p.words := by simp [q, words, hs, hlast]
      have hw : p.words.getLast? = some w := by rw [← hwords]; exact List.getLast?_concat
      have htyped : p.unled.typed = q.unled.typed ++ gap.blanks := by
        simp [q, typed_unled, typedSpaced, hs, hlast]
      refine ⟨q.unled, hwords, ?_⟩
      rw [htyped, Text.trim_append_right gap.blank]
      exact (Text.trim_eq_self (tight_unled rfl (hend w hw))).symm

end Phrase

/-! ## Lines -/

namespace Scanned

/-- Blanks at the end of a line make no difference. -/
theorem ofLine_append_blanks {bs : List Char} (h : Text.AllBlank bs) (cs : List Char) :
    ofLine (String.ofList (cs ++ bs)) = ofLine (String.ofList cs) := by
  rw [ofLine, ofLine, String.toList_ofList, String.toList_ofList, Text.trim_append_right h]

/-- What is found on a line that is a phrase. -/
theorem ofLine_typed (p : Phrase) (h : ¬p.EndsInEscapedBlank) :
    ofLine (String.ofList p.typed) = consWords (p.words.map Word.meaning) ⟨[], none, false⟩ := by
  obtain ⟨q, hwords, htyped⟩ := Phrase.exists_typed_eq_trim h
  rw [ofLine, String.toList_ofList, ← htyped, scan_phrase_end, hwords]

/-- The command of a scan that has found typed words and a redirection. -/
theorem command_consWords (ws : List Word) (redirect : Option Redirect) (pathMissing : Bool) :
    (consWords (ws.map Word.meaning) ⟨[], redirect, pathMissing⟩).command =
      Command.ofWords (Word.kept ws) redirect := by
  rw [command, consWords_words, consWords_redirect, List.append_nil, Word.kept]

end Scanned

/-- **A line asks for the words that are typed on it.**  They are the meanings of the words,
in order and without the empty ones; there is no redirection, and without words the command
is blank. -/
theorem Command.ofLine_phrase (p : Phrase) (h : ¬p.EndsInEscapedBlank) :
    Command.ofLine (String.ofList p.typed) = Command.ofWords (Word.kept p.words) none := by
  rw [Command.ofLine, Scanned.ofLine_typed p h, Scanned.command_consWords]

/-- Fragments of all kinds in one word, an empty word, and blanks of several kinds: the line
is `p '' 'a b'"\$\n"\ c`. -/
theorem Command.ofLine_phrase_adjacent :
    let verb : Word := ⟨[.plain 'p' (by decide)], by decide⟩
    let p : Phrase := ⟨['\t'], by decide, [(verb, ⟨[' ', '\u3000'], by decide, by decide⟩),
      (⟨[.single [] (by decide)], by simp⟩, ⟨[' '], by decide, by decide⟩)],
      some ⟨[.single ['a', ' ', 'b'] (by decide), .double [.escaped '$', .escaped 'n'],
        .escaped ' ', .plain 'c' (by decide)], by simp⟩⟩
    ¬p.EndsInEscapedBlank ∧
      Command.ofLine (String.ofList p.typed) = ⟨"p", ["a b$\\n c"], none⟩ := by
  intro verb p
  have h : ¬p.EndsInEscapedBlank := by
    rintro ⟨w, hw, c, hc, _⟩
    obtain rfl := Option.some.inj hw
    cases hc
  exact ⟨h, (Command.ofLine_phrase p h).trans (by decide)⟩

end LineShell
