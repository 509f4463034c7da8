import LineShell.Proofs.Rendering

/-! # Words behind backslashes

Any word can also be typed with a backslash before each of its characters, whatever they are:
blanks, quotes, backslashes, digits and operators are nothing special then.  A line of such
words asks for exactly these words, with one exception.  The line is trimmed before it is
scanned, and trimming knows nothing of backslashes; so a blank that is the very last character
of the last word is taken away from its backslash, and the backslash, with nothing after it,
vanishes.  Only that one blank is lost (`Scanned.ofLine_escaped_concat`): a blank before it, or
at the other end of a word, has a character of the line behind it.
-/
namespace LineShell

/-! ## Writing a command -/

/-- A word with a backslash before every character. -/
def Text.backslashed (word : List Char) : List Char := word.flatMap fun c => ['\\', c]

/-- A line of such words, with a space between any two. -/
def Command.escapedLine (words : List String) : String :=
  String.ofList ([' '].intercalate (words.map (Text.backslashed ·.toList)))

/-- The last character of the last word is a blank. -/
def Command.EndsInBlank (words : List String) : Prop :=
  ∃ word, words.getLast? = some word ∧
    ∃ c, word.toList.getLast? = some c ∧ Text.isBlank c = true

instance (words : List String) : Decidable (Command.EndsInBlank words) :=
  decidable_of_iff ((words.getLast?.any (·.toList.getLast?.any Text.isBlank)) = true) <| by
    simp [Command.EndsInBlank, Option.any_eq_true]

/-! ## The line is a phrase -/

/-- A word of backslashes, each with a character behind it. -/
def Word.ofEscaped (text : List Char) (h : text ≠ []) : Word :=
  ⟨text.map Fragment.escaped, by simpa using h⟩

namespace Word
variable {text : List Char}

theorem typed_ofEscaped (h : text ≠ []) : (ofEscaped text h).typed = Text.backslashed text :=
  List.flatMap_map ..

theorem meaning_ofEscaped (h : text ≠ []) : (ofEscaped text h).meaning = text := by
  rw [ofEscaped, meaning, List.flatMap_map]
  exact List.flatMap_singleton' text

theorem getLast_ofEscaped (h : text ≠ []) {c : Char}
    (hc : (ofEscaped text h).fragments.getLast? = some (.escaped c)) :
    text.getLast? = some c := by
  rw [ofEscaped, List.getLast?_map] at hc
  obtain ⟨d, hd, heq⟩ := Option.map_eq_some_iff.mp hc
  rwa [← Fragment.escaped.inj heq]

end Word

/-- Words with a space behind each, and a last one with nothing behind it. -/
theorem Phrase.exists_typed_escaped {init : List String} (h : ∀ w ∈ init, w ≠ "")
    (last : Option Word) :
    ∃ p : Phrase, p.lead = [] ∧ p.last = last ∧
      p.spaced.map (fun w => w.1.meaning) = init.map String.toList ∧
      p.typed = init.flatMap (fun w => Text.backslashed w.toList ++ [' ']) ++
        last.toList.flatMap Word.typed := by
  have hword : ∀ text ∈ init.map String.toList,
      ∃ w : Word, w.typed = Text.backslashed text ∧ w.meaning = text ∧ True := by
    intro text ht
    obtain ⟨w, hw, rfl⟩ := List.mem_map.mp ht
    have hne : w.toList ≠ [] := by simpa using h w hw
    exact ⟨.ofEscaped _ hne, Word.typed_ofEscaped hne, Word.meaning_ofEscaped hne, trivial⟩
  obtain ⟨ws, hmeaning, htyped, -⟩ := exists_spaced hword
  refine ⟨⟨[], Text.allBlank_nil, ws, last⟩, rfl, rfl, hmeaning, ?_⟩
  rw [typed, htyped, List.flatMap_map, List.nil_append]

/-! ## What is found -/

namespace Scanned

/-- With something other than a blank at its end, the line asks for its words. -/
theorem ofLine_escaped {init : List String} {word : String} (hinit : ∀ w ∈ init, w ≠ "")
    (hne : word ≠ "") (hend : ∀ c, word.toList.getLast? = some c → Text.isBlank c = false) :
    ofLine (Command.escapedLine (init ++ [word])) =
      consWords ((init ++ [word]).map String.toList) ⟨[], none, false⟩ := by
  have htext : word.toList ≠ [] := by simpa using hne
  let last : Word := .ofEscaped word.toList htext
  obtain ⟨p, -, hlast, hspaced, htyped⟩ := Phrase.exists_typed_escaped hinit (some last)
  have hwords : p.words = p.spaced.map Prod.fst ++ [last] := by rw [Phrase.words, hlast]; rfl
  have hp : ¬p.EndsInEscapedBlank := by
    rintro ⟨w, hw, c, hc, hb⟩
    rw [hwords, List.getLast?_concat, Option.some_inj] at hw
    subst hw
    rw [hend c (Word.getLast_ofEscaped htext hc)] at hb
    cases hb
  rw [Option.toList_some, List.flatMap_singleton, Word.typed_ofEscaped] at htyped
  rw [Command.escapedLine, intercalate_concat, ← htyped, ofLine_typed p hp, hwords,
    List.map_append, List.map_map, List.map_append, ← hspaced, List.map_singleton,
    Word.meaning_ofEscaped]
  rfl

/-- A blank at the end of the line is lost, and the backslash before it too. -/
theorem ofLine_escaped_concat {init : List String} (hinit : ∀ w ∈ init, w ≠ "") (word : String)
    {c : Char} (hc : Text.isBlank c = true) :
    ofLine (Command.escapedLine (init ++ [word.push c])) =
      consWords ((init ++ [word]).map String.toList) ⟨[], none, false⟩ := by
  -- the rest of the last word is a word of its own, unless nothing is left of it
  obtain ⟨last, htyped, hmeaning⟩ : ∃ last : Option Word,
      last.toList.flatMap Word.typed = Text.backslashed word.toList ∧
      last.elim [] Word.meaning = word.toList := by
    by_cases htext : word.toList = []
    · exact ⟨none, by rw [htext]; rfl, htext.symm⟩
    · refine ⟨some (.ofEscaped _ htext), ?_, Word.meaning_ofEscaped htext⟩
      rw [Option.toList_some, List.flatMap_singleton, Word.typed_ofEscaped]
  obtain ⟨p, hlead, hlast, hspaced, hp⟩ := Phrase.exists_typed_escaped hinit last
  rw [htyped] at hp
  have hunled : p.unled.typed = p.typed := by rw [p.typed_eq_unled, hlead, List.nil_append]
  have htight : Text.Tight (p.typed ++ ['\\']) := by
    rw [← hunled]
    exact p.tight_unled_append ⟨⟨'\\', rfl, by decide⟩, '\\', rfl, by decide⟩
  have hline : [' '].intercalate ((init ++ [word.push c]).map (Text.backslashed ·.toList)) =
      p.typed ++ ['\\'] ++ [c] := by
    rw [intercalate_concat, hp, String.toList_push, Text.backslashed, List.flatMap_append,
      List.flatMap_singleton]
    simp [Text.backslashed]
  rw [Command.escapedLine, hline, ofLine_append_blanks (by simpa [Text.AllBlank] using hc), ofLine,
    String.toList_ofList, Text.trim_eq_self htight, scan_phrase, scan_none_dangling,
    List.reverse_reverse, finish, Phrase.pending, hlast, hmeaning, hspaced, List.map_append,
    consWords_append]
  rfl

/-- The words found are those that are not empty. -/
theorem command_consWords_toList (words : List String) :
    (consWords (words.map String.toList) ⟨[], none, false⟩).command =
      Command.ofWords (words.filter (· ≠ "")) none := by
  have hwords : (List.filter (· ≠ []) (words.map String.toList)).map String.ofList =
      words.filter (· ≠ "") := by
    rw [List.filter_map, List.map_map]
    simp [Function.comp_def]
  rw [command, consWords_words, consWords_redirect, List.append_nil, hwords]

end Scanned

namespace Command
variable {verb : String} {arguments : List String}

/-- Words of which the last has lost a character are not the words that were typed. -/
theorem ofWords_filter_ne {init : List String} {word : String} {c : Char} (hverb : verb ≠ "")
    (hwords : verb :: arguments = init ++ [word.push c]) :
    ofWords ((init ++ [word]).filter (· ≠ "")) none ≠ ⟨verb, arguments, none⟩ := by
  intro h
  have hfilter : (init ++ [word]).filter (· ≠ "") = init ++ [word.push c] := by
    rw [← hwords]
    cases hws : (init ++ [word]).filter (· ≠ "") with
    | nil =>
      rw [hws, ofWords_nil] at h
      exact absurd (congrArg Command.verb h).symm hverb
    | cons v as =>
      rw [hws, ofWords_cons] at h
      obtain ⟨rfl, rfl, -⟩ := Command.mk.inj h
      rfl
  -- nothing can be left out of a list without making it shorter
  have hsame : init ++ [word.push c] = init ++ [word] := by
    have hsub : (init ++ [word.push c]).Sublist (init ++ [word]) := by
      rw [← hfilter]
      exact List.filter_sublist
    exact hsub.eq_of_length (by simp)
  have hpush : word.push c = word := List.singleton_inj.mp (List.append_cancel_left hsame)
  have hlength := congrArg (fun w => w.toList.length) hpush
  simp [String.toList_push] at hlength

/-- The last word is then some other word with a blank behind it. -/
theorem EndsInBlank.exists_eq {words : List String} (h : EndsInBlank words) :
    ∃ (init : List String) (word : String) (c : Char),
      words = init ++ [word.push c] ∧ Text.isBlank c = true := by
  obtain ⟨last, hlast, c, hc, hb⟩ := h
  obtain ⟨init, hwords⟩ := List.getLast?_eq_some_iff.mp hlast
  obtain ⟨front, hfront⟩ := List.getLast?_eq_some_iff.mp hc
  have hpush : last = (String.ofList front).push c := by
    apply String.toList_injective
    rw [hfront, String.toList_push, String.toList_ofList]
  exact ⟨init, String.ofList front, c, by rw [hwords, hpush], hb⟩

/-- A last word that ends in a blank loses this one character. -/
theorem ofLine_escaped_push {init : List String} (hinit : ∀ w ∈ init, w ≠ "") (word : String)
    {c : Char} (hc : Text.isBlank c = true) :
    ofLine (escapedLine (init ++ [word.push c])) =
      ofWords ((init ++ [word]).filter (· ≠ "")) none := by
  rw [ofLine, Scanned.ofLine_escaped_concat hinit word hc, Scanned.command_consWords_toList]

end Command

/-- **A backslash keeps every character but a blank at the end of the line.**  Words that are
typed with a backslash before each character are the words of the command, and there is no
redirection, exactly if the last of them does not end in a blank.  If it does, it loses that
one character, and with it its place among the words if it has no other. -/
theorem Command.ofLine_escapedLine {verb : String} {arguments : List String}
    (h : ∀ w ∈ verb :: arguments, w ≠ "") :
    (Command.ofLine (escapedLine (verb :: arguments)) = ⟨verb, arguments, none⟩ ↔
      ¬EndsInBlank (verb :: arguments)) ∧
    ∀ (init : List String) (word : String) (c : Char),
      verb :: arguments = init ++ [word.push c] → Text.isBlank c = true →
      Command.ofLine (escapedLine (verb :: arguments)) =
        ofWords ((init ++ [word]).filter (· ≠ "")) none := by
  have hne : ∀ {init : List String} {word : String}, verb :: arguments = init ++ [word] →
      (∀ w ∈ init, w ≠ "") ∧ word ≠ "" := by
    intro init word hwords
    rw [hwords] at h
    exact ⟨fun w hw => h w (List.mem_append_left _ hw), h word (by simp)⟩
  refine ⟨⟨fun hline hend => ?_, fun hend => ?_⟩, fun init word c hwords hc => ?_⟩
  · obtain ⟨init, word, c, hwords, hc⟩ := hend.exists_eq
    rw [hwords, ofLine_escaped_push (hne hwords).1 word hc] at hline
    exact ofWords_filter_ne (h verb List.mem_cons_self) hwords hline
  · obtain ⟨init, word, hwords⟩ :=
      (List.eq_nil_or_concat' (verb :: arguments)).resolve_left (List.cons_ne_nil _ _)
    have hlast : ∀ c, word.toList.getLast? = some c → Text.isBlank c = false := by
      intro c hc
      by_contra hb
      rw [hwords] at hend
      exact hend ⟨word, List.getLast?_concat, c, hc, by simpa using hb⟩
    have hall : ∀ w ∈ verb :: arguments, decide (w ≠ "") = true := by simpa using h
    rw [hwords, Command.ofLine, Scanned.ofLine_escaped (hne hwords).1 (hne hwords).2 hlast,
      Scanned.command_consWords_toList, ← hwords, List.filter_eq_self.mpr hall, ofWords_cons]
  · rw [hwords, ofLine_escaped_push (hne hwords).1 word hc]

/-- Blanks at both ends of a word that others follow, a digit before an operator, quotes and
backslashes; and a tab that is lost behind a blank that is kept. -/
theorem Command.ofLine_escapedLine_everything :
    let arguments := [" a\t", "2>>f", "'\"\\"]
    (∀ w ∈ "echo" :: arguments, w ≠ "") ∧
      Command.ofLine (escapedLine ("echo" :: arguments)) = ⟨"echo", arguments, none⟩ ∧
      escapedLine ["b \t"] = "\\b\\ \\\t" ∧
      Command.ofLine (escapedLine ["b \t"]) = ⟨"b ", [], none⟩ := by
  intro arguments
  have h : ∀ w ∈ "echo" :: arguments, w ≠ "" := by simp [arguments]
  refine ⟨h, (Command.ofLine_escapedLine h).1.mpr (by decide), by decide, ?_⟩
  exact (Command.ofLine_escapedLine (by simp)).2 [] "b " '\t' (by decide) (by decide)

/-- The blank at the end of `\e\c\h\o \a\ ` is not kept. -/
theorem Command.escaped_blank_lost :
    ¬∀ (verb : String) (arguments : List String), (∀ w ∈ verb :: arguments, w ≠ "") →
      Command.ofLine (escapedLine (verb :: arguments)) = ⟨verb, arguments, none⟩ := by
  intro h
  have hline := h "echo" ["a "] (by simp)
  revert hline
  decide

end LineShell
