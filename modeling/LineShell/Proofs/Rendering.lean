import LineShell.Proofs.Operator

/-! # Commands as lines

Which commands are there lines for?  A command that comes from a line is blank, or it is
valid (`Command.Valid`): none of its words is empty, and the path of its redirection is not
empty and has no blanks at its ends.  The first half of this module reads that off the scan
(`Scanned.sound_scan`).

The second half shows that nothing else is asked of a command: every valid one is written as
a line (`Command.rendered`) which asks for it again.  Its words go between single quotes, so
the only character to care for is the single quote itself, which is written as a closing
quote, an escaped one and an opening one.  Such a line is a phrase, so the laws of phrases
and operators read it: that a quoted `1` or `2` selects no stream, and that a path may hold
quotes and operators, need no argument of their own.

A command with one word and no redirection is not blank, so an empty verb means more than
that there are no arguments and no redirection (`Command.single_word_not_blank`).
-/
namespace LineShell

/-- A path that a redirection can name: not empty, and without blanks at its ends. -/
def Redirect.Valid (r : Redirect) : Prop :=
  r.path ≠ "" ∧ Text.trim r.path.toList = r.path.toList

/-- A command that a line can ask for. -/
structure Command.Valid (c : Command) : Prop where
  verb_ne : c.verb ≠ ""
  arguments_ne : ∀ w ∈ c.arguments, w ≠ ""
  redirect : ∀ r ∈ c.redirect, r.Valid

/-! ## What a line asks for -/

namespace Scanned

/-- No word found is empty, and a redirection names a path. -/
structure Sound (s : Scanned) : Prop where
  words : ∀ w ∈ s.words, w ≠ ""
  redirect : ∀ r ∈ s.redirect, r.Valid

theorem Sound.consWord {s : Scanned} (h : s.Sound) (word : List Char) :
    (consWord word s).Sound := by
  rw [Scanned.consWord]
  split
  · exact h
  · next hword =>
    refine ⟨fun _ hw => ?_, h.redirect⟩
    rcases List.mem_cons.mp hw with rfl | hw
    · simpa using hword
    · exact h.words _ hw

/-- Without words, only the redirection matters. -/
theorem sound_of_redirect {redirect : Option Redirect} {pathMissing : Bool}
    (h : ∀ r ∈ redirect, r.Valid) : Sound ⟨[], redirect, pathMissing⟩ :=
  ⟨fun _ hw => absurd hw List.not_mem_nil, h⟩

theorem sound_finish (word : List Char) : (finish word).Sound :=
  (sound_of_redirect fun r hr => absurd hr (Option.not_mem_none r)).consWord word

theorem redirect_valid_of_mem {stream : Stream} {mode : WriteMode} {rest : List Char}
    {r : Redirect} (h : r ∈ Redirect.requested stream mode rest) : r.Valid := by
  rw [Redirect.requested] at h
  split at h
  · exact absurd h (Option.not_mem_none r)
  · next hpath =>
    obtain rfl := Option.some.inj h
    refine ⟨by simpa using hpath, ?_⟩
    simp only [String.toList_ofList, Text.trim_trim]

theorem sound_operator (bare : Bool) (word rest : List Char) : (operator bare word rest).Sound := by
  obtain ⟨stream, kept, mode, rest', h⟩ := operator_eq_consWord bare word rest
  rw [h]
  exact (sound_of_redirect fun r hr => redirect_valid_of_mem hr).consWord kept

/-- **Every scan is sound.**  Words come only from `consWord`, and a redirection only from
`operator`. -/
theorem sound_scan (quoting : Quoting) (bare : Bool) (read cs : List Char) :
    (scan quoting bare read cs).Sound := by
  fun_induction scan quoting bare read cs
  -- the line ends
  case case1 | case2 | case9 | case12 | case13 => exact sound_finish _
  case case6 => exact sound_operator ..
  case case7 ih => exact ih.consWord _
  -- the scan goes on with the next character
  all_goals assumption

theorem Sound.command {s : Scanned} (h : s.Sound) :
    s.command = Command.blank ∨ s.command.Valid := by
  obtain ⟨words, redirect, pathMissing⟩ := s
  cases words with
  | nil => exact .inl rfl
  | cons verb arguments =>
    refine .inr ⟨h.words verb List.mem_cons_self, fun w hw => ?_, h.redirect⟩
    exact h.words w (List.mem_cons_of_mem verb hw)

end Scanned

/-- A line asks for nothing, or for something valid. -/
theorem Command.ofLine_eq_blank_or_valid (line : String) :
    Command.ofLine line = Command.blank ∨ (Command.ofLine line).Valid :=
  (Scanned.sound_scan ..).command

/-! ## Writing a command -/

/-- A word between single quotes.  A single quote in it is written `'\''`. -/
def Text.singleQuoted (word : List Char) : List Char :=
  '\'' :: word.flatMap (fun c => if c = '\'' then ['\'', '\\', '\'', '\''] else [c]) ++ ['\'']

/-- The digit before an operator.  Standard output needs none, but may have one. -/
def Stream.digit (explicit : Bool) : Stream → List Char
  | stdout => if explicit then ['1'] else []
  | stderr => ['2']

/-- A redirection as it is typed, with the path as it stands. -/
def Redirect.rendered (explicit : Bool) (r : Redirect) : List Char :=
  ' ' :: r.stream.digit explicit ++ r.mode.operator ++ ' ' :: r.path.toList

/-- A line for a command: its words between single quotes, with a space between any two, and
its redirection. -/
def Command.rendered (explicit : Bool) (c : Command) : String :=
  String.ofList ([' '].intercalate ((c.verb :: c.arguments).map (Text.singleQuoted ·.toList)) ++
    c.redirect.elim [] (Redirect.rendered explicit))

/-! ## The line of a command is a phrase -/

/-- Some word is typed like this and means the text between the quotes. -/
theorem Word.exists_typed_singleQuoted (word : List Char) :
    ∃ w : Word, w.typed = Text.singleQuoted word ∧ w.meaning = word ∧
      ∀ c, w.fragments.getLast? ≠ some (.escaped c) := by
  suffices h : ∃ text, ∃ ht, ∃ fs,
      (Fragment.single text ht :: fs).flatMap Fragment.typed = Text.singleQuoted word ∧
      (Fragment.single text ht :: fs).flatMap Fragment.meaning = word ∧
      ∀ c, (Fragment.single text ht :: fs).getLast? ≠ some (.escaped c) by
    obtain ⟨text, ht, fs, htyped, hmeaning, hlast⟩ := h
    exact ⟨⟨Fragment.single text ht :: fs, List.cons_ne_nil _ _⟩, htyped, hmeaning, hlast⟩
  induction word with
  | nil => exact ⟨[], List.not_mem_nil, [], rfl, rfl, fun c h => by cases h⟩
  | cons d word ih =>
    obtain ⟨text, ht, fs, htyped, hmeaning, hlast⟩ := ih
    by_cases hd : d = '\''
    · -- the quotes close before a quote, and open again behind it
      subst hd
      refine ⟨[], List.not_mem_nil, .escaped '\'' :: .single text ht :: fs, ?_, ?_, ?_⟩
      · rw [List.flatMap_cons, List.flatMap_cons, htyped]
        simp [Fragment.typed, Text.singleQuoted]
      · rw [List.flatMap_cons, List.flatMap_cons, hmeaning]
        rfl
      · simpa using hlast
    · refine ⟨d :: text, ?_, fs, ?_, ?_, ?_⟩
      · simp [ht, Ne.symm hd]
      · simp only [List.flatMap_cons, Fragment.typed, Text.singleQuoted, List.cons_append,
          List.cons.injEq, true_and] at htyped ⊢
        simp [hd, htyped]
      · simpa [Fragment.meaning] using hmeaning
      · cases fs with
        | nil => simp
        | cons f fs => simpa using hlast

/-- Texts that can be typed as words, each with a space behind it. -/
theorem Phrase.exists_spaced {spell : List Char → List Char} {P : Word → Prop}
    {texts : List (List Char)}
    (h : ∀ text ∈ texts, ∃ w : Word, w.typed = spell text ∧ w.meaning = text ∧ P w) :
    ∃ ws : List (Word × Gap), ws.map (fun w => w.1.meaning) = texts ∧
      typedSpaced ws = texts.flatMap (fun text => spell text ++ [' ']) ∧ ∀ w ∈ ws, P w.1 := by
  induction texts with
  | nil => exact ⟨[], rfl, rfl, fun w hw => absurd hw List.not_mem_nil⟩
  | cons text texts ih =>
    obtain ⟨ws, hmeaning, htyped, hws⟩ := ih fun t ht => h t (List.mem_cons_of_mem text ht)
    obtain ⟨w, hwtyped, hwmeaning, hw⟩ := h text List.mem_cons_self
    let gap : Gap := ⟨[' '], List.cons_ne_nil _ _, by decide⟩
    refine ⟨(w, gap) :: ws, ?_, ?_, ?_⟩
    · rw [List.map_cons, hmeaning, hwmeaning]
    · rw [List.flatMap_cons, ← htyped, ← hwtyped]
      rfl
    · intro v hv
      rcases List.mem_cons.mp hv with rfl | hv
      · exact hw
      · exact hws v hv

/-- Between words stand spaces: one behind each but the last. -/
theorem intercalate_concat {α : Type} (f : α → List Char) (as : List α) (a : α) :
    [' '].intercalate ((as ++ [a]).map f) = as.flatMap (fun a => f a ++ [' ']) ++ f a := by
  induction as with
  | nil => simp
  | cons b as ih =>
    rw [List.flatMap_cons, List.append_assoc, ← ih]
    cases as with
    | nil => simp [List.intercalate]
    | cons c as => simp [List.intercalate]

/-- A space behind the last of the words, as behind the others. -/
theorem intercalate_append_space {α : Type} (f : α → List Char) {as : List α} (h : as ≠ []) :
    [' '].intercalate (as.map f) ++ [' '] = as.flatMap fun a => f a ++ [' '] := by
  obtain ⟨as, a, rfl⟩ := (List.eq_nil_or_concat' as).resolve_left h
  rw [intercalate_concat, List.flatMap_append, List.flatMap_singleton, List.append_assoc]

/-- The digit of a stream is a word that selects it; without one the stream is standard
output. -/
theorem Stream.exists_typed_digit (explicit : Bool) (stream : Stream) :
    ∃ last : Option Word, last.toList.flatMap Word.typed = stream.digit explicit ∧
      (last.bind Word.selects?).getD .stdout = stream ∧
      last.toList.filter (·.selects? = none) = [] := by
  let digit (c : Char) (h : Text.isPlain c = true) : Word := ⟨[.plain c h], List.cons_ne_nil _ _⟩
  cases stream with
  | stderr => exact ⟨some (digit '2' (by decide)), rfl, rfl, rfl⟩
  | stdout =>
    cases explicit with
    | true => exact ⟨some (digit '1' (by decide)), rfl, rfl, rfl⟩
    | false => exact ⟨none, rfl, rfl, rfl⟩

/-- Typed words that mean words none of which is empty are kept as these words. -/
theorem Word.kept_eq {ws : List Word} {words : List String}
    (hmeaning : ws.map meaning = words.map String.toList) (hne : ∀ w ∈ words, w ≠ "") :
    kept ws = words := by
  have hall : ∀ cs ∈ words.map String.toList, decide (cs ≠ []) = true := by
    intro cs hcs
    obtain ⟨w, hw, rfl⟩ := List.mem_map.mp hcs
    simpa using hne w hw
  rw [kept, hmeaning, List.filter_eq_self.mpr hall, List.map_map]
  simp

theorem Redirect.requested_of_valid {r : Redirect} (h : r.Valid) :
    Redirect.requested r.stream r.mode (' ' :: r.path.toList) = some r := by
  have htrim : Text.trim (' ' :: r.path.toList) = r.path.toList := by
    rw [← List.singleton_append, Text.trim_append_left (by decide), h.2]
  have hpath : r.path.toList ≠ [] := by simpa using h.1
  rw [Redirect.requested, htrim, if_neg hpath, String.ofList_toList]

/-- The words of a command, quoted and with a space behind each, are typed words with gaps,
and these are kept as they are. -/
theorem Phrase.exists_kept_eq {words : List String} (hnil : words ≠ [])
    (hne : ∀ w ∈ words, w ≠ "") :
    ∃ ws : List (Word × Gap), Word.kept (ws.map Prod.fst) = words ∧
      [' '].intercalate (words.map (Text.singleQuoted ·.toList)) ++ [' '] = typedSpaced ws ∧
      ∀ w ∈ ws, ∀ c, w.1.fragments.getLast? ≠ some (.escaped c) := by
  obtain ⟨ws, hmeaning, htyped, hlast⟩ := exists_spaced
    fun text (_ : text ∈ words.map String.toList) => Word.exists_typed_singleQuoted text
  refine ⟨ws, Word.kept_eq ?_ hne, ?_, hlast⟩
  · rw [List.map_map]
    exact hmeaning
  · rw [intercalate_append_space _ hnil, htyped, List.flatMap_map]

/-- A command is asked for again by its line. -/
theorem Command.ofLine_rendered_of_valid {c : Command} (h : c.Valid) (explicit : Bool) :
    Command.ofLine (c.rendered explicit) = c := by
  obtain ⟨verb, arguments, redirect⟩ := c
  have hne : ∀ w ∈ verb :: arguments, w ≠ "" := by
    intro w hw
    rcases List.mem_cons.mp hw with rfl | hw
    · exact h.verb_ne
    · exact h.arguments_ne w hw
  obtain ⟨ws, hkept, hline, hlast⟩ := Phrase.exists_kept_eq (List.cons_ne_nil _ _) hne
  cases redirect with
  | none =>
    let p : Phrase := ⟨[], Text.allBlank_nil, ws, none⟩
    have hp : p.typed = Phrase.typedSpaced ws := List.append_nil _
    have hwords : p.words = ws.map Prod.fst := List.append_nil _
    have hend : ¬p.EndsInEscapedBlank := by
      rintro ⟨w, hw, c, hc, _⟩
      rw [hwords] at hw
      obtain ⟨v, hv, rfl⟩ := List.mem_map.mp (List.mem_of_getLast? hw)
      exact hlast v hv c hc
    have hspace : Text.AllBlank [' '] := by decide
    rw [Command.ofLine, Command.rendered, Option.elim_none, List.append_nil,
      ← Scanned.ofLine_append_blanks hspace, hline, ← hp, Scanned.ofLine_typed p hend,
      Scanned.command_consWords, hwords, hkept, Command.ofWords_cons]
  | some r =>
    obtain ⟨last, hdigit, hstream, hfilter⟩ := r.stream.exists_typed_digit explicit
    let p : Phrase := ⟨[], Text.allBlank_nil, ws, last⟩
    have hp : p.typed = Phrase.typedSpaced ws ++ r.stream.digit explicit := by
      rw [← hdigit]
      rfl
    have hwords : p.wordsBeforeOperator = ws.map Prod.fst := by
      rw [Phrase.wordsBeforeOperator, hfilter, List.append_nil]
    have hrendered : [' '].intercalate ((verb :: arguments).map (Text.singleQuoted ·.toList)) ++
        r.rendered explicit = p.typed ++ r.mode.operator ++ ' ' :: r.path.toList := by
      rw [hp, ← hline, Redirect.rendered]
      simp
    rw [Command.ofLine, Command.rendered, Option.elim_some, hrendered,
      Scanned.ofLine_typed_operator p r.mode _ (fun _ => by simp), Scanned.command_consWords, hwords,
      hkept, Phrase.selected?, hstream, Redirect.requested_of_valid (h.redirect r rfl),
      Command.ofWords_cons]

/-! ## The two directions -/

/-- A verb that is not empty may still stand alone. -/
theorem Command.single_word_not_blank :
    ¬∀ line, (Command.ofLine line).verb = "" ↔
      (Command.ofLine line).arguments = [] ∧ (Command.ofLine line).redirect = none := by
  intro h
  have hverb : (Command.ofLine "pwd").verb = "" := (h "pwd").mpr ⟨by decide, by decide⟩
  revert hverb
  decide

/-- **The commands of lines are the blank one and the valid ones.**  Every line asks for one
of these; the verb is empty exactly in the blank command, which has no arguments and no
redirection, and the path of a redirection is never empty.  Conversely a valid command is
asked for again by its line, and so is whatever a line asks for that is not blank. -/
theorem Command.ofLine_image_and_roundtrip :
    (∀ line, Command.ofLine line = Command.blank ∨ (Command.ofLine line).Valid) ∧
    (∀ line, ((Command.ofLine line).verb = "" ↔ Command.ofLine line = Command.blank) ∧
      ((Command.ofLine line).verb = "" →
        (Command.ofLine line).arguments = [] ∧ (Command.ofLine line).redirect = none) ∧
      (Command.ofLine line).targetPath ≠ some "") ∧
    (∀ (c : Command) (explicit : Bool), c.Valid → Command.ofLine (c.rendered explicit) = c) ∧
    (∀ (line : String) (explicit : Bool), Command.ofLine line ≠ Command.blank →
      Command.ofLine ((Command.ofLine line).rendered explicit) = Command.ofLine line) := by
  refine ⟨Command.ofLine_eq_blank_or_valid, fun line => ?_, fun c explicit h => ?_,
    fun line explicit hline => ?_⟩
  · rcases Command.ofLine_eq_blank_or_valid line with h | h
    · rw [h]
      decide
    · refine ⟨⟨fun hverb => absurd hverb h.verb_ne, fun hblank => ?_⟩,
        fun hverb => absurd hverb h.verb_ne, fun hpath => ?_⟩
      · rw [hblank]
        rfl
      · obtain ⟨r, hr, hempty⟩ := Option.map_eq_some_iff.mp hpath
        exact (h.redirect r hr).1 hempty
  · exact Command.ofLine_rendered_of_valid h explicit
  · exact Command.ofLine_rendered_of_valid
      ((Command.ofLine_eq_blank_or_valid line).resolve_left hline) explicit

/-- A quoted digit as a word, and an operator and a quote in the path: the line is
`'2' 'a'\''' 2>> >'x`. -/
theorem Command.ofLine_image_and_roundtrip_quotes :
    let c : Command := ⟨"2", ["a'"], some ⟨.stderr, ">'x", .append⟩⟩
    c.Valid ∧ c.rendered false = "'2' 'a'\\''' 2>> >'x" ∧ Command.ofLine (c.rendered false) = c := by
  intro c
  have h : c.Valid := by
    refine ⟨by decide, by decide, fun r hr => ?_⟩
    obtain rfl := Option.some.inj hr
    exact ⟨by decide, by decide⟩
  exact ⟨h, by decide, Command.ofLine_image_and_roundtrip.2.2.1 c false h⟩

end LineShell
