import LineShell.Proofs.DirectoryChange
import Mathlib.Data.List.DropRight

/-! # Paths in the home directory

A path that begins with `~` leads through the home directory: the names in it are those of the home
directory and then its own.  Where the two meet stand the slashes that were typed, whatever slashes
the home directory ends in.  Nothing but slashes at the end is taken from the text of the home
directory, so the path begins as that does, even if it is the root and nothing is left of it.  Hence
with an absolute home directory there is no `~` at the beginning any more that could be written out
again.
-/
namespace LineShell

/-! ## The names in a text -/

namespace Text

/-- The names in the text of a path: what stands between its slashes, if anything does. -/
def names (text : List Char) : List (List Char) := (text.splitOn '/').filter (! ·.isEmpty)

/-- A slash divides the names. -/
theorem names_append_slash (before after : List Char) :
    names (before ++ '/' :: after) = names before ++ names after := by
  rw [names, List.splitOn_append_cons_self, List.filter_append]
  rfl

/-- Slashes at the end of a text add no name. -/
theorem names_append_slashes {slashes : List Char} (h : ∀ c ∈ slashes, c = '/')
    (text : List Char) : names (text ++ slashes) = names text := by
  induction slashes generalizing text with
  | nil => rw [List.append_nil]
  | cons c slashes ih =>
    obtain ⟨rfl, hslashes⟩ := List.forall_mem_cons.mp h
    have hnone : names slashes = [] := ih hslashes []
    rw [names_append_slash, hnone, List.append_nil]

/-- A slash put in the place of those at the end of a text leaves its beginning as it is. -/
theorem head?_append_slash {base slashes : List Char} (h : ∀ c ∈ slashes, c = '/')
    (hne : base ++ slashes ≠ []) (rest : List Char) :
    (base ++ '/' :: rest).head? = (base ++ slashes).head? := by
  cases base with
  | cons c base => rfl
  | nil =>
    -- nothing but slashes, as in the root: the one that is put there is the first
    obtain ⟨c, more, rfl⟩ := List.exists_cons_of_ne_nil hne
    obtain rfl : c = '/' := h c List.mem_cons_self
    rfl

/-- What is taken away at the end of a text are slashes. -/
theorem exists_slashes (text : List Char) :
    ∃ slashes, (∀ c ∈ slashes, c = '/') ∧ text = text.rdropWhile (· = '/') ++ slashes := by
  refine ⟨text.rtakeWhile (· = '/'), fun c hc => ?_, List.rdropWhile_append_rtakeWhile.symm⟩
  simpa using List.mem_rtakeWhile_imp hc

end Text

/-! ## One path -/

section
variable {path expanded : String} {home : Path}

/-- With a home directory something becomes of every path. -/
theorem exists_expanded (path : String) (home : Path) :
    ∃ expanded, expandTilde path (some home) = .ok expanded := by
  cases h : expandTilde path (some home) with
  | ok expanded => exact ⟨expanded, rfl⟩
  | error d => exact absurd (expandTilde_eq_error_iff.mp h).1.1 (Option.some_ne_none home)

/-- `~` alone becomes the home directory as it is; in front of a slash it becomes the home directory
without the slashes at its end. -/
theorem NeedsHome.expanded_cases (hneeds : NeedsHome path)
    (h : expandTilde path (some home) = .ok expanded) :
    (path.toList = ['~'] ∧ expanded = home.display) ∨
      ∃ rest, path.toList = '~' :: '/' :: rest ∧
        expanded.toList = home.display.toList.rdropWhile (· = '/') ++ '/' :: rest := by
  rcases hneeds with halone | ⟨rest, hbefore⟩
  · simp only [expandTilde, halone] at h
    exact .inl ⟨halone, (Except.ok.inj h).symm⟩
  · simp only [expandTilde, ← hbefore, List.cons_append, List.nil_append] at h
    refine .inr ⟨rest, hbefore.symm, ?_⟩
    rw [← Except.ok.inj h, String.toList_ofList, Path.display, Text.lossyString,
      String.toList_ofList]
    rfl

/-- **No name is lost or made**: there are those of the home directory, and then those that were
typed. -/
theorem NeedsHome.names_expanded (hneeds : NeedsHome path)
    (h : expandTilde path (some home) = .ok expanded) :
    Text.names expanded.toList =
      Text.names home.display.toList ++ Text.names path.toList.tail := by
  rcases hneeds.expanded_cases h with ⟨halone, rfl⟩ | ⟨rest, hbefore, hexpanded⟩
  · rw [halone]
    exact (List.append_nil _).symm
  · obtain ⟨slashes, hslashes, htext⟩ := Text.exists_slashes home.display.toList
    have hhome : Text.names home.display.toList =
        Text.names (home.display.toList.rdropWhile (· = '/')) :=
      (congrArg Text.names htext).trans (Text.names_append_slashes hslashes _)
    have htyped : Text.names ('/' :: rest) = Text.names rest := Text.names_append_slash [] rest
    rw [hexpanded, hbefore, Text.names_append_slash, hhome, List.tail_cons, htyped]

/-- The beginning is that of the home directory. -/
theorem NeedsHome.head?_expanded (hneeds : NeedsHome path)
    (h : expandTilde path (some home) = .ok expanded) (hhome : home.display ≠ "") :
    expanded.toList.head? = home.display.toList.head? := by
  rcases hneeds.expanded_cases h with ⟨-, rfl⟩ | ⟨rest, -, hexpanded⟩
  · rfl
  · obtain ⟨slashes, hslashes, htext⟩ := Text.exists_slashes home.display.toList
    have hne : home.display.toList ≠ [] := fun hnil => hhome (String.toList_eq_nil_iff.mp hnil)
    rw [hexpanded, Text.head?_append_slash hslashes (htext ▸ hne), ← htext]

/-- So the path is absolute if the home directory is. -/
theorem NeedsHome.isAbsolute_expanded (hneeds : NeedsHome path)
    (h : expandTilde path (some home) = .ok expanded) (habsolute : home.isAbsolute = true) :
    (Path.ofString expanded).isAbsolute = true := by
  have hslash := Path.head?_display habsolute
  have hhome : home.display ≠ "" := by
    intro hempty
    rw [hempty] at hslash
    cases hslash
  rw [Path.isAbsolute_ofString_iff, hneeds.head?_expanded h hhome, hslash]

/-- **Writing out once is enough**, if the home directory is absolute. -/
theorem expandTilde_expanded (h : expandTilde path (some home) = .ok expanded)
    (habsolute : home.isAbsolute = true) : expandTilde expanded (some home) = .ok expanded := by
  by_cases hneeds : NeedsHome path
  · refine expandTilde_of_not_needsHome (fun hagain => ?_) _
    have hrelative := hagain.isAbsolute
    rw [hneeds.isAbsolute_expanded h habsolute] at hrelative
    cases hrelative
  · obtain rfl : path = expanded :=
      Except.ok.inj ((expandTilde_of_not_needsHome hneeds _).symm.trans h)
    exact h

end

/-! ## All paths -/

/-- **What becomes of a path that is typed**, with a home directory that is not the empty text or with
none.  A path that is neither `~` nor begins with `~/` stays as it is; any other is refused without a
home directory, and has with one the names of the home directory and then its own, and a slash at
its beginning exactly if the home directory has one.  So with an absolute home directory it becomes
an absolute path, the same from wherever it is seen, and what any path becomes stays as it is. -/
theorem expandTilde_home (path : String) (home : Option String) (hhome : ∀ h ∈ home, h ≠ "") :
    let expansion := expandTilde path (home.map Path.ofString)
    (∀ d, expansion = .error d ↔ (home = none ∧ NeedsHome path) ∧ d = .homeNotSet) ∧
    (¬NeedsHome path → expansion = .ok path) ∧
    ∀ h ∈ home, ∃ expanded, expansion = .ok expanded ∧
      (NeedsHome path →
        Text.names expanded.toList = Text.names h.toList ++ Text.names path.toList.tail ∧
        (expanded.toList.head? = some '/' ↔ h.toList.head? = some '/')) ∧
      ((Path.ofString h).isAbsolute = true →
        (NeedsHome path → (Path.ofString expanded).isAbsolute = true ∧
          ∀ ctx : Context, ctx.resolve (Path.ofString expanded) = Path.ofString expanded) ∧
        expandTilde expanded (home.map Path.ofString) = .ok expanded) := by
  refine ⟨fun d => ?_, fun hneeds => expandTilde_of_not_needsHome hneeds _, fun h hh => ?_⟩
  · rw [expandTilde_eq_error_iff, Option.map_eq_none_iff]
  obtain rfl : home = some h := hh
  rw [Option.map_some]
  obtain ⟨expanded, hexpanded⟩ := exists_expanded path (Path.ofString h)
  refine ⟨expanded, hexpanded, fun hneeds => ⟨?_, ?_⟩, fun habsolute => ⟨fun hneeds => ?_, ?_⟩⟩
  · rw [hneeds.names_expanded hexpanded, Path.display_ofString]
  · have hshown : (Path.ofString h).display ≠ "" := by
      rw [Path.display_ofString]
      exact hhome h rfl
    rw [hneeds.head?_expanded hexpanded hshown, Path.display_ofString]
  · have hslash := hneeds.isAbsolute_expanded hexpanded habsolute
    exact ⟨hslash, fun ctx => ctx.resolve_of_isAbsolute hslash⟩
  · exact expandTilde_expanded hexpanded habsolute

/-- With the root, typed with two slashes, for a home directory a path keeps its own slashes. -/
theorem expandTilde_home_root :
    (∀ h ∈ some "//", h ≠ "") ∧ NeedsHome "~//etc/" ∧
      expandTilde "~//etc/" (some (Path.ofString "//")) = .ok "//etc/" ∧
      Text.names "//etc/".toList = Text.names "//".toList ++ Text.names "//etc/".toList ∧
      (Path.ofString "//etc/").isAbsolute = true ∧
      expandTilde "//etc/" (some (Path.ofString "//")) = .ok "//etc/" := by
  have hhome : ∀ h ∈ some "//", h ≠ "" := by
    rintro h ⟨⟩
    decide
  have hneeds : NeedsHome "~//etc/" := by decide +kernel
  have hresult : expandTilde "~//etc/" (some (Path.ofString "//")) = .ok "//etc/" := by
    decide +kernel
  obtain ⟨-, -, hhomes⟩ := expandTilde_home "~//etc/" (some "//") hhome
  obtain ⟨expanded, heq, hnames, habsolute⟩ := hhomes "//" rfl
  obtain rfl : expanded = "//etc/" := Except.ok.inj (heq.symm.trans hresult)
  obtain ⟨hslash, hstays⟩ := habsolute (by decide +kernel)
  have htail : "~//etc/".toList.tail = "//etc/".toList := by decide +kernel
  exact ⟨hhome, hneeds, hresult, htail ▸ (hnames hneeds).1, (hslash hneeds).1, hstays⟩

end LineShell
