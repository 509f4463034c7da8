import LineShell.ReadLoop

/-! # Input cut into lines

Cutting an input behind every newline is determined by what comes of it (`IsCut`): the pieces
make up the input, none is empty, a newline stands at the end of a piece only, and every piece
but the last has one there.  So an input that ends in a newline can be cut apart from what
follows it, and a newline added to any other input completes its last piece.
-/
namespace LineShell

/-- The lines are the input, cut behind every newline. -/
structure IsCut (bytes : Bytes) (lines : List Bytes) : Prop where
  /-- They make up the input. -/
  flatten : lines.flatten = bytes
  /-- None is empty. -/
  ne_nil : ∀ line ∈ lines, line ≠ []
  /-- A newline stands nowhere but at the end of a line. -/
  inner : ∀ line ∈ lines, 10 ∉ line.dropLast
  /-- Only the last line may lack one there. -/
  ended : ∀ line ∈ lines.dropLast, line.getLast? = some 10

/-! ## Cutting what is put together -/

/-- Without a newline nothing is cut off. -/
theorem cutLines_of_notMem {bs : Bytes} (h : 10 ∉ bs) : cutLines bs = ([], bs) := by
  induction bs with
  | nil => rfl
  | cons b bs ih =>
    obtain ⟨hb, hbs⟩ := List.ne_and_not_mem_of_not_mem_cons h
    simp only [cutLines, ih hbs, Ne.symm hb, if_false]

/-- A newline at the end completes what is left. -/
theorem cutLines_append_newline (bs : Bytes) :
    cutLines (bs ++ [10]) = ((cutLines bs).1 ++ [(cutLines bs).2 ++ [10]], []) := by
  induction bs with
  | nil => rfl
  | cons b bs ih =>
    rw [List.cons_append, cutLines, ih]
    rcases hcut : cutLines bs with ⟨lines, rest⟩
    by_cases hb : b = 10
    · simp [cutLines, hcut, hb]
    · cases lines <;> simp [cutLines, hcut, hb]

/-- What is cut without a rest is cut apart from what follows it. -/
theorem cutLines_append {bs : Bytes} (h : (cutLines bs).2 = []) (more : Bytes) :
    cutLines (bs ++ more) = ((cutLines bs).1 ++ (cutLines more).1, (cutLines more).2) := by
  induction bs with
  | nil => rfl
  | cons b bs ih =>
    rcases hcut : cutLines bs with ⟨lines, rest⟩
    rw [hcut] at ih
    by_cases hb : b = 10
    · have hrest : rest = [] := by simpa [cutLines, hcut, hb] using h
      simp [cutLines, hcut, hb, ih hrest]
    · cases lines with
      | nil => simp [cutLines, hcut, hb] at h
      | cons line lines =>
        have hrest : rest = [] := by simpa [cutLines, hcut, hb] using h
        simp [cutLines, hcut, hb, ih hrest]

/-- Nothing is left of an input that ends in a newline. -/
theorem cutLines_rest_of_ended {bs : Bytes} (h : bs.getLast? = some 10) : (cutLines bs).2 = [] := by
  obtain ⟨before, rfl⟩ := List.getLast?_eq_some_iff.mp h
  rw [cutLines_append_newline]

/-- Something is left of any other input that is not empty. -/
theorem cutLines_rest_ne_nil {bs : Bytes} (hne : bs ≠ []) (h : bs.getLast? ≠ some 10) :
    (cutLines bs).2 ≠ [] := by
  intro hrest
  have hflatten := cutLines_flatten bs
  rw [hrest, List.append_nil] at hflatten
  rcases List.eq_nil_or_concat (cutLines bs).1 with hlines | ⟨init, last, hlines⟩
  · rw [hlines] at hflatten
    exact hne hflatten.symm
  · have hlast : last ∈ (cutLines bs).1 := by simp [hlines]
    obtain ⟨body, rfl, -⟩ := exists_eq_of_mem_cutLines hlast
    apply h
    rw [← hflatten, hlines]
    simp

/-! ## The lines of an input -/

namespace Input

theorem lines_of_rest {bytes : Bytes} (h : (cutLines bytes).2 = []) (failure : Option Fault) :
    lines ⟨bytes, failure⟩ = (cutLines bytes).1 := by
  simp [lines, h]

/-- An input that can be cut apart from what follows it. -/
theorem lines_append {bytes : Bytes} (h : (cutLines bytes).2 = []) (more : Bytes)
    (failure : Option Fault) :
    lines ⟨bytes ++ more, failure⟩ = lines ⟨bytes, none⟩ ++ lines ⟨more, failure⟩ := by
  rw [lines_of_rest h, lines, lines, cutLines_append h]
  simp only
  split
  · rfl
  · exact List.append_assoc ..

/-- The last line with the newline that it lacks. -/
theorem lines_append_newline {bytes : Bytes} (h : (cutLines bytes).2 ≠ []) :
    ∃ init last, lines ⟨bytes, none⟩ = init ++ [last] ∧
      lines ⟨bytes ++ [10], none⟩ = init ++ [last ++ [10]] := by
  refine ⟨(cutLines bytes).1, (cutLines bytes).2, ?_, ?_⟩
  · simp [lines, h]
  · simp [lines, cutLines_append_newline]

/-- An input is cut behind every newline. -/
theorem isCut_lines (bytes : Bytes) : IsCut bytes (lines ⟨bytes, none⟩) := by
  have hflatten := cutLines_flatten bytes
  have hrest := newline_notMem_rest bytes
  have hended : ∀ line ∈ (cutLines bytes).1, ∃ body, line = body ++ [10] ∧ 10 ∉ body :=
    fun line => exists_eq_of_mem_cutLines
  rcases hcut : cutLines bytes with ⟨complete, rest⟩
  rw [hcut] at hflatten hrest hended
  have hlines : lines ⟨bytes, none⟩ = complete ++ (if rest = [] then [] else [rest]) := by
    by_cases h : rest = [] <;> simp [lines, hcut, h]
  have hmem : ∀ line ∈ lines ⟨bytes, none⟩, line ∈ complete ∨ line = rest ∧ rest ≠ [] := by
    intro line h
    rw [hlines, List.mem_append] at h
    split at h <;> simp_all
  refine ⟨?_, ?_, ?_, ?_⟩
  · rw [hlines, ← hflatten]
    split <;> simp_all
  · intro line h
    rcases hmem line h with hline | ⟨rfl, hne⟩
    · obtain ⟨body, rfl, -⟩ := hended line hline
      simp
    · exact hne
  · intro line h
    rcases hmem line h with hline | ⟨rfl, -⟩
    · obtain ⟨body, rfl, hbody⟩ := hended line hline
      simpa using hbody
    · exact fun h => hrest ((List.dropLast_sublist _).mem h)
  · intro line h
    have hline : line ∈ complete := by
      rw [hlines] at h
      split at h
      · rw [List.append_nil] at h
        exact (List.dropLast_sublist _).mem h
      · simpa using h
    obtain ⟨body, rfl, -⟩ := hended line hline
    simp

/-- There is one way to cut an input. -/
theorem lines_of_isCut {bytes : Bytes} {cut : List Bytes} (h : IsCut bytes cut) :
    lines ⟨bytes, none⟩ = cut := by
  induction cut generalizing bytes with
  | nil =>
    obtain rfl : [] = bytes := h.flatten
    rfl
  | cons line rest ih =>
    obtain ⟨body, last, rfl⟩ : ∃ body last, line = body ++ [last] := by
      rcases List.eq_nil_or_concat line with hline | ⟨body, last, hline⟩
      · exact absurd hline (h.ne_nil line List.mem_cons_self)
      · exact ⟨body, last, by simpa using hline⟩
    have hbody : 10 ∉ body := by simpa using h.inner _ List.mem_cons_self
    by_cases hlast : last = 10
    · subst hlast
      have hline : cutLines (body ++ [10]) = ([body ++ [10]], []) := by
        rw [cutLines_append_newline, cutLines_of_notMem hbody]
        rfl
      have hrest : IsCut rest.flatten rest :=
        ⟨rfl, fun line hline => h.ne_nil line (List.mem_cons_of_mem _ hline),
          fun line hline => h.inner line (List.mem_cons_of_mem _ hline), fun line hline => by
            cases rest with
            | nil => cases hline
            | cons first rest => exact h.ended line (List.mem_cons_of_mem _ hline)⟩
      rw [← h.flatten, List.flatten_cons, lines_append (by rw [hline]), ih hrest,
        lines_of_rest (by rw [hline]), hline]
      rfl
    · -- a line without its newline is the last
      cases rest with
      | cons first rest =>
        have hended := h.ended (body ++ [last]) List.mem_cons_self
        simp [hlast] at hended
      | nil =>
        have hnot : 10 ∉ body ++ [last] := by simp [hbody, Ne.symm hlast]
        rw [← h.flatten, List.flatten_singleton]
        simp [lines, cutLines_of_notMem hnot]

end Input
end LineShell
