import LineShell.Text.Blank
import Mathlib.Data.List.DropRight

/-! # Trimming

Trimming takes the blanks off the two ends of a text and nothing else.  So blanks that
are put at an end make no difference (`trim_append_left`, `trim_append_right`), a text
whose two ends are no blanks stays as it is (`trim_eq_self`), and what follows such a
text loses only the blanks at its own end (`trim_append`).
-/
namespace LineShell.Text

/-- A text of blanks only. -/
def AllBlank (cs : List Char) : Prop := ∀ c ∈ cs, isBlank c = true

instance (cs : List Char) : Decidable (AllBlank cs) :=
  decidable_of_iff (cs.all isBlank = true) List.all_eq_true

theorem allBlank_nil : AllBlank [] := fun _ h => absurd h List.not_mem_nil

/-- A text that begins and ends with a character that is no blank. -/
def Tight (cs : List Char) : Prop :=
  (∃ c, cs.head? = some c ∧ isBlank c = false) ∧ ∃ c, cs.getLast? = some c ∧ isBlank c = false

theorem trim_eq_rdropWhile (cs : List Char) :
    trim cs = (cs.dropWhile isBlank).rdropWhile isBlank := rfl

theorem Tight.dropWhile_append {cs : List Char} (h : Tight cs) (rest : List Char) :
    (cs ++ rest).dropWhile isBlank = cs ++ rest := by
  obtain ⟨⟨c, hc, hb⟩, _⟩ := h
  obtain ⟨cs, rfl⟩ := List.head?_eq_some_iff.mp hc
  rw [List.cons_append, List.dropWhile_cons_of_neg (by simp [hb])]

/-- Blanks at the end of a text go, whatever comes before them stays. -/
theorem Tight.rdropWhile_append {cs : List Char} (h : Tight cs) (rest : List Char) :
    (cs ++ rest).rdropWhile isBlank = cs ++ rest.rdropWhile isBlank := by
  induction rest using List.reverseRecOn with
  | nil =>
    obtain ⟨_, c, hc, hb⟩ := h
    obtain ⟨cs, rfl⟩ := List.getLast?_eq_some_iff.mp hc
    rw [List.append_nil, List.rdropWhile_nil, List.append_nil,
      List.rdropWhile_concat_neg _ _ _ (by simp [hb])]
  | append_singleton rest c ih =>
    rw [← List.append_assoc]
    by_cases hb : isBlank c = true
    · rw [List.rdropWhile_concat_pos _ _ _ hb, List.rdropWhile_concat_pos _ _ _ hb, ih]
    · rw [List.rdropWhile_concat_neg _ _ _ hb, List.rdropWhile_concat_neg _ _ _ hb,
        List.append_assoc]

/-- What follows a tight text loses the blanks at its own end only. -/
theorem trim_append {cs : List Char} (h : Tight cs) (rest : List Char) :
    trim (cs ++ rest) = cs ++ rest.rdropWhile isBlank := by
  rw [trim_eq_rdropWhile, h.dropWhile_append, h.rdropWhile_append]

/-- A tight text stays as it is. -/
theorem trim_eq_self {cs : List Char} (h : Tight cs) : trim cs = cs := by
  have := trim_append h []
  rwa [List.append_nil, List.rdropWhile_nil, List.append_nil] at this

theorem trim_append_left {bs : List Char} (h : AllBlank bs) (cs : List Char) :
    trim (bs ++ cs) = trim cs := by
  rw [trim_eq_rdropWhile, List.dropWhile_append_of_pos h, ← trim_eq_rdropWhile]

theorem rdropWhile_append_of_allBlank {bs : List Char} (h : AllBlank bs) (cs : List Char) :
    (cs ++ bs).rdropWhile isBlank = cs.rdropWhile isBlank := by
  induction bs using List.reverseRecOn with
  | nil => rw [List.append_nil]
  | append_singleton bs c ih =>
    rw [← List.append_assoc, List.rdropWhile_concat_pos _ _ _ (h c (by simp))]
    exact ih fun b hb => h b (by simp [hb])

theorem trim_append_right {bs : List Char} (h : AllBlank bs) (cs : List Char) :
    trim (cs ++ bs) = trim cs := by
  rw [trim_eq_rdropWhile, trim_eq_rdropWhile, List.dropWhile_append]
  split
  · next he =>
    rw [List.isEmpty_iff.mp he, List.dropWhile_eq_nil_iff.mpr h]
  · exact rdropWhile_append_of_allBlank h _

/-- Trimming the end first makes no difference. -/
theorem trim_rdropWhile (cs : List Char) : trim (cs.rdropWhile isBlank) = trim cs := by
  have h : AllBlank (cs.rtakeWhile isBlank) := fun c hc => List.mem_rtakeWhile_imp hc
  have := trim_append_right h (cs.rdropWhile isBlank)
  rwa [List.rdropWhile_append_rtakeWhile, eq_comm] at this

/-- What is left after trimming is nothing, or tight. -/
theorem tight_trim {cs : List Char} (h : trim cs ≠ []) : Tight (trim cs) := by
  have hlast : ¬isBlank ((trim cs).getLast h) = true :=
    List.rdropWhile_last_not isBlank (cs.dropWhile isBlank) h
  refine ⟨?_, _, List.getLast?_eq_some_getLast h, by simpa using hlast⟩
  obtain ⟨rest, hrest⟩ := List.rdropWhile_prefix isBlank (l := cs.dropWhile isBlank)
  rw [← trim_eq_rdropWhile] at hrest
  obtain ⟨c, tail, htrim⟩ := List.exists_cons_of_ne_nil h
  have hne : cs.dropWhile isBlank ≠ [] := by
    rw [← hrest, htrim]
    exact List.cons_ne_nil _ _
  have hhead := List.head_dropWhile_not isBlank hne
  refine ⟨c, by rw [htrim]; rfl, ?_⟩
  have hc : (cs.dropWhile isBlank).head hne = c := by
    simp only [← hrest, htrim, List.cons_append, List.head_cons]
  rwa [hc] at hhead

@[simp] theorem trim_trim (cs : List Char) : trim (trim cs) = trim cs := by
  by_cases h : trim cs = []
  · rw [h]; rfl
  · exact trim_eq_self (tight_trim h)

end LineShell.Text
