import LineShell.Path
import LineShell.Proofs.Characters

/-! # Paths that are typed and shown

A path is typed as a text and shown as one, and what was typed is shown again.  The slash is written
as one byte, which stands in no other character; so one sees from the text whether a path is
absolute.
-/
namespace LineShell.Path

/-- An absolute path is shown with its slash. -/
theorem head?_display {p : Path} (h : p.isAbsolute = true) :
    p.display.toList.head? = some '/' := by
  obtain ⟨bytes⟩ := p
  cases bytes with
  | nil => cases h
  | cons b rest =>
    obtain rfl : b = slash := by simpa [isAbsolute] using h
    have hcut : Text.decodeLossy (slash :: rest) = '/' :: Text.decodeLossy rest :=
      Text.decodeLossy_append_ascii (by decide) [] rest
    simp only [display, Text.lossyString, hcut, String.toList_ofList, List.head?_cons]

/-- A path is shown as it was typed. -/
theorem display_ofString (s : String) : (ofString s).display = s := by
  rw [display, ofString, Text.lossyString, Text.utf8, Text.decodeLossy_encode, String.ofList_toList]

/-- Absolute is what is typed with a slash at its beginning. -/
theorem isAbsolute_ofString_iff {s : String} :
    (ofString s).isAbsolute = true ↔ s.toList.head? = some '/' := by
  constructor
  · intro h
    have hshown := head?_display h
    rwa [display_ofString] at hshown
  · intro h
    obtain ⟨rest, hrest⟩ := List.head?_eq_some_iff.mp h
    simp only [ofString, isAbsolute, Text.utf8, hrest, Text.encode_cons]
    rfl

/-- A name without a slash is a relative path. -/
theorem isAbsolute_ofString {name : String} (h : '/' ∉ name.toList) :
    (ofString name).isAbsolute = false := by
  rw [Bool.eq_false_iff, ne_eq, isAbsolute_ofString_iff]
  intro hslash
  exact h (List.mem_of_mem_head? hslash)

end LineShell.Path
