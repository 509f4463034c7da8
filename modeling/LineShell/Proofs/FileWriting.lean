import LineShell.FileSystem.Access

/-! # Writing to an open file

An open file takes what is written to it in pieces as it takes the whole: how the bytes were
cut leaves no trace, neither in the contents nor in the date nor in the position of the next
byte.  Only the full device refuses anything.
-/
namespace LineShell.FileSystem

/-! ## Contents -/

/-- What is put behind a part of the content replaces as much of the rest. -/
theorem overlay_append_left (before after bytes : Bytes) :
    overlay (before ++ after) before.length bytes =
      before ++ (bytes ++ after.drop bytes.length) := by
  by_cases hbytes : bytes = []
  · simp [overlay, hbytes]
  cases after with
  | nil => simp [overlay_length]
  | cons b after =>
    have hinside : ¬(before ++ b :: after).length ≤ before.length := by simp
    simp only [overlay, hbytes, if_false, hinside, List.take_left, ← List.drop_drop,
      List.drop_left]

/-- Two pieces, one behind the other, are one. -/
theorem overlay_append (content : Bytes) (position : Nat) (first second : Bytes) :
    overlay content position (first ++ second) =
      overlay (overlay content position first) (position + first.length) second := by
  by_cases hfirst : first = []
  · subst hfirst
    simp
  by_cases hposition : content.length ≤ position
  · -- both pieces come behind the end, the second right behind the first
    have hbehind : ∀ bytes, bytes ≠ [] → overlay content position bytes =
        content ++ (List.replicate (position - content.length) 0 ++ bytes) := by
      intro bytes hbytes
      simp only [overlay, hbytes, if_false, hposition, if_true]
    have hend : position + first.length =
        (content ++ (List.replicate (position - content.length) 0 ++ first)).length := by
      simp only [List.length_append, List.length_replicate]
      omega
    rw [hbehind _ (by simp [hfirst]), hbehind _ hfirst, hend, overlay_length]
    simp only [List.append_assoc]
  · obtain ⟨before, after, rfl, rfl⟩ : ∃ before after, content = before ++ after ∧
        before.length = position :=
      ⟨content.take position, content.drop position, (List.take_append_drop ..).symm,
        List.length_take_of_le (Nat.le_of_not_le hposition)⟩
    have hlength : before.length + first.length = (before ++ first).length :=
      List.length_append.symm
    rw [overlay_append_left, overlay_append_left, ← List.append_assoc before first, hlength,
      overlay_append_left, List.drop_drop, List.length_append]
    simp only [List.append_assoc]

/-! ## Files -/

/-- A change that leaves every file as it is. -/
theorem modifyFile_id (fs : FileSystem) (n : Nat) : fs.modifyFile n (fun d => d) = fs := by
  have hid : fs.store.modify n (fun d => d) = fs.store := List.modify_id n fs.store
  rw [modifyFile, hid]

theorem modifyFile_modifyFile (fs : FileSystem) (n : Nat) (f g : FileData → FileData) :
    (fs.modifyFile n f).modifyFile n g = fs.modifyFile n fun d => g (f d) := by
  simp only [modifyFile, List.modify_modify_eq]
  rfl

/-- Writing nothing changes nothing. -/
theorem write_nil (fs : FileSystem) (h : Handle) : fs.write h [] = (none, h, fs) := by
  match h with
  | .within n position =>
    simp only [write, overlay_nil, if_true, modifyFile_id, List.length_nil, Nat.add_zero]
  | .atEnd n => simp only [write, List.append_nil, if_true, modifyFile_id]
  | .device .null => rfl
  | .device .full => rfl

/-- Only the full device refuses what is written to it. -/
theorem write_fault {h : Handle} (hfull : h ≠ .device .full) (fs : FileSystem) (bytes : Bytes) :
    (fs.write h bytes).1 = none := by
  match h with
  | .within _ _ | .atEnd _ | .device .null => rfl
  | .device .full => exact absurd rfl hfull

/-- Two pieces, one after the other, are one. -/
theorem write_append (fs : FileSystem) (h : Handle) (first second : Bytes) :
    (fs.write h (first ++ second)).2 =
      ((fs.write h first).2.2.write (fs.write h first).2.1 second).2 := by
  -- what is dated by a piece stays so; an empty piece leaves the date to the other
  have hdate : ∀ d : FileData, (if first ++ second = [] then d.date else none) =
      if second = [] then if first = [] then d.date else none else none := by
    intro d
    by_cases hsecond : second = []
    · simp [hsecond]
    · simp [hsecond]
  match h with
  | .within n position =>
    simp only [write, modifyFile_modifyFile, overlay_append, hdate, List.length_append,
      Nat.add_assoc]
  | .atEnd n => simp only [write, modifyFile_modifyFile, hdate, List.append_assoc]
  | .device .null => rfl
  | .device .full => rfl

end LineShell.FileSystem
