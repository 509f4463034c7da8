import LineShell.Text.Utf8

/-! # Where reading bytes begins anew

A byte below 0x80 continues no sequence: it breaks off what has begun and stands for itself.
So the text of bytes can be cut at every such byte, and a newline is never swallowed by what
stands before it.
-/
namespace LineShell.Text

/-- A sequence that has begun waits for bytes of 0x80 and above. -/
def Begun.Waiting (s : Begun) : Prop := s.missing ≠ [] ∧ ∀ r ∈ s.missing, 0x80 ≤ r.1

theorem following_waiting {b : UInt8} {ranges : List (UInt8 × UInt8)}
    (h : following b = some ranges) : ranges ≠ [] ∧ ∀ r ∈ ranges, (0x80 : UInt8) ≤ r.1 := by
  unfold following at h
  repeat' split at h
  all_goals cases h
  all_goals exact ⟨by simp, by simp [continuation]⟩

theorem begin_waiting (b : UInt8) : ∀ s ∈ (begin b).2, s.Waiting := by
  intro s hs
  unfold begin at hs
  split at hs
  · cases hs
  · split at hs
    · next hranges =>
      obtain rfl := Option.some.inj hs
      exact following_waiting hranges
    · cases hs

/-- One more byte leaves nothing that does not wait for bytes of 0x80 and above. -/
theorem step_waiting {s : Option Begun} (hs : ∀ begun ∈ s, begun.Waiting) (b : UInt8) :
    ∀ begun ∈ (step s b).2, begun.Waiting := by
  match s with
  | none => exact begin_waiting b
  | some ⟨taken, value, []⟩ => exact absurd rfl (hs _ rfl).1
  | some ⟨taken, value, (low, high) :: more⟩ =>
    intro begun hbegun
    simp only [step] at hbegun
    split at hbegun
    · split at hbegun
      · cases hbegun
      · next hmore =>
        obtain rfl := Option.some.inj hbegun
        refine ⟨by simpa using hmore, fun r hr => ?_⟩
        exact (hs _ rfl).2 r (List.mem_cons_of_mem _ hr)
    · exact begin_waiting b begun hbegun

/-- The run that is broken off when no more bytes follow. -/
theorem piecesFrom_nil (s : Option Begun) :
    piecesFrom s [] = s.toList.map fun begun => .broken begun.taken := by
  cases s <;> rfl

/-- A byte below 0x80 breaks off what has begun, and stands for itself. -/
theorem step_ascii {s : Option Begun} (hs : ∀ begun ∈ s, begun.Waiting) {b : UInt8}
    (hb : b < 0x80) :
    step s b = (piecesFrom s [] ++ [.char (Char.ofNat b.toNat)], none) := by
  have hbegin : begin b = ([.char (Char.ofNat b.toNat)], none) := by simp [begin, hb]
  match s with
  | none =>
    simp only [step, hbegin, piecesFrom_nil, Option.toList_none, List.map_nil, List.nil_append]
  | some ⟨taken, value, []⟩ => exact absurd rfl (hs _ rfl).1
  | some ⟨taken, value, (low, high) :: more⟩ =>
    have hlow : (0x80 : UInt8) ≤ low := (hs _ rfl).2 _ List.mem_cons_self
    have hout : ¬(low ≤ b ∧ b ≤ high) := fun h =>
      absurd (UInt8.le_trans hlow h.1) (UInt8.not_le.mpr hb)
    simp only [step, hout, if_false, hbegin, piecesFrom, List.cons_append, List.nil_append]

/-- The text of bytes is cut at a byte below 0x80, whatever stands before it. -/
theorem piecesFrom_append_ascii {s : Option Begun} (hs : ∀ begun ∈ s, begun.Waiting)
    {b : UInt8} (hb : b < 0x80) (bs rest : Bytes) :
    piecesFrom s (bs ++ b :: rest) =
      piecesFrom s bs ++ .char (Char.ofNat b.toNat) :: pieces rest := by
  induction bs generalizing s with
  | nil =>
    have hcons : piecesFrom s (b :: rest) = (step s b).1 ++ piecesFrom (step s b).2 rest := by
      cases s <;> rfl
    rw [List.nil_append, hcons, step_ascii hs hb, List.append_assoc]
    rfl
  | cons a bs ih =>
    have hcons : ∀ tail, piecesFrom s (a :: tail) =
        (step s a).1 ++ piecesFrom (step s a).2 tail := by
      intro tail
      cases s <;> rfl
    rw [List.cons_append, hcons, hcons, ih (step_waiting hs a), List.append_assoc]

theorem decodeLossy_append_ascii {b : UInt8} (hb : b < 0x80) (bs rest : Bytes) :
    decodeLossy (bs ++ b :: rest) =
      decodeLossy bs ++ Char.ofNat b.toNat :: decodeLossy rest := by
  have hcut : pieces (bs ++ b :: rest) = pieces bs ++ .char (Char.ofNat b.toNat) :: pieces rest :=
    piecesFrom_append_ascii (fun _ h => by cases h) hb bs rest
  rw [decodeLossy, hcut, List.map_append]
  rfl

/-- A newline byte is a newline, whatever stands before it. -/
theorem decodeLossy_append_newline (bs : Bytes) :
    decodeLossy (bs ++ [10]) = decodeLossy bs ++ ['\n'] :=
  decodeLossy_append_ascii (by decide) bs []

end LineShell.Text
