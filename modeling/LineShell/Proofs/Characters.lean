import LineShell.Proofs.Decoding
import Mathlib.Data.List.Forall2

/-! # What bytes are read as

The UTF-8 form of a text is read back as that text, whatever bytes follow it.  And whatever bytes
there are, a character that several of them make is never one below 0x80, for an overlong form is
broken off before it is complete.  So a newline is read only where there is a newline byte.
-/
namespace LineShell.Text

/-! ## Reading back what was written -/

/-- Bytes are read one by one. -/
theorem piecesFrom_cons (s : Option Begun) (b : UInt8) (bs : Bytes) :
    piecesFrom s (b :: bs) = (step s b).1 ++ piecesFrom (step s b).2 bs := by
  cases s <;> rfl

/-- The value of a sequence after the payload of one more byte. -/
def addPayload (value : Nat) (b : UInt8) : Nat := value * 64 + b.toNat % 64

/-- The bytes lie in the ranges, one in each. -/
abbrev Fill (ranges : List (UInt8 × UInt8)) (bytes : Bytes) : Prop :=
  List.Forall₂ (fun range b => range.1 ≤ b ∧ b ≤ range.2) ranges bytes

/-- A sequence that has begun is completed by bytes in the ranges that it waits for. -/
theorem piecesFrom_of_fill {missing : List (UInt8 × UInt8)} {bytes : Bytes}
    (h : Fill missing bytes) (hne : missing ≠ []) (taken : Bytes) (value : Nat) (rest : Bytes) :
    piecesFrom (some ⟨taken, value, missing⟩) (bytes ++ rest) =
      .char (Char.ofNat (bytes.foldl addPayload value)) :: pieces rest := by
  induction h generalizing taken value with
  | nil => exact absurd rfl hne
  | @cons range b more bytes hrange hmore ih =>
    obtain ⟨low, high⟩ := range
    rw [List.cons_append, piecesFrom_cons, List.foldl_cons]
    cases more with
    | nil =>
      cases hmore
      simp only [step, hrange.1, hrange.2, and_self, if_true, List.isEmpty_nil]
      rfl
    | cons next more =>
      simp only [step, hrange.1, hrange.2, and_self, if_true, List.isEmpty_cons,
        Bool.false_eq_true, if_false, List.nil_append]
      exact ih (List.cons_ne_nil _ _) _ _

/-- The ranges behind a leading byte, which is given by its number. -/
theorem following_ofNat {n : Nat} (h : n < 256) :
    following (UInt8.ofNat n) =
      if n < 0xC2 then none
      else if n < 0xE0 then some [continuation]
      else if n = 0xE0 then some [(0xA0, 0xBF), continuation]
      else if n = 0xED then some [(0x80, 0x9F), continuation]
      else if n < 0xF0 then some [continuation, continuation]
      else if n = 0xF0 then some [(0x90, 0xBF), continuation, continuation]
      else if n < 0xF4 then some [continuation, continuation, continuation]
      else if n = 0xF4 then some [(0x80, 0x8F), continuation, continuation]
      else none := by
  have hn : (UInt8.ofNat n).toNat = n := by
    rw [UInt8.toNat_ofNat', Nat.mod_eq_of_lt h]
  simp only [following, UInt8.lt_iff_toNat_lt, ← UInt8.toNat_inj, hn]
  rfl

theorem pieces_of_fill {b : UInt8} {ranges : List (UInt8 × UInt8)} {bytes : Bytes}
    (hlead : following b = some ranges) (h : Fill ranges bytes) (rest : Bytes) :
    pieces (b :: bytes ++ rest) =
      .char (Char.ofNat (bytes.foldl addPayload (leadValue b ranges.length))) :: pieces rest := by
  have hnot : ¬b < 0x80 := by
    intro hb
    have hlow : b < 0xC2 := UInt8.lt_trans hb (by decide)
    simp [following, hlow] at hlead
  have hbegin : step none b = ([], some ⟨[b], leadValue b ranges.length, ranges⟩) := by
    simp only [step, begin, hnot, if_false, hlead]
  rw [pieces, List.cons_append, piecesFrom_cons, hbegin]
  exact piecesFrom_of_fill h (following_waiting hlead).1 _ _ rest

/-- What a sequence stands for whose bytes are given by their numbers. -/
theorem pieces_of_numbers {n value : Nat} {ranges : List (UInt8 × UInt8)} (numbers : List Nat)
    (hlead : following (UInt8.ofNat n) = some ranges)
    (hfill : List.Forall₂ (fun range m => range.1.toNat ≤ m ∧ m ≤ range.2.toNat) ranges numbers)
    (hvalue : numbers.foldl (fun value m => value * 64 + m % 64)
      (leadValue (UInt8.ofNat n) ranges.length) = value) (rest : Bytes) :
    pieces (UInt8.ofNat n :: numbers.map UInt8.ofNat ++ rest) =
      .char (Char.ofNat value) :: pieces rest := by
  have hbytes : Fill ranges (numbers.map UInt8.ofNat) := by
    refine List.forall₂_map_right_iff.mpr (hfill.imp fun range m hrange => ?_)
    have hm : (UInt8.ofNat m).toNat = m := by
      rw [UInt8.toNat_ofNat', Nat.mod_eq_of_lt (Nat.lt_of_le_of_lt hrange.2 (UInt8.toNat_lt _))]
    rw [UInt8.le_iff_toNat_le, UInt8.le_iff_toNat_le, hm]
    exact hrange
  have hpayload : ∀ value m, addPayload value (UInt8.ofNat m) = value * 64 + m % 64 := by
    intro value m
    rw [addPayload, UInt8.toNat_ofNat']
    omega
  rw [pieces_of_fill hlead hbytes, List.foldl_map, ← hvalue]
  simp only [hpayload]

/-! ## Characters of two, three and four bytes -/

theorem pieces_two {v : Nat} (hlow : 0x80 ≤ v) (hhigh : v < 0x800) (rest : Bytes) :
    pieces ([UInt8.ofNat (v / 64 % 32 + 192), UInt8.ofNat (v % 64 + 128)] ++ rest) =
      .char (Char.ofNat v) :: pieces rest := by
  have hlead : following (UInt8.ofNat (v / 64 % 32 + 192)) = some [continuation] := by
    rw [following_ofNat (by omega), if_neg (by omega), if_pos (by omega)]
  refine pieces_of_numbers [v % 64 + 128] hlead ?_ ?_ rest
  · refine .cons ⟨?_, ?_⟩ .nil <;> simp only [continuation, UInt8.toNat_ofNat] <;> omega
  · simp only [leadValue, UInt8.toNat_ofNat', Nat.pow_eq, List.foldl_cons, List.foldl_nil,
      List.length_cons, List.length_nil]
    omega

theorem pieces_three {v : Nat} (hlow : 0x800 ≤ v) (hhigh : v < 0x10000)
    (hsurrogate : v < 0xD800 ∨ 0xE000 ≤ v) (rest : Bytes) :
    pieces ([UInt8.ofNat (v / 4096 % 16 + 224), UInt8.ofNat (v / 64 % 64 + 128),
      UInt8.ofNat (v % 64 + 128)] ++ rest) = .char (Char.ofNat v) :: pieces rest := by
  obtain ⟨range, hlead, hrange⟩ : ∃ range : UInt8 × UInt8,
      following (UInt8.ofNat (v / 4096 % 16 + 224)) = some [range, continuation] ∧
        range.1.toNat ≤ v / 64 % 64 + 128 ∧ v / 64 % 64 + 128 ≤ range.2.toNat := by
    rw [following_ofNat (by omega), if_neg (by omega), if_neg (by omega)]
    split
    · exact ⟨_, rfl, by simp only [UInt8.toNat_ofNat]; omega⟩
    · split
      · exact ⟨_, rfl, by simp only [UInt8.toNat_ofNat]; omega⟩
      · rw [if_pos (by omega)]
        exact ⟨_, rfl, by simp only [continuation, UInt8.toNat_ofNat]; omega⟩
  refine pieces_of_numbers [v / 64 % 64 + 128, v % 64 + 128] hlead ?_ ?_ rest
  · refine .cons hrange (.cons ⟨?_, ?_⟩ .nil) <;>
      simp only [continuation, UInt8.toNat_ofNat] <;> omega
  · simp only [leadValue, UInt8.toNat_ofNat', Nat.pow_eq, List.foldl_cons, List.foldl_nil,
      List.length_cons, List.length_nil]
    omega

theorem pieces_four {v : Nat} (hlow : 0x10000 ≤ v) (hhigh : v < 0x110000) (rest : Bytes) :
    pieces ([UInt8.ofNat (v / 262144 % 8 + 240), UInt8.ofNat (v / 4096 % 64 + 128),
      UInt8.ofNat (v / 64 % 64 + 128), UInt8.ofNat (v % 64 + 128)] ++ rest) =
      .char (Char.ofNat v) :: pieces rest := by
  obtain ⟨range, hlead, hrange⟩ : ∃ range : UInt8 × UInt8,
      following (UInt8.ofNat (v / 262144 % 8 + 240)) = some [range, continuation, continuation] ∧
        range.1.toNat ≤ v / 4096 % 64 + 128 ∧ v / 4096 % 64 + 128 ≤ range.2.toNat := by
    rw [following_ofNat (by omega), if_neg (by omega), if_neg (by omega), if_neg (by omega),
      if_neg (by omega), if_neg (by omega)]
    split
    · exact ⟨_, rfl, by simp only [UInt8.toNat_ofNat]; omega⟩
    · split
      · exact ⟨_, rfl, by simp only [continuation, UInt8.toNat_ofNat]; omega⟩
      · rw [if_pos (by omega)]
        exact ⟨_, rfl, by simp only [UInt8.toNat_ofNat]; omega⟩
  refine pieces_of_numbers [v / 4096 % 64 + 128, v / 64 % 64 + 128, v % 64 + 128] hlead ?_ ?_
    rest
  · refine .cons hrange (.cons ⟨?_, ?_⟩ (.cons ⟨?_, ?_⟩ .nil)) <;>
      simp only [continuation, UInt8.toNat_ofNat] <;> omega
  · simp only [leadValue, UInt8.toNat_ofNat', Nat.pow_eq, List.foldl_cons, List.foldl_nil,
      List.length_cons, List.length_nil]
    omega

/-- **A character is read back** from its bytes, whatever follows them. -/
theorem pieces_utf8EncodeChar (c : Char) (rest : Bytes) :
    pieces (String.utf8EncodeChar c ++ rest) = .char c :: pieces rest := by
  have hvalid : c.val.toNat < 0xD800 ∨ 0xDFFF < c.val.toNat ∧ c.val.toNat < 0x110000 := c.valid
  have hchar : Char.ofNat c.val.toNat = c := Char.ofNat_toNat c
  simp only [String.utf8EncodeChar]
  split
  · next hone =>
    have hnat : (UInt8.ofNat c.val.toNat).toNat = c.val.toNat := by
      rw [UInt8.toNat_ofNat', Nat.mod_eq_of_lt (by omega)]
    have hascii : UInt8.ofNat c.val.toNat < 0x80 := by
      rw [UInt8.lt_iff_toNat_lt, hnat]
      exact Nat.lt_succ_of_le hone
    have hcut := piecesFrom_append_ascii (s := none) (fun _ h => by cases h) hascii [] rest
    rw [hnat, hchar] at hcut
    exact hcut
  · split
    · next htwo =>
      rw [pieces_two (by omega) (by omega), hchar]
    · split
      · next hthree =>
        rw [pieces_three (by omega) (by omega) (by omega), hchar]
      · rw [pieces_four (by omega) (by omega), hchar]

/-- A text is read back from its UTF-8 form. -/
theorem decodeLossy_encode (cs : List Char) : decodeLossy (encode cs) = cs := by
  induction cs with
  | nil => rfl
  | cons c cs ih =>
    rw [encode_cons, decodeLossy, pieces_utf8EncodeChar, List.map_cons]
    exact congrArg (c :: ·) ih

/-! ## Where a newline is read -/

namespace Begun

/-- The least number that a sequence begun can come to stand for. -/
def least (s : Begun) : Nat := (s.missing.map Prod.fst).foldl addPayload s.value

/-- The sequence can come to stand for no number below 0x80. -/
structure Long (s : Begun) : Prop where
  ranges : ∀ range ∈ s.missing, 0x80 ≤ range.1.toNat ∧ range.2.toNat ≤ 0xBF
  least : 0x80 ≤ s.least

end Begun

theorem foldl_addPayload_le {value value' : Nat} (h : value ≤ value') (bytes : Bytes) :
    bytes.foldl addPayload value ≤ bytes.foldl addPayload value' := by
  induction bytes generalizing value value' with
  | nil => exact h
  | cons b bytes ih => exact ih (by simp only [addPayload]; omega)

/-- No overlong form is begun. -/
theorem begin_long (b : UInt8) : ∀ s ∈ (begin b).2, s.Long := by
  intro s hs
  unfold begin at hs
  split at hs
  · cases hs
  split at hs
  case h_2 => cases hs
  case h_1 ranges hranges =>
    obtain rfl := Option.some.inj hs
    simp only [following, UInt8.lt_iff_toNat_lt, ← UInt8.toNat_inj, UInt8.toNat_ofNat] at hranges
    repeat' split at hranges
    all_goals cases hranges
    all_goals
      refine ⟨by simp [continuation], ?_⟩
      simp only [Begun.least, addPayload, leadValue, continuation, List.map_cons, List.map_nil,
        List.foldl_cons, List.foldl_nil, List.length_cons, List.length_nil, UInt8.toNat_ofNat,
        Nat.pow_eq]
      omega

/-- None comes of a byte more. -/
theorem step_long {s : Option Begun} (hs : ∀ begun ∈ s, begun.Long) (b : UInt8) :
    ∀ begun ∈ (step s b).2, begun.Long := by
  match s with
  | none => exact begin_long b
  | some ⟨taken, value, []⟩ => exact begin_long b
  | some ⟨taken, value, (low, high) :: more⟩ =>
    intro begun hbegun
    have hlong := hs _ rfl
    simp only [step] at hbegun
    split at hbegun
    · next hin =>
      split at hbegun
      · cases hbegun
      · obtain rfl := Option.some.inj hbegun
        refine ⟨fun range hrange => hlong.ranges range (List.mem_cons_of_mem _ hrange), ?_⟩
        have hrange : 0x80 ≤ low.toNat ∧ high.toNat ≤ 0xBF := hlong.ranges _ List.mem_cons_self
        have hin' : low.toNat ≤ b.toNat ∧ b.toNat ≤ high.toNat := hin
        have hpayload : addPayload value low ≤ addPayload value b := by
          simp only [addPayload]
          omega
        exact Nat.le_trans hlong.least (foldl_addPayload_le hpayload (more.map Prod.fst))
    · exact begin_long b begun hbegun

/-- Only the number 10 is that of a newline. -/
theorem eq_of_ofNat_eq_newline {n : Nat} (h : Char.ofNat n = '\n') : n = 10 := by
  by_cases hvalid : n.isValidChar
  · rw [Char.ofNat, dif_pos hvalid] at h
    exact congrArg Char.toNat h
  · rw [Char.ofNat, dif_neg hvalid] at h
    cases h

theorem newline_mem_of_begin {b : UInt8} (h : Piece.char '\n' ∈ (begin b).1) : b = 10 := by
  unfold begin at h
  split at h
  · have hb : Char.ofNat b.toNat = '\n' := by simpa [eq_comm] using h
    exact UInt8.toNat_inj.mp (eq_of_ofNat_eq_newline hb)
  · split at h
    · cases h
    · simp at h

theorem newline_mem_of_step {s : Option Begun} (hs : ∀ begun ∈ s, begun.Long) {b : UInt8}
    (h : Piece.char '\n' ∈ (step s b).1) : b = 10 := by
  match s with
  | none => exact newline_mem_of_begin h
  | some ⟨taken, value, []⟩ => exact newline_mem_of_begin h
  | some ⟨taken, value, (low, high) :: more⟩ =>
    have hlong := hs _ rfl
    simp only [step] at h
    split at h
    · next hin =>
      split at h
      · next hmore =>
        -- the character is 0x80 at least
        obtain rfl : more = [] := List.isEmpty_iff.mp hmore
        have hvalue : Char.ofNat (value * 64 + b.toNat % 64) = '\n' := by simpa [eq_comm] using h
        have hten := eq_of_ofNat_eq_newline hvalue
        have hleast : 0x80 ≤ value * 64 + low.toNat % 64 := hlong.least
        have hrange : 0x80 ≤ low.toNat ∧ high.toNat ≤ 0xBF := hlong.ranges _ List.mem_cons_self
        have hin' : low.toNat ≤ b.toNat ∧ b.toNat ≤ high.toNat := hin
        omega
      · cases h
    · exact newline_mem_of_begin (by simpa using h)

theorem newline_mem_of_piecesFrom {s : Option Begun} (hs : ∀ begun ∈ s, begun.Long) {bs : Bytes}
    (h : Piece.char '\n' ∈ piecesFrom s bs) : 10 ∈ bs := by
  induction bs generalizing s with
  | nil =>
    rw [piecesFrom_nil] at h
    simp at h
  | cons b bs ih =>
    rw [piecesFrom_cons, List.mem_append] at h
    rcases h with hfirst | hrest
    · rw [newline_mem_of_step hs hfirst]
      exact List.mem_cons_self
    · exact List.mem_cons_of_mem b (ih (step_long hs b) hrest)

/-- **A newline is read only where there is one.** -/
theorem newline_notMem_decodeLossy {bs : Bytes} (h : 10 ∉ bs) : '\n' ∉ decodeLossy bs := by
  intro hmem
  obtain ⟨piece, hpiece, hshown⟩ := List.mem_map.mp hmem
  cases piece with
  | char c =>
    obtain rfl : c = '\n' := hshown
    exact h (newline_mem_of_piecesFrom (fun _ h => by cases h) hpiece)
  | broken bytes =>
    have hreplaced : replacement = '\n' := hshown
    exact absurd hreplaced (by decide)

/-- A byte is read as something, or it begins something. -/
theorem begin_progress (b : UInt8) : (begin b).1 ≠ [] ∨ (begin b).2 ≠ none := by
  unfold begin
  split
  · exact .inl (List.cons_ne_nil _ _)
  · split
    · exact .inr (Option.some_ne_none _)
    · exact .inl (List.cons_ne_nil _ _)

theorem step_progress (s : Option Begun) (b : UInt8) :
    (step s b).1 ≠ [] ∨ (step s b).2 ≠ none := by
  match s with
  | none | some ⟨taken, value, []⟩ => exact begin_progress b
  | some ⟨taken, value, (low, high) :: more⟩ =>
    simp only [step]
    split
    · split
      · exact .inl (List.cons_ne_nil _ _)
      · exact .inr (Option.some_ne_none _)
    · exact .inl (List.cons_ne_nil _ _)

theorem piecesFrom_ne_nil {s : Option Begun} {bs : Bytes} (h : s ≠ none ∨ bs ≠ []) :
    piecesFrom s bs ≠ [] := by
  induction bs generalizing s with
  | nil =>
    rw [piecesFrom_nil]
    cases s with
    | none => simp at h
    | some begun => exact List.cons_ne_nil _ _
  | cons b bs ih =>
    rw [piecesFrom_cons]
    rcases step_progress s b with hread | hbegun
    · exact List.append_ne_nil_of_left_ne_nil hread _
    · exact List.append_ne_nil_of_right_ne_nil _ (ih (.inl hbegun))

/-- Bytes are never read as nothing. -/
theorem decodeLossy_eq_nil_iff {bs : Bytes} : decodeLossy bs = [] ↔ bs = [] := by
  constructor
  · intro h
    by_contra hne
    exact piecesFrom_ne_nil (.inr hne) (List.map_eq_nil_iff.mp h)
  · rintro rfl
    rfl

end LineShell.Text
