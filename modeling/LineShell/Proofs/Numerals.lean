import LineShell.Builtin

/-! # Numbers that are typed

A number is typed as ASCII digits, at least one, behind a sign or without one; zeros before the
other digits do not matter, however many there are.  Such a text is read as its value if that is a
number of 32 bits, the least and the greatest included, and nothing else is read as a number.

The digits are read from the left, and reading ends as soon as the value so far is out of range.  No
number is lost by that: each digit leads away from zero, so what has left the range does not come
back (`Sign.isInt32_of_le`).
-/
namespace LineShell
namespace Text

/-! ## How a number is typed -/

/-- What stands before the digits of a number. -/
inductive Sign where
  | absent
  | plus
  | minus
  deriving DecidableEq, Repr

namespace Sign

/-- The sign as it is typed. -/
def typed : Sign → List Char
  | absent => []
  | plus => ['+']
  | minus => ['-']

/-- The direction in which the digits count. -/
def factor : Sign → Int
  | absent => 1
  | plus => 1
  | minus => -1

/-- What is said of digits that lead too far in this direction. -/
def overflow : Sign → NumberFault
  | absent => .tooLarge
  | plus => .tooLarge
  | minus => .tooSmall

end Sign

/-- The text is a sign or none and, behind it, ASCII digits, at least one; `n` is their value. -/
def Spells (text : List Char) (n : Int) : Prop :=
  ∃ (sign : Sign) (digits : List Char), digits ≠ [] ∧ (∀ c ∈ digits, c.isDigit = true) ∧
    text = sign.typed ++ digits ∧ n = sign.factor * Nat.ofDigitChars 10 digits 0

/-- The numbers of 32 bits. -/
def IsInt32 (n : Int) : Prop := -(Nat.pow 2 31 : Int) ≤ n ∧ n ≤ (Nat.pow 2 31 : Int) - 1

/-- Their bounds are those that the value is held against while it is read. -/
theorem isInt32_iff {n : Int} : IsInt32 n ↔ int32Min ≤ n ∧ n ≤ int32Max := Iff.rfl

/-- The text that the standard library writes for a number spells it. -/
theorem spells_toString (n : Int) : Spells (toString n).toList n := by
  have hdigits : ∀ m : Nat, m.repr.toList ≠ [] ∧ (∀ c ∈ m.repr.toList, c.isDigit = true) ∧
      Nat.ofDigitChars 10 m.repr.toList 0 = m := by
    intro m
    rw [Nat.toList_repr]
    refine ⟨Nat.toDigits_ne_nil, fun c hc => ?_, Nat.ofDigitChars_toDigits (by omega) (by omega)⟩
    exact Nat.isDigit_of_mem_toDigits (by omega) (by omega) hc
  rw [Int.toString_eq_repr, Int.repr_eq_if]
  split
  · next hn =>
    obtain ⟨hne, hall, hvalue⟩ := hdigits n.toNat
    refine ⟨.absent, n.toNat.repr.toList, hne, hall, rfl, ?_⟩
    rw [hvalue, Sign.factor]
    omega
  · next hn =>
    obtain ⟨hne, hall, hvalue⟩ := hdigits (-n).toNat
    refine ⟨.minus, (-n).toNat.repr.toList, hne, hall, String.toList_append, ?_⟩
    rw [hvalue, Sign.factor]
    omega

/-! ## Digits that are read onto a value -/

/-- Nearer to zero than a number of 32 bits are only such numbers. -/
theorem Sign.isInt32_of_le {sign : Sign} {a b : Nat} (hle : a ≤ b)
    (h : IsInt32 (sign.factor * b)) : IsInt32 (sign.factor * a) := by
  rw [isInt32_iff, int32Min, int32Max] at h ⊢
  cases sign <;> simp only [Sign.factor] at h ⊢ <;> omega

/-- The value only grows with more digits. -/
theorem le_ofDigitChars (m : Nat) (digits : List Char) : m ≤ Nat.ofDigitChars 10 digits m := by
  induction digits generalizing m with
  | nil => exact Nat.le_refl m
  | cons c digits ih =>
    rw [Nat.ofDigitChars_cons]
    exact Nat.le_trans (by omega) (ih _)

section
variable {sign : Sign} {overflow : NumberFault} {m : Nat} {c : Char} {cs : List Char}

/-- A digit is read if the value with it is a number of 32 bits. -/
theorem readDigits_cons_of_isDigit (hc : c.isDigit = true) {next : Nat}
    (hnext : 10 * m + (c.toNat - '0'.toNat) = next) :
    (IsInt32 (sign.factor * next) →
      readDigits sign.factor overflow (sign.factor * m) (c :: cs) =
        readDigits sign.factor overflow (sign.factor * next) cs) ∧
    (¬IsInt32 (sign.factor * next) →
      readDigits sign.factor overflow (sign.factor * m) (c :: cs) = .error overflow) := by
  have hvalue : sign.factor * m * 10 + sign.factor * ((c.toNat - '0'.toNat : Nat) : Int) =
      sign.factor * next := by
    rw [← hnext]
    cases sign <;> simp only [Sign.factor] <;> omega
  simp only [readDigits, digit?, hc, if_true, hvalue, isInt32_iff]
  exact ⟨fun h => if_pos h, fun h => if_neg h⟩

/-- **Digits are read as their value**, if it is a number of 32 bits. -/
theorem readDigits_of_isInt32 (hdigits : ∀ c ∈ cs, c.isDigit = true)
    (h : IsInt32 (sign.factor * Nat.ofDigitChars 10 cs m)) :
    readDigits sign.factor overflow (sign.factor * m) cs =
      .ok (sign.factor * Nat.ofDigitChars 10 cs m) := by
  induction cs generalizing m with
  | nil => rfl
  | cons c cs ih =>
    obtain ⟨hc, hcs⟩ := List.forall_mem_cons.mp hdigits
    obtain ⟨hread, -⟩ := readDigits_cons_of_isDigit hc rfl
    rw [Nat.ofDigitChars_cons] at h ⊢
    -- with this digit alone the value is nearer to zero than with all of them
    rw [hread (Sign.isInt32_of_le (le_ofDigitChars _ cs) h)]
    exact ih hcs h

/-- They are refused if it is none, wherever the range is left. -/
theorem readDigits_of_not_isInt32 (hdigits : ∀ c ∈ cs, c.isDigit = true)
    (hm : IsInt32 (sign.factor * m)) (h : ¬IsInt32 (sign.factor * Nat.ofDigitChars 10 cs m)) :
    readDigits sign.factor overflow (sign.factor * m) cs = .error overflow := by
  induction cs generalizing m with
  | nil => exact absurd hm h
  | cons c cs ih =>
    obtain ⟨hc, hcs⟩ := List.forall_mem_cons.mp hdigits
    obtain ⟨hread, hrefused⟩ := readDigits_cons_of_isDigit hc rfl
    rw [Nat.ofDigitChars_cons] at h
    by_cases hnext : IsInt32 (sign.factor * (10 * m + (c.toNat - '0'.toNat) : Nat))
    · rw [hread hnext]
      exact ih hcs hnext h
    · exact hrefused hnext

end

/-- Nothing but digits is read onto a value. -/
theorem isDigit_of_readDigits {sign value n : Int} {overflow : NumberFault} {cs : List Char}
    (h : readDigits sign overflow value cs = .ok n) : ∀ c ∈ cs, c.isDigit = true := by
  induction cs generalizing value with
  | nil => exact fun c hc => absurd hc List.not_mem_nil
  | cons c cs ih =>
    simp only [readDigits, digit?] at h
    by_cases hc : c.isDigit = true
    · simp only [hc, if_true] at h
      split at h
      · exact List.forall_mem_cons.mpr ⟨hc, ih h⟩
      · cases h
    · simp [hc] at h

/-! ## Texts that are read as a number -/

/-- Behind the sign the digits are read, in its direction. -/
theorem readInt32_typed {sign : Sign} {digits : List Char} (hne : digits ≠ [])
    (hdigits : ∀ c ∈ digits, c.isDigit = true) :
    readInt32 (sign.typed ++ digits) =
      readDigits sign.factor sign.overflow (sign.factor * (0 : Nat)) digits := by
  obtain ⟨c, rest, rfl⟩ := List.exists_cons_of_ne_nil hne
  cases sign with
  | plus => rfl
  | minus => rfl
  | absent =>
    -- the first digit is no sign
    have hc : c.isDigit = true := hdigits c List.mem_cons_self
    have hplus : c ≠ '+' := by
      rintro rfl
      cases hc
    have hminus : c ≠ '-' := by
      rintro rfl
      cases hc
    rw [Sign.typed, List.nil_append]
    unfold readInt32
    split
    · next heq => cases heq
    · next heq => exact absurd (List.cons.inj heq).1 hplus
    · next heq => exact absurd (List.cons.inj heq).1 hminus
    · next heq => exact absurd (List.cons.inj heq).1 hplus
    · next heq => exact absurd (List.cons.inj heq).1 hminus
    · rfl

/-- **What becomes of a text that spells a number.**  If the number is not one of 32 bits, what is
reported says at which end it lies outside. -/
theorem readInt32_of_spells {text : List Char} {n : Int} (h : Spells text n) :
    (IsInt32 n → readInt32 text = .ok n) ∧
    (int32Max < n → readInt32 text = .error .tooLarge) ∧
    (n < int32Min → readInt32 text = .error .tooSmall) := by
  obtain ⟨sign, digits, hne, hdigits, rfl, rfl⟩ := h
  have hzero : IsInt32 (sign.factor * (0 : Nat)) := by
    rw [Int.natCast_zero, Int.mul_zero]
    exact ⟨by decide, by decide⟩
  rw [readInt32_typed hne hdigits]
  refine ⟨readDigits_of_isInt32 hdigits, fun hlarge => ?_, fun hsmall => ?_⟩
  · rw [readDigits_of_not_isInt32 hdigits hzero fun hn => Int.not_le.mpr hlarge hn.2]
    cases sign with
    | absent | plus => rfl
    | minus =>
      simp only [Sign.factor, int32Max] at hlarge
      omega
  · rw [readDigits_of_not_isInt32 hdigits hzero fun hn => Int.not_le.mpr hsmall hn.1]
    cases sign with
    | minus => rfl
    | absent | plus =>
      simp only [Sign.factor, int32Min] at hsmall
      omega

/-- Nothing but such a text is read as a number. -/
theorem spells_of_readInt32 {text : List Char} {n : Int} (h : readInt32 text = .ok n) :
    ∃ value, Spells text value := by
  unfold readInt32 at h
  split at h
  · cases h
  · cases h
  · cases h
  · next digits hne => exact ⟨_, .plus, digits, hne, isDigit_of_readDigits h, rfl, rfl⟩
  · next digits hne => exact ⟨_, .minus, digits, hne, isDigit_of_readDigits h, rfl, rfl⟩
  · next hne _ _ _ _ => exact ⟨_, .absent, text, hne, isDigit_of_readDigits h, rfl, rfl⟩

/-- **A number is read** from its spellings, and only if it is one of 32 bits. -/
theorem readInt32_eq_ok_iff {text : List Char} {n : Int} :
    readInt32 text = .ok n ↔ Spells text n ∧ IsInt32 n := by
  constructor
  · intro h
    obtain ⟨value, hspells⟩ := spells_of_readInt32 h
    obtain ⟨hread, hlarge, hsmall⟩ := readInt32_of_spells hspells
    have hvalue : IsInt32 value := by
      refine isInt32_iff.mpr ⟨Int.not_lt.mp fun hout => ?_, Int.not_lt.mp fun hout => ?_⟩
      · rw [hsmall hout] at h
        cases h
      · rw [hlarge hout] at h
        cases h
    obtain rfl : value = n := Except.ok.inj ((hread hvalue).symm.trans h)
    exact ⟨hspells, hvalue⟩
  · rintro ⟨hspells, hn⟩
    exact (readInt32_of_spells hspells).1 hn

-- digits of other scripts are no digits here
example : readInt32 ['٣'] = .error .invalidDigit := rfl

end Text

/-! ## The argument of `exit` -/

namespace Builtin

/-- The answer to an argument of `exit`, by what the argument is read as. -/
def exitAnswer (argument : String) : Except Text.NumberFault Int → Except Diagnostic Reply
  | .ok n => .ok (.exit n)
  | .error fault => .error (.invalidExitCode argument fault)

section
variable {argument : String} {read : Except Text.NumberFault Int}

theorem exitAnswer_eq_ok_iff {n : Int} :
    exitAnswer argument read = .ok (.exit n) ↔ read = .ok n := by
  cases read <;> simp [exitAnswer]

theorem exitAnswer_eq_error_iff {fault : Text.NumberFault} :
    exitAnswer argument read = .error (.invalidExitCode argument fault) ↔ read = .error fault := by
  cases read <;> simp [exitAnswer]

end

section
variable {δ : Type} (write : δ → Bytes → Option Fault × δ) (argument : String) (ctx : Context)
  (fs : FileSystem) (diag : δ)

/-- An `exit` with one argument does nothing but answer. -/
theorem run_exit_eq :
    exit.run write [argument] ctx fs diag =
      ({ answer := exitAnswer argument (Text.readInt32 argument.toList), context := ctx },
        diag) := by
  simp only [run]
  cases Text.readInt32 argument.toList <;> rfl

/-- **What an `exit` with one argument answers.**  The interpreter is to end with a number exactly if
the argument spells it and it is one of 32 bits; so whatever number of 32 bits is written out, the
interpreter ends with that and with no other.  Every other argument is reported, and the interpreter
is to end with 1; of a number that is too large or too small it is said which.  Nothing else
happens. -/
theorem run_exit :
    let (result, after) := exit.run write [argument] ctx fs diag
    (∀ n, result.answer = .ok (.exit n) ↔ Text.Spells argument.toList n ∧ Text.IsInt32 n) ∧
    ((¬∃ n, Text.Spells argument.toList n ∧ Text.IsInt32 n) ↔
      ∃ fault, result.answer = .error (.invalidExitCode argument fault) ∧
        (Diagnostic.invalidExitCode argument fault).exitStatus? = some 1) ∧
    (∀ n, Text.Spells argument.toList n →
      ((Nat.pow 2 31 : Int) ≤ n →
        result.answer = .error (.invalidExitCode argument .tooLarge)) ∧
      (n < -(Nat.pow 2 31 : Int) →
        result.answer = .error (.invalidExitCode argument .tooSmall))) ∧
    (∀ n : Int, (exit.run write [toString n] ctx fs diag).1.answer = .ok (.exit n) ↔
      Text.IsInt32 n) ∧
    result.context = ctx ∧ result.events = [] ∧ after = diag := by
  rw [run_exit_eq]
  refine ⟨fun n => ?_, ?_, fun n hn => ?_, fun n => ?_, rfl, rfl, rfl⟩
  · rw [exitAnswer_eq_ok_iff, Text.readInt32_eq_ok_iff]
  · simp only [exitAnswer_eq_error_iff, ← Text.readInt32_eq_ok_iff]
    cases Text.readInt32 argument.toList <;> simp [Diagnostic.exitStatus?]
  · obtain ⟨-, hlarge, hsmall⟩ := Text.readInt32_of_spells hn
    exact ⟨fun h => exitAnswer_eq_error_iff.mpr (hlarge h),
      fun h => exitAnswer_eq_error_iff.mpr (hsmall h)⟩
  · rw [run_exit_eq, exitAnswer_eq_ok_iff, Text.readInt32_eq_ok_iff,
      and_iff_right (Text.spells_toString n)]

end

/-- The least number of 32 bits may be typed with zeros before its other digits; the first one that
is too large is refused. -/
theorem run_exit_extremes :
    let write : Bytes → Bytes → Option Fault × Bytes :=
      fun gathered bytes => (none, gathered ++ bytes)
    let ctx : Context := ⟨Path.ofString "/", none, []⟩
    let answer := fun argument => (exit.run write [argument] ctx FileSystem.empty []).1.answer
    Text.Spells "-0002147483648".toList (-2147483648) ∧ Text.IsInt32 (-2147483648) ∧
      answer "-0002147483648" = .ok (.exit (-2147483648)) ∧
      Text.Spells "+2147483648".toList 2147483648 ∧
      answer "+2147483648" = .error (.invalidExitCode "+2147483648" .tooLarge) := by
  intro write ctx answer
  have hleast : Text.Spells "-0002147483648".toList (-2147483648) := by
    refine ⟨.minus, "0002147483648".toList, by decide +kernel, ?_, by decide +kernel,
      by decide +kernel⟩
    exact List.all_eq_true.mp (by decide +kernel)
  have hlarge : Text.Spells "+2147483648".toList 2147483648 := by
    refine ⟨.plus, "2147483648".toList, by decide +kernel, ?_, by decide +kernel,
      by decide +kernel⟩
    exact List.all_eq_true.mp (by decide +kernel)
  have hin : Text.IsInt32 (-2147483648) := ⟨by decide, by decide⟩
  obtain ⟨hnumber, -⟩ := run_exit write "-0002147483648" ctx FileSystem.empty []
  obtain ⟨-, -, houtside, -⟩ := run_exit write "+2147483648" ctx FileSystem.empty []
  exact ⟨hleast, hin, (hnumber _).mpr ⟨hleast, hin⟩, hlarge,
    (houtside _ hlarge).1 (by decide)⟩

end Builtin
end LineShell
