import LineShell.Text.Utf8

/-! # Paths

A path is a byte sequence that names a file: names separated by slashes, from the root
if it begins with one.  Paths are kept as they were given: joining two does not remove
`.`, `..` or repeated slashes, since what these mean depends on the files.
-/
namespace LineShell

/-- A path, absolute or relative. -/
structure Path where
  bytes : Bytes
  deriving DecidableEq, Repr, Inhabited

namespace Path
open Text

/-- The byte that separates names. -/
def slash : UInt8 := 47

/-- The path that a text spells. -/
def ofString (s : String) : Path := ⟨utf8 s⟩

/-- The text shown for a path. -/
def display (p : Path) : String := lossyString p.bytes

/-- An absolute path begins at the root. -/
def isAbsolute (p : Path) : Bool := p.bytes.head? == some slash

/-- A path that contains a zero byte names nothing. -/
def hasZeroByte (p : Path) : Bool := p.bytes.contains 0

/-- `p` seen from the directory `base`: an absolute path stands for itself, any other
is put after `base` with one slash between, unless `base` is empty or ends in one. -/
def join (base p : Path) : Path :=
  if p.isAbsolute then p
  else if base.bytes.isEmpty || base.bytes.getLast? == some slash then ⟨base.bytes ++ p.bytes⟩
  else ⟨base.bytes ++ slash :: p.bytes⟩

/-- Cuts a byte sequence at every occurrence of `sep`; there is always a last part. -/
def splitAt (sep : UInt8) : Bytes → List Bytes
  | [] => [[]]
  | b :: bs =>
    if b = sep then [] :: splitAt sep bs
    else match splitAt sep bs with
      | part :: parts => (b :: part) :: parts
      | [] => [[b]]

/-- The parts between the slashes, empty ones included. -/
def names (p : Path) : List Bytes := splitAt slash p.bytes

theorem splitAt_ne_nil (sep : UInt8) (bs : Bytes) : splitAt sep bs ≠ [] := by
  induction bs with
  | nil => simp [splitAt]
  | cons b bs ih =>
    simp only [splitAt]
    split
    · simp
    · cases h : splitAt sep bs with
      | nil => exact absurd h ih
      | cons _ _ => simp

@[simp] theorem join_of_isAbsolute {base p : Path} (h : p.isAbsolute = true) :
    base.join p = p := by
  simp [join, h]

@[simp] theorem isAbsolute_join {base p : Path} :
    (base.join p).isAbsolute = (p.isAbsolute || base.isAbsolute) := by
  obtain ⟨b⟩ := base
  obtain ⟨q⟩ := p
  cases b <;> cases q <;> simp [join, isAbsolute] <;> grind

end Path
end LineShell
