import LineShell.Text.Utf8

/-! # Octets

Scripts, and the values that they compute, are sequences of bytes that need not be
well-formed text.  They are written here as lists of the characters with the same codes,
so that a script can be read by patterns on characters.
-/
namespace LineShell

/-- A byte sequence, each byte written as the character with its code. -/
abbrev Octets := List Char

namespace Octets

/-- The octets of a byte sequence. -/
def ofBytes (bs : Bytes) : Octets := bs.map fun b => Char.ofNat b.toNat

/-- The bytes that octets stand for. -/
def bytes (cs : Octets) : Bytes := cs.map fun c => UInt8.ofNat c.toNat

/-- The octets of the UTF-8 form of a string. -/
def ofString (s : String) : Octets := ofBytes (Text.utf8 s)

/-- A number in decimal. -/
def ofNat (n : Nat) : Octets := Nat.toDigits 10 n

def ofInt (n : Int) : Octets := if n < 0 then '-' :: ofNat n.natAbs else ofNat n.natAbs

/-- The value of a digit in some base. -/
def digitValue (c : Char) : Nat :=
  if c.isDigit then c.toNat - '0'.toNat else c.toLower.toNat - 'a'.toNat + 10

/-- The number that decimal digits spell. -/
def readNat (cs : Octets) : Nat := cs.foldl (fun n c => n * 10 + digitValue c) 0

/-- Cuts octets at every occurrence of a character; there is always a last part. -/
def splitAt (sep : Char) : Octets → List Octets
  | [] => [[]]
  | c :: cs =>
    if c = sep then [] :: splitAt sep cs
    else match splitAt sep cs with
      | part :: parts => (c :: part) :: parts
      | [] => [[c]]

/-- Octets up to the first occurrence of a character, and what follows it if it occurs. -/
def cutAt (sep : Char) : Octets → Octets × Option Octets
  | [] => ([], none)
  | c :: cs =>
    if c = sep then ([], some cs)
    else
      let (before, after) := cutAt sep cs
      (c :: before, after)

end Octets
end LineShell
