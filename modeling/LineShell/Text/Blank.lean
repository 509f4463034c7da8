/-! # Blank characters

A command line is cut into words at blank characters and trimmed of them at both
ends.  Blank means the Unicode property White_Space: the five ASCII controls from
tab to carriage return, the space, and nineteen characters outside ASCII.  The
zero-width space U+200B and the byte-order mark U+FEFF do not have the property.
-/
namespace LineShell.Text

/-- The ranges of code points with the property White_Space, both ends included. -/
def blankRanges : List (Nat × Nat) :=
  [(0x9, 0xD), (0x20, 0x20), (0x85, 0x85), (0xA0, 0xA0), (0x1680, 0x1680), (0x2000, 0x200A),
   (0x2028, 0x2029), (0x202F, 0x202F), (0x205F, 0x205F), (0x3000, 0x3000)]

/-- Blank characters separate words. -/
def isBlank (c : Char) : Bool :=
  blankRanges.any fun (low, high) => low ≤ c.toNat && c.toNat ≤ high

/-- A text without the blanks at its two ends. -/
def trim (cs : List Char) : List Char :=
  ((cs.dropWhile isBlank).reverse.dropWhile isBlank).reverse

end LineShell.Text
