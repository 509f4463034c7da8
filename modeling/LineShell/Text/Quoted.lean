import LineShell.Text.Unshown
import LineShell.Text.Utf8
import LineShell.Path

/-! # Quoted texts

Log records show words and paths between double quotes.  A backslash spells the quote,
itself and the common controls; every other character without a shape of its own is
spelled by its number in hexadecimal.  In a path the single quote is spelled with a
backslash as well, and a byte that belongs to no character by its two digits.
-/
namespace LineShell.Text

/-- The lower-case hexadecimal form of a number, without leading zeros. -/
def hexLower (n : Nat) : String := String.ofList (Nat.toDigits 16 n)

/-- How a character is spelled inside quotes. -/
def escaped (c : Char) : String :=
  if c = '\x00' then "\\0"
  else if c = '\t' then "\\t"
  else if c = '\n' then "\\n"
  else if c = '\r' then "\\r"
  else if c = '"' then "\\\""
  else if c = '\\' then "\\\\"
  else if isUnshown c then "\\u\x7b" ++ hexLower c.toNat ++ "\x7d"
  else String.singleton c

/-- A text between double quotes. -/
def quoted (s : String) : String :=
  "\"" ++ String.join (s.toList.map escaped) ++ "\""

/-- A byte by its two upper-case digits. -/
def escapedByte (b : UInt8) : String :=
  let digits := (hexLower b.toNat).toUpper
  "\\x" ++ (if b < 16 then "0" ++ digits else digits)

/-- How a piece of a path is spelled inside quotes. -/
def Piece.escaped : Piece → String
  | .char c => if c = '\'' then "\\'" else Text.escaped c
  | .broken bytes => String.join (bytes.map escapedByte)

/-- A list of quoted things between brackets. -/
def quotedList (items : List String) : String := "[" ++ ", ".intercalate items ++ "]"

end LineShell.Text

/-- A path between double quotes. -/
def LineShell.Path.quoted (p : LineShell.Path) : String :=
  "\"" ++ String.join ((LineShell.Text.pieces p.bytes).map LineShell.Text.Piece.escaped) ++ "\""
