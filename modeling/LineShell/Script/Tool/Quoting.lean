import LineShell.Script.Octets

/-! # Words in messages

A message shows a word between quotes, so that it can be told from the text around it.
The name of a file is shown such that it could be put into a script as it is; any other
word is shown with backslashes.  Only printable characters are written either way.
-/
namespace LineShell.Script
namespace Tool

/-- A character that is written as it is. -/
def isPrintable (c : Char) : Bool := ' ' ≤ c && c ≤ '~'

/-- What stands behind the backslash for a character that cannot be printed: a letter, or three
octal digits. -/
def escapeOf (c : Char) : Octets :=
  let letters : List (Nat × Char) :=
    [(7, 'a'), (8, 'b'), (9, 't'), (10, 'n'), (11, 'v'), (12, 'f'), (13, 'r')]
  match letters.lookup c.toNat with
  | some letter => [letter]
  | none =>
    let n := c.toNat
    [n / 64, n / 8 % 8, n % 8].map Nat.digitChar

/-- A word with backslashes before quotes and in the place of what cannot be printed. -/
def cited (w : Octets) : Octets :=
  let body := w.flatMap fun c =>
    if c = '\'' || c = '\\' then ['\\', c]
    else if isPrintable c then [c]
    else '\\' :: escapeOf c
  ['\''] ++ body ++ ['\'']

/-- A character that means the same in both kinds of quotes. -/
def isNeutral (c : Char) : Bool := c.isAlphanum || " %+,-./:@]_'".toList.contains c

/-- A character that means something of its own in a script, or that ends a name in a message. -/
def isActive (c : Char) : Bool := !isPrintable c || " !\"$&()*:;<=>[^\x60|'?\\".toList.contains c

/-- The part of a name behind its opening quote.  What cannot be printed has quotes of its own,
which are open if `escaping`. -/
def quotedRest (escaping : Bool) : Octets → Octets
  | [] => ['\'']
  | c :: cs =>
    if isPrintable c then
      (if escaping && c ≠ '\'' then ['\'', '\''] else []) ++
        (if c = '\'' then "'\\''".toList else [c]) ++ quotedRest false cs
    else (if escaping then [] else "'$'".toList) ++ '\\' :: escapeOf c ++ quotedRest true cs

/-- The name of a file in quotes. -/
def quoted (name : Octets) : Octets :=
  if name.contains '\'' && name.all isNeutral then ['"'] ++ name ++ ['"']
  else '\'' :: quotedRest false name

/-- The name of a file, in quotes if it needs them. -/
def shown (name : Octets) : Octets :=
  match name with
  | [] => quoted name
  | c :: cs =>
    if c = '#' || c = '~' || (cs.isEmpty && (c = '\x7b' || c = '\x7d')) || name.any isActive then
      quoted name
    else name

end Tool
end LineShell.Script
