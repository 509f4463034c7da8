import LineShell.Script.Octets

/-! # Binary numbers with a fraction

A number of a binary format is a significand of so many bits times a power of two.  It is
read from decimal text as the nearest such number, a tie going to the even significand,
and written with as many decimal digits as are asked for, rounded in the same way.  All
computing is done with whole numbers.
-/
namespace LineShell.Script

/-- A binary format: the bits of a significand, and the least and the greatest power of two
that a unit of it may stand for. -/
structure BinaryFormat where
  bits : Nat
  least : Int
  greatest : Int
  deriving DecidableEq, Repr

namespace BinaryFormat

/-- The format of 64 bits. -/
def double : BinaryFormat := ⟨53, -1074, 971⟩

/-- The format of 80 bits. -/
def extended : BinaryFormat := ⟨64, -16445, 16320⟩

end BinaryFormat

/-- A number of some binary format, or what stands for none. -/
inductive BinaryReal where
  /-- `significand` times two to the power `exponent`. -/
  | finite (negative : Bool) (significand : Nat) (exponent : Int)
  | infinite (negative : Bool)
  | nan (negative : Bool)
  deriving DecidableEq, Repr

namespace BinaryReal

/-- The whole number nearest to a quotient; a tie goes to the even one. -/
def roundedDiv (n d : Nat) : Nat :=
  let q := n / d
  let twice := 2 * (n % d)
  if twice < d then q else if d < twice then q + 1 else q + q % 2

/-- The quotient of `n * b ^ e` and `d`, rounded. -/
def scaledDiv (b : Nat) (n d : Nat) (e : Int) : Nat :=
  if 0 ≤ e then roundedDiv (n * Nat.pow b e.toNat) d
  else roundedDiv n (d * Nat.pow b (-e).toNat)

/-- The number nearest to `n / d`, and whether it is outside the range of the format. -/
def nearest (f : BinaryFormat) (negative : Bool) (n d : Nat) : BinaryReal × Bool :=
  if n = 0 then (.finite negative 0 0, false)
  else
    let limit := Nat.pow 2 f.bits
    -- at this exponent the quotient has as many bits as the format, or one more or less
    let guess : Int := max f.least ((n.log2 : Int) - d.log2 - f.bits)
    let at' (e : Int) : Nat := scaledDiv 2 n d (-e)
    let e := if at' guess < limit then guess else guess + 1
    let e := if at' e < limit then e else e + 1
    let m := at' e
    if f.greatest < e then (.infinite negative, true)
    else
      let exact : Bool :=
        if 0 ≤ e then n == m * Nat.pow 2 e.toNat * d else n * Nat.pow 2 (-e).toNat == m * d
      (.finite negative m e, e == f.least && m < limit / 2 && !exact)

/-! ## Reading -/

def isBlank (c : Char) : Bool := c = ' ' || ('\t' ≤ c && c ≤ '\r')

/-- Whether a text begins with a word in either case. -/
def beginsWith (word : String) (cs : Octets) : Bool :=
  (cs.take word.length).map Char.toLower == word.toList

/-- An exponent behind its letter: its value and how many characters it takes. -/
def exponent (letter : Char) (cs : Octets) : Int × Nat :=
  let value (digits : Octets) : Int := (Octets.readNat digits : Nat)
  match cs with
  | c :: rest =>
    if c.toLower = letter then
      let (sign, digits) : Octets × Octets :=
        match rest with
        | '-' :: ds => (['-'], ds.takeWhile Char.isDigit)
        | '+' :: ds => (['+'], ds.takeWhile Char.isDigit)
        | ds => ([], ds.takeWhile Char.isDigit)
      if digits.isEmpty then (0, 0)
      else
        -- no format reaches farther
        let n := min (value digits) 100000
        (if sign = ['-'] then -n else n, 1 + sign.length + digits.length)
    else (0, 0)
  | [] => (0, 0)

/-- Digits with a point in some base: their value as a whole number, how many stand behind
the point, and how many characters there are. -/
def digits (base : Nat) (isDigit : Char → Bool) (value : Char → Nat) (cs : Octets) :
    Option (Nat × Nat × Nat) :=
  let whole := cs.takeWhile isDigit
  let (part, point) : Octets × Nat :=
    match cs.drop whole.length with
    | '.' :: rest => (rest.takeWhile isDigit, 1)
    | _ => ([], 0)
  if whole.isEmpty && part.isEmpty then none
  else
    let n := (whole ++ part).foldl (fun n c => n * base + value c) 0
    some (n, part.length, whole.length + point + part.length)

/-- A reading: the number, what follows it, and whether it was outside the range. -/
structure Reading where
  number : BinaryReal
  rest : Octets
  outOfRange : Bool := false

/-- Reads the number at the beginning of a text; there need not be one. -/
def read? (f : BinaryFormat) (cs : Octets) : Option Reading :=
  let body := cs.dropWhile isBlank
  let (negative, body) : Bool × Octets :=
    match body with
    | '-' :: rest => (true, rest)
    | '+' :: rest => (false, rest)
    | rest => (false, rest)
  let hex (c : Char) : Bool := c.isDigit || ('a' ≤ c.toLower && c.toLower ≤ 'f')
  if beginsWith "infinity" body then some { number := .infinite negative, rest := body.drop 8 }
  else if beginsWith "inf" body then some { number := .infinite negative, rest := body.drop 3 }
  else if beginsWith "nan" body then some { number := .nan negative, rest := body.drop 3 }
  else
    match if beginsWith "0x" body then digits 16 hex Octets.digitValue (body.drop 2) else none with
    | some (n, fraction, length) =>
      let (e, taken) := exponent 'p' (body.drop (2 + length))
      let e := e - 4 * (fraction : Int)
      let (number, outOfRange) :=
        if 0 ≤ e then nearest f negative (n * Nat.pow 2 e.toNat) 1
        else nearest f negative n (Nat.pow 2 (-e).toNat)
      some { number, rest := body.drop (2 + length + taken), outOfRange }
    | none =>
      match digits 10 Char.isDigit Octets.digitValue body with
      | none => none
      | some (n, fraction, length) =>
        let (e, taken) := exponent 'e' (body.drop length)
        let e := e - (fraction : Int)
        let (number, outOfRange) :=
          if 0 ≤ e then nearest f negative (n * Nat.pow 10 e.toNat) 1
          else nearest f negative n (Nat.pow 10 (-e).toNat)
        some { number, rest := body.drop (length + taken), outOfRange }

/-! ## Writing -/

/-- `significand * 2 ^ e * 10 ^ places`, rounded. -/
def decimal (significand : Nat) (e places : Int) : Nat :=
  let n := if 0 ≤ places then significand * Nat.pow 10 places.toNat else significand
  let d := if 0 ≤ places then 1 else Nat.pow 10 (-places).toNat
  scaledDiv 2 n d e

/-- Puts a point before the last digits; with `keepsPoint`, also if there are none. -/
def pointed (keepsPoint : Bool) (places n : Nat) : Octets :=
  let ds := Octets.ofNat n
  let ds := List.replicate (places + 1 - ds.length) '0' ++ ds
  let whole := ds.take (ds.length - places)
  whole ++ (if places = 0 && !keepsPoint then [] else ['.']) ++ ds.drop whole.length

/-- Positional notation with so many digits behind the point. -/
def fixed (keepsPoint : Bool) (places significand : Nat) (e : Int) : Octets :=
  pointed keepsPoint places (decimal significand e places)

/-- The digits of a number, `places` and one more, and the power of ten of the first. -/
def scientificDigits (places significand : Nat) (e : Int) : Nat × Int :=
  if significand = 0 then (0, 0)
  else
    let limit := Nat.pow 10 (places + 1)
    -- the power of ten is at this point, or up to two below it
    let above : Int := ((significand.log2 : Int) + e + 1) * 30103 / 100000 + 1
    let at' (x : Int) : Nat := decimal significand e (places - x)
    let settle (x : Int) : Int := if limit / 10 ≤ at' x then x else x - 1
    let x := settle (settle (settle above))
    if limit ≤ at' x then (at' (x + 1), x + 1) else (at' x, x)

/-- The power of ten behind its letter, with two digits at least. -/
def powerText (letter : Char) (x : Int) : Octets :=
  let ds := Octets.ofNat x.natAbs
  letter :: (if x < 0 then '-' else '+') :: (List.replicate (2 - ds.length) '0' ++ ds)

/-- Scientific notation with so many digits behind the point. -/
def scientific (keepsPoint : Bool) (letter : Char) (places significand : Nat) (e : Int) : Octets :=
  let (n, x) := scientificDigits places significand e
  pointed keepsPoint places n ++ powerText letter x

/-- Takes zeros off the end of the digits behind a point, and a point at the end. -/
def withoutZeros (cs : Octets) : Octets :=
  if cs.contains '.' then
    match cs.reverse.dropWhile (· = '0') with
    | '.' :: rest => rest.reverse
    | rest => rest.reverse
  else cs

/-- The shorter of the two notations, with so many digits in all. -/
def general (keepsZeros : Bool) (letter : Char) (precision significand : Nat) (e : Int) : Octets :=
  let precision := max precision 1
  let trimmed (cs : Octets) : Octets := if keepsZeros then cs else withoutZeros cs
  let (n, x) := scientificDigits (precision - 1) significand e
  if -4 ≤ x ∧ x < precision then
    trimmed (fixed keepsZeros ((precision : Int) - 1 - x).toNat significand e)
  else trimmed (pointed keepsZeros (precision - 1) n) ++ powerText letter x

/-- Hexadecimal notation: the first digit takes the bits that are over. -/
def hexadecimal (f : BinaryFormat) (keepsPoint : Bool) (precision : Option Nat)
    (significand : Nat) (e : Int) : Octets :=
  let lead := (f.bits - 1) % 4 + 1
  let places := (f.bits - lead) / 4
  let shift := f.bits - 1 - significand.log2
  let m := if significand = 0 then 0 else significand * Nat.pow 2 shift
  let e := if significand = 0 then 0 else e - shift + 4 * places
  let (m, places) : Nat × Nat :=
    match precision with
    | some p =>
      if p < places then (roundedDiv m (Nat.pow 16 (places - p)), p)
      else (m * Nat.pow 16 (p - places), p)
    | none => (m, places)
  let ds := Nat.toDigits 16 m
  let ds := List.replicate (places + 1 - ds.length) '0' ++ ds
  let part := ds.drop (ds.length - places)
  let part := if precision.isSome then part else (part.reverse.dropWhile (· = '0')).reverse
  ['0', 'x'] ++ ds.take (ds.length - places) ++
    (if part.isEmpty && !keepsPoint then [] else ['.']) ++ part ++
    'p' :: (if e < 0 then '-' else '+') :: Octets.ofNat e.natAbs

end BinaryReal
end LineShell.Script
