import LineShell.Script.Tool.Words

/-! # Arithmetic sequences

`seq` writes numbers at equal distances.  They are decimals and are counted exactly, in
units of the smallest decimal place.
-/
namespace LineShell.Script
namespace Tool
open LineShell.Script.Action

/-- A decimal as it is written: its digits as a whole number, how many of them are decimals,
and the width of the text. -/
structure Numeral where
  digits : Int
  places : Nat
  width : Nat
  deriving DecidableEq, Repr

namespace Numeral

/-- The number behind the `e` of a decimal. -/
def exponent? : Octets → Option Int
  | [] => some 0
  | e :: rest =>
    let (negative, ds) :=
      match rest with
      | '-' :: ds => (true, ds)
      | '+' :: ds => (false, ds)
      | ds => (false, ds)
    if (e = 'e' || e = 'E') && !ds.isEmpty && ds.length < 4 && ds.all Char.isDigit then
      some (if negative then -(Octets.readNat ds : Int) else Octets.readNat ds)
    else none

/-- Reads a decimal. -/
def ofText? (text : Octets) : Option Numeral := do
  let cs := text.dropWhile Arithmetic.isBlank
  let cs := if cs.head? = some '+' then cs.tail else cs
  let (negative, size) := if cs.head? = some '-' then (true, cs.tail) else (false, cs)
  let whole := size.takeWhile Char.isDigit
  let rest := size.drop whole.length
  let point := rest.head? = some '.'
  let decimals := if point then rest.tail.takeWhile Char.isDigit else []
  let power := rest.drop (if point then decimals.length + 1 else 0)
  let exponent ← exponent? power
  if whole.isEmpty && decimals.isEmpty then none
  else
    let places := ((decimals.length : Int) - exponent).toNat
    let shift := ((places : Int) - decimals.length + exponent).toNat
    let n : Int := Octets.readNat (whole ++ decimals) * Nat.pow 10 shift
    -- a point without digits on one side is written with them, or not at all
    let plain := cs.length - power.length
    let width :=
      if point && decimals.isEmpty then plain - 1
      else if whole.isEmpty then plain + 1 else plain
    return ⟨if negative then -n else n, places, width + exponent.natAbs⟩

/-- A whole number. -/
def ofNat (n : Nat) : Numeral := ⟨n, 0, 1⟩

/-- The value in units of a decimal place. -/
def inUnits (places : Nat) (n : Numeral) : Int :=
  if n.places ≤ places then n.digits * (Nat.pow 10 (places - n.places) : Nat)
  else n.digits.fdiv (Nat.pow 10 (n.places - places) : Nat)

/-- The width with another number of decimals. -/
def widthWith (places : Nat) (n : Numeral) : Nat :=
  let point (k : Nat) : Nat := if k = 0 then 0 else k + 1
  n.width - point n.places + point places

end Numeral

/-- The text of a number of units of a decimal place, with zeros in front up to a width. -/
def unitsText (places width : Nat) (n : Int) : Octets :=
  let ds := Octets.ofNat n.natAbs
  let ds := List.replicate (places + 1 - ds.length) '0' ++ ds
  let whole := ds.take (ds.length - places)
  let body := if places = 0 then whole else whole ++ '.' :: ds.drop (ds.length - places)
  let sign : Octets := if n < 0 then ['-'] else []
  sign ++ List.replicate (width - sign.length - body.length) '0' ++ body

/-- How many numbers there are from the first to the last, at some distance.  A finer last
number must not be passed, so all count in the smallest units. -/
def sequenceLength (first step last : Numeral) : Nat :=
  let places := max (max first.places step.places) last.places
  let stride := step.inUnits places
  if stride = 0 then 0
  else ((last.inUnits places - first.inUnits places).fdiv stride + 1).toNat

/-- The texts of these numbers, padded to one width on demand. -/
def sequence (first step last : Numeral) (padded : Bool) : List Octets :=
  let places := max first.places step.places
  let width :=
    if padded then max (first.widthWith places) (last.widthWith places) else 0
  (List.range (sequenceLength first step last)).map fun (i : Nat) =>
    unitsText places width (first.inUnits places + step.inUnits places * i)

/-- Why a format is not one for a number. -/
def formatFault? (format : Octets) : Option Octets :=
  let rec directive : Octets → Option Octets
    | [] => none
    | ['%'] => some ['%']
    | '%' :: '%' :: rest => directive rest
    | '%' :: rest => some ('%' :: rest)
    | _ :: rest => directive rest
  match directive format with
  | none => some (Octets.ofString " has no % directive")
  | some cs =>
    let cs := cs.tail.dropWhile "-+#0 '".toList.contains
    let cs := cs.dropWhile Char.isDigit
    let cs := if cs.head? = some '.' then cs.tail.dropWhile Char.isDigit else cs
    let cs := if cs.head? = some 'L' then cs.tail else cs
    match cs with
    | [] => some (Octets.ofString " ends in %")
    | c :: rest =>
      if !"efgaEFGA".toList.contains c then
        some (Octets.ofString " has unknown %" ++ [c] ++ Octets.ofString " directive")
      else if (directive rest).isSome then some (Octets.ofString " has too many % directives")
      else none

/-- The options at the beginning of the words, which end at the first number, negative or not. -/
def sequenceOptions (words : List Octets) : List Octets × List Octets :=
  let rec go : Nat → List Octets → List Octets × List Octets
    | 0, ws => ([], ws)
    | _, [] => ([], [])
    | fuel + 1, w :: rest =>
      match w with
      | ['-', '-'] => ([], rest)
      | '-' :: c :: _ =>
        if c.isDigit || c = '.' then ([], w :: rest)
        else
          -- a value may stand in a word of its own
          let own := [['-', 's'], ['-', 'f'], "--separator".toList].contains w
          let (os, ws) := go fuel (if own then rest.drop 1 else rest)
          (w :: (if own then rest.take 1 else []) ++ os, ws)
      | _ => ([], w :: rest)
  go words.length words

def seq : Tool := fun words =>
  let (before, operands) := sequenceOptions words
  let accepted : Accepted :=
    { plain := "w", valued := "sf"
      long := [("separator", 's'), ("equal-width", 'w'), ("format", 'f')] }
  withOptions accepted 1 before fun os _ => do
    let read (w : Octets) : Except Octets Numeral :=
      match Numeral.ofText? w with
      | some n => .ok n
      | none => .error w
    let result : Except Octets (List Numeral) := operands.mapM read
    match operands.drop 3, result, (valueOf os 'f').bind formatFault? with
    | extra :: _, _, _ => misused 1 (Octets.ofString "extra operand " ++ cited extra)
    | [], .ok (_ :: _), some fault =>
      report (Octets.ofString "format " ++ cited ((valueOf os 'f').getD []) ++ fault)
      return 1
    | [], .ok (_ :: _), none =>
      if has os 'f' && has os 'w' then
        misused 1 (Octets.ofString
          "format string may not be specified when printing equal width strings")
      else go os operands (result.toOption.getD [])
    | [], .error w, _ =>
      misused 1 (Octets.ofString "invalid floating point argument: " ++ cited w)
    | [], .ok [], _ => misused 1 (Octets.ofString "missing operand")
where
  go (os : List (Char × Octets)) (operands : List Octets) : List Numeral → Action Nat
    | [last] => write os (.ofNat 1) (.ofNat 1) last
    | [first, last] => write os first (.ofNat 1) last
    | first :: step :: last :: _ =>
      if step.digits = 0 then
        misused 1 (Octets.ofString "invalid Zero increment value: " ++
          cited ((operands[1]?).getD []))
      else write os first step last
    | [] => return 0
  write (os : List (Char × Octets)) (first step last : Numeral) : Action Nat := do
    spend (sequenceLength first step last)
    let texts := sequence first step last (has os 'w')
    let formatted :=
      match valueOf os 'f' with
      | none => texts
      | some format => texts.map fun t => (Format.printf dialect format [t]).text
    if texts.isEmpty then return 0
    else put (((valueOf os 's').getD ['\n']).intercalate formatted ++ ['\n'])

end Tool
end LineShell.Script
