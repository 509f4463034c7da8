import LineShell.Script.Tool.Basic

/-! # Keys of lines

Lines are compared by keys.  A key is the part of a line from one position to another, counted
in fields and characters, together with the order of such parts: by their octets, by the numbers
or the months that they begin with, perhaps without regard to case or to some characters.
-/
namespace LineShell.Script
namespace Tool

/-- An octet that separates fields where no other is chosen. -/
def separatesFields (c : Char) : Bool := c = ' ' || c = '\t' || c = '\n'

/-- The number that a text begins with: its sign, its whole part, and its decimals. -/
def leadingNumber (cs : Octets) : Bool × Nat × Octets :=
  let cs := cs.dropWhile separatesFields
  let (negative, cs) := if cs.head? = some '-' then (true, cs.tail) else (false, cs)
  let whole := cs.takeWhile Char.isDigit
  let decimals :=
    match cs.drop whole.length with
    | '.' :: rest => (rest.takeWhile Char.isDigit).reverse.dropWhile (· = '0') |>.reverse
    | _ => []
  let n := Octets.readNat whole
  (negative && !(n = 0 && decimals.isEmpty), n, decimals)

/-- The order of the numbers that two texts begin with. -/
def compareNumbers (a b : Octets) : Ordering :=
  let size (x y : Bool × Nat × Octets) : Ordering :=
    (compare x.2.1 y.2.1).then (compare x.2.2 y.2.2)
  match leadingNumber a, leadingNumber b with
  | (false, x), (false, y) => size (false, x) (false, y)
  | (true, x), (true, y) => size (true, y) (true, x)
  | (true, _), (false, _) => .lt
  | (false, _), (true, _) => .gt

/-- The rank of the unit behind the number that a text begins with, negative for a negative
number; a number without digits and nothing has no unit. -/
def unitRank (cs : Octets) : Int :=
  let (negative, n, decimals) := leadingNumber cs
  if n = 0 && decimals.isEmpty then 0
  else
    let cs := cs.dropWhile separatesFields
    let cs := if cs.head? = some '-' then cs.tail else cs
    let behind := (cs.dropWhile Char.isDigit)
    let behind := if behind.head? = some '.' then behind.tail.dropWhile Char.isDigit else behind
    let rank : Nat :=
      match behind with
      | 'k' :: _ => 1
      | c :: _ => ("KMGTPEZYRQ".toList.idxOf? c).elim 0 (· + 1)
      | [] => 0
    if negative then -rank else rank

/-- The number of the month whose name a text begins with, or 0. -/
def monthOf (cs : Octets) : Nat :=
  let name := ((cs.dropWhile separatesFields).take 3).map Char.toUpper
  let names := ["JAN", "FEB", "MAR", "APR", "MAY", "JUN", "JUL", "AUG", "SEP", "OCT", "NOV", "DEC"]
  (names.findIdx? (·.toList == name)).elim 0 (· + 1)

/-- How keys are compared. -/
structure KeyOrder where
  numeric : Bool := false
  months : Bool := false
  units : Bool := false
  /-- Only blanks, letters and digits count. -/
  dictionary : Bool := false
  /-- Only characters that can be printed count. -/
  printable : Bool := false
  folds : Bool := false
  reverse : Bool := false
  /-- Whether blanks before the position where a key starts, or ends, do not count. -/
  skipsAtStart : Bool := false
  skipsAtEnd : Bool := false
  deriving DecidableEq, Repr

namespace KeyOrder

/-- The order with one more option, which stands at the start, at the end, or for all keys. -/
def withLetter? (o : KeyOrder) (atStart atEnd : Bool) : Char → Option KeyOrder
  | 'b' => some { o with
      skipsAtStart := o.skipsAtStart || atStart, skipsAtEnd := o.skipsAtEnd || atEnd }
  | 'd' => some { o with dictionary := true, printable := false }
  | 'f' => some { o with folds := true }
  | 'h' => some { o with units := true }
  | 'i' => some { o with printable := !o.dictionary }
  | 'M' => some { o with months := true }
  | 'n' => some { o with numeric := true }
  | 'r' => some { o with reverse := true }
  | _ => none

/-- The options that contradict each other, if there are several such ones. -/
def contradiction? (o : KeyOrder) : Option Octets :=
  let chosen (b : Bool) (c : Char) : Octets := if b then [c] else []
  let kinds := chosen o.units 'h' ++ chosen (o.dictionary || o.printable) 'd' ++
    chosen o.months 'M' ++ chosen o.numeric 'n'
  if kinds.length < 2 then none
  else some (chosen o.dictionary 'd' ++ chosen o.folds 'f' ++ chosen o.units 'h' ++
    chosen o.printable 'i' ++ chosen o.months 'M' ++ chosen o.numeric 'n')

/-- What of a text counts. -/
def counting (o : KeyOrder) (cs : Octets) : Octets :=
  let counts (c : Char) : Bool :=
    if o.dictionary then separatesFields c || c.isAlphanum
    else if o.printable then ' ' ≤ c && c ≤ '~'
    else true
  let cs := cs.filter counts
  if o.folds then cs.map Char.toUpper else cs

/-- The order of two texts. -/
def compareTexts (o : KeyOrder) (a b : Octets) : Ordering :=
  let ordering :=
    if o.numeric then compareNumbers a b
    else if o.units then (compare (unitRank a) (unitRank b)).then (compareNumbers a b)
    else if o.months then compare (monthOf a) (monthOf b)
    else compare (o.counting a) (o.counting b)
  if o.reverse then ordering.swap else ordering

end KeyOrder

/-- A key.  Fields and characters are counted from 0; without an end it reaches to the end of
the line, and without characters at the end it takes in the whole last field. -/
structure SortKey where
  startField : Nat := 0
  startCharacter : Nat := 0
  endField : Option Nat := none
  endCharacter : Nat := 0
  order : KeyOrder := {}
  deriving DecidableEq, Repr

namespace SortKey

/-- What follows some fields of a line, each with the separator behind it; without a chosen
separator, a field takes in the blanks before it. -/
def behindFields (separator : Option Char) : Nat → Octets → Octets
  | 0, cs => cs
  | n + 1, cs =>
    match separator with
    | some c => behindFields separator n (cs.dropWhile (· ≠ c)).tail
    | none => behindFields separator n ((cs.dropWhile separatesFields).dropWhile (!separatesFields ·))

/-- The part of a line that a key is. -/
def part (k : SortKey) (separator : Option Char) (line : Octets) : Octets :=
  let skip (skips : Bool) (cs : Octets) : Octets :=
    if skips then cs.dropWhile separatesFields else cs
  let start := (skip k.order.skipsAtStart (behindFields separator k.startField line)).drop
    k.startCharacter
  match k.endField with
  | none => start
  | some n =>
    let left : Octets :=
      if k.endCharacter ≠ 0 then
        (skip k.order.skipsAtEnd (behindFields separator n line)).drop k.endCharacter
      else
        match separator with
        | some c => (behindFields separator n line).dropWhile (· ≠ c)
        | none => behindFields separator (n + 1) line
    start.take (start.length - left.length)

/-- Reads the count at the beginning of a text; `what` it should be is told where it is none. -/
def count (what : String) (cs : Octets) : Except Octets (Nat × Octets) :=
  let digits := cs.takeWhile Char.isDigit
  if digits.isEmpty then
    .error (Octets.ofString what ++ Octets.ofString ": invalid count at start of " ++ cited cs)
  else .ok (Octets.readNat digits, cs.drop digits.length)

/-- Reads the options of one end of a key. -/
def letters (atStart : Bool) : KeyOrder → Octets → KeyOrder × Octets
  | o, [] => (o, [])
  | o, c :: cs =>
    match o.withLetter? atStart (!atStart) c with
    | some o => letters atStart o cs
    | none => (o, c :: cs)

/-- Reads a key: where it starts, options, and perhaps a comma, where it ends, and options. -/
def ofText (cs : Octets) : Except Octets SortKey := do
  let bad {α : Type} (what : String) : Except Octets α :=
    .error (Octets.ofString what ++ Octets.ofString ": invalid field specification " ++ cited cs)
  let (field, rest) ← count "invalid number at field start" cs
  if field = 0 then bad "field number is zero"
  let (character, rest) ←
    match rest with
    | '.' :: rest => count "invalid number after '.'" rest
    | rest => pure (1, rest)
  if character = 0 then bad "character offset is zero"
  let (order, rest) := letters true {} rest
  let k : SortKey := { startField := field - 1, startCharacter := character - 1, order }
  let (k, rest) ←
    match rest with
    | ',' :: rest => do
      let (field, rest) ← count "invalid number after ','" rest
      if field = 0 then bad "field number is zero"
      let (character, rest) ←
        match rest with
        | '.' :: rest => count "invalid number after '.'" rest
        | rest => pure (0, rest)
      let (order, rest) := letters false k.order rest
      pure ({ k with endField := some (field - 1), endCharacter := character, order }, rest)
    | rest => pure (k, rest)
  if rest.isEmpty then return k else bad "stray character in field spec"

/-- The key with the order for all keys, unless it has one of its own. -/
def inheriting (k : SortKey) (all : KeyOrder) : SortKey :=
  if k.order = {} then { k with order := all } else k

end SortKey
end Tool
end LineShell.Script
