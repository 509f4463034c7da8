import LineShell.Script.Tool.Basic

/-! # The ends of texts

`head` writes how a text begins and `tail` how it ends, in lines or in bytes.  What
`head` leaves of its input can still be read by others.
-/
namespace LineShell.Script
namespace Tool
open LineShell.Script.Action

/-- What is shown of a text. -/
inductive Extent where
  /-- So many pieces at the beginning or at the end. -/
  | first (n : Nat)
  | last (n : Nat)
  /-- All but so many pieces at the other end. -/
  | butFirst (n : Nat)
  | butLast (n : Nat)
  deriving DecidableEq, Repr

/-- What is shown, in which pieces, and whether the texts get titles. -/
structure Excerpt where
  extent : Extent
  /-- The character that ends a piece; without one every byte is a piece. -/
  delimiter : Option Char := some '\n'
  titled : Bool
  deriving Repr

/-- The pieces of a text, each with its end; the last may lack it. -/
def pieces (delimiter : Char) (cs : Octets) : List Octets :=
  match (Octets.splitAt delimiter cs).reverse with
  | [] => []
  | last :: before =>
    before.reverse.map (· ++ [delimiter]) ++ if last.isEmpty then [] else [last]

namespace Extent

/-- The members of a list that are shown. -/
def of {α : Type} : Extent → List α → List α
  | .first n, l => l.take n
  | .last n, l => l.drop (l.length - n)
  | .butFirst n, l => l.drop n
  | .butLast n, l => l.take (l.length - n)

end Extent

namespace Excerpt

/-- What is shown of a text. -/
def of (x : Excerpt) (cs : Octets) : Octets :=
  match x.delimiter with
  | none => x.extent.of cs
  | some c => (x.extent.of (pieces c cs)).flatten

/-- How much is read from a pipe at a time. -/
def block : Nat := 8192

/-- How many bytes are taken from a pipe of which the first `shown` are needed. -/
def taken (x : Excerpt) (shown available : Nat) : Nat :=
  match x.extent, x.delimiter with
  | .first _, none => shown
  | .first _, some _ => min available ((shown + block - 1) / block * block)
  | _, _ => available

/-- Reads as much of the input as is needed for what is shown at its beginning. -/
def readFirst (x : Excerpt) : Action (Except Errno Octets) := do
  match ← channel? 0 with
  | some (n, .stored number position atEnd) =>
    let cs := x.of (← contentFrom number position)
    setChannel n (.stored number (position + cs.length) atEnd)
    return .ok cs
  | some (n, .source rest) =>
    let cs := x.of rest
    setChannel n (.source (rest.drop (x.taken cs.length rest.length)))
    return .ok cs
  | _ => return (← readAll 0).map x.of

/-- Reads the input to its end, for what is shown there. -/
def readLast (x : Excerpt) : Action (Except Errno Octets) := return (← readAll 0).map x.of

/-- Shows an excerpt of every operand, under titles if they are wanted. -/
def showAll (x : Excerpt) (read : Action (Except Errno Octets)) (operands : List Octets) :
    Action Nat := do
  let mut worst := 0
  let mut isFirst := true
  for operand in orInput operands do
    let name := if operand = ['-'] then "standard input".toList else operand
    let found ← reading operand do return .ok (← read)
    match found with
    | .error e =>
      report (Octets.ofString "cannot open " ++ quoted name ++
        Octets.ofString " for reading: " ++ explain e)
      worst := 1
    | .ok result =>
      if x.titled then
        let gap : Octets := if isFirst then [] else ['\n']
        worst := max worst (← put (gap ++ Octets.ofString "==> " ++ name ++
          Octets.ofString " <==\n"))
      isFirst := false
      match result with
      | .ok cs => worst := max worst (← put cs)
      | .error e =>
        report (Octets.ofString "error reading " ++ quoted name ++ [':', ' '] ++ explain e)
        worst := 1
  return worst

end Excerpt

/-- What an amount is read as: an extent, or the text at fault. -/
abbrev AmountReader := Octets → Except (Octets × QuantityFault) Extent

/-- What is wrong with an amount. -/
def amountFault? (extentOf : AmountReader) (c : Char) (text : Octets) : Option Octets :=
  match extentOf text with
  | .ok _ => none
  | .error (shown, fault) =>
    some (Octets.ofString (if c == 'c' then "invalid number of bytes: " else
      "invalid number of lines: ") ++ cited shown ++
      match fault with
      | .malformed => []
      | .tooLarge => Octets.ofString ": Value too large for defined data type")

/-- The options of `head` and `tail`: the letters that ask for lines or bytes, and others.  Digits
are at fault here. -/
def excerptOptions (plain : String) (extentOf : AmountReader) (digits : Char → OptionFault) :
    Accepted :=
  { plain, valued := "nc"
    long := [("lines", 'n'), ("bytes", 'c'), ("quiet", 'q'), ("silent", 'q'), ("verbose", 'v'),
      ("zero-terminated", 'z')]
    refuses := fun c text =>
      if c.isDigit then some (digits c)
      else if c == 'n' || c == 'c' then
        (amountFault? extentOf c text).map fun message => { message, helps := false }
      else none }

/-- Runs the work of `head` or `tail`.  The amount is in the last value of either letter, and
`bare` are the options of a first word that is but a number. -/
def excerpt (accepted : Accepted) (extentOf : AmountReader) (bare : List (Char × Octets))
    (words : List Octets) (read : Excerpt → Action (Except Errno Octets)) : Action Nat := do
  let isAmount (o : Char × Octets) : Bool := o.1 == 'n' || o.1 == 'c'
  match (bare.filter isAmount).findSome? fun (c, text) => amountFault? extentOf c text with
  | some message =>
    report message
    return 1
  | none =>
    withOptions accepted 1 words fun os operands => do
      let os := bare ++ os
      let (c, text) := (os.filter isAmount).getLast?.getD ('n', ['1', '0'])
      match extentOf text with
      | .error _ => return 1
      | .ok extent =>
        let delimiter := if c == 'c' then none else some (if has os 'z' then '\x00' else '\n')
        let titled :=
          match lastOf os "qv" with
          | some 'v' => true
          | some _ => false
          | none => 1 < operands.length
        let x : Excerpt := { extent, delimiter, titled }
        -- where nothing can be shown at the end, nothing is opened
        if extent = .last 0 then return 0 else x.showAll (read x) operands

/-- What the letters behind a bare number say. -/
structure BareCount where
  inBytes : Bool := false
  unit : Option Char := none
  others : List (Char × Octets) := []

/-- Reads one letter behind a bare number; a letter that says nothing is a fault. -/
def BareCount.letter (b : BareCount) (c : Char) : Except Char BareCount :=
  match c with
  | 'c' => .ok { b with inBytes := true, unit := none }
  | 'b' | 'k' | 'm' => .ok { b with inBytes := true, unit := some c }
  | 'l' => .ok { b with inBytes := false }
  | 'q' | 'v' | 'z' => .ok { b with others := b.others ++ [(c, [])] }
  | c => .error c

/-- The options that a first word such as `-3c` stands for. -/
def bareCount (cs : Octets) : Except Char (List (Char × Octets)) := do
  let digits := cs.takeWhile Char.isDigit
  let b ← (cs.drop digits.length).foldlM BareCount.letter {}
  return (if b.inBytes then 'c' else 'n', digits ++ b.unit.toList) :: b.others

/-- The extent that the value of an option of `head` asks for. -/
def headExtent (text : Octets) : Except (Octets × QuantityFault) Extent :=
  match text with
  | '-' :: rest => (quantity rest).map Extent.butLast |>.mapError (rest, ·)
  | _ => (quantity text).map Extent.first |>.mapError (text, ·)

def head : Tool := fun words =>
  let run (bare : List (Char × Octets)) (words : List Octets) : Action Nat :=
    let digits (c : Char) : OptionFault :=
      { message := Octets.ofString "invalid trailing option -- " ++ [c] }
    excerpt (excerptOptions "qvz0123456789" headExtent digits) headExtent bare words
      Excerpt.readFirst
  match words with
  | ('-' :: d :: cs) :: rest =>
    if d.isDigit then
      match bareCount (d :: cs) with
      | .ok bare => run bare rest
      | .error c => misused 1 (Octets.ofString "invalid trailing option -- " ++ [c])
    else run [] words
  | _ => run [] words

/-- The extent that the value of an option of `tail` asks for. -/
def tailExtent (text : Octets) : Except (Octets × QuantityFault) Extent :=
  match text with
  | '+' :: rest =>
    (quantity rest).map (fun n => Extent.butFirst (n - 1)) |>.mapError (text, ·)
  | '-' :: rest => (quantity rest).map Extent.last |>.mapError (rest, ·)
  | _ => (quantity text).map Extent.last |>.mapError (text, ·)

/-- What a first word such as `+3` or `-2c` asks for. -/
def bareExtent? (word : Octets) : Option (Char × Octets) :=
  let parts (cs : Octets) : Option (Octets × Char) :=
    let digits := cs.takeWhile Char.isDigit
    match cs.drop digits.length with
    | [] | ['l'] => some (if digits.isEmpty then ['1', '0'] else digits, 'n')
    | ['c'] => some (if digits.isEmpty then ['1', '0'] else digits, 'c')
    | ['b'] => some ((if digits.isEmpty then ['1', '0'] else digits) ++ ['b'], 'c')
    | _ => none
  match word with
  | '+' :: cs => (parts cs).map fun (n, c) => (c, '+' :: n)
  | '-' :: cs => if cs.isEmpty || cs = ['c'] then none else (parts cs).map fun (n, c) => (c, n)
  | _ => none

def tail : Tool := fun words =>
  let run (bare : List (Char × Octets)) (words : List Octets) : Action Nat :=
    let digits (c : Char) : OptionFault :=
      { message := Octets.ofString "option used in invalid context -- " ++ [c], helps := false }
    excerpt (excerptOptions "qvz0123456789" tailExtent digits) tailExtent bare words
      Excerpt.readLast
  let isPlain (rest : List Octets) : Bool :=
    match rest with
    | [] => true
    | ['-', '-'] :: more => more.length ≤ 1
    | [only] => only.head? != some '-' || only = ['-']
    | _ => false
  match words with
  | word :: rest =>
    match if isPlain rest then bareExtent? word else none with
    | some bare => run [bare] rest
    | none => run [] words
  | [] => run [] []

end Tool
end LineShell.Script
