import LineShell.Script.Arithmetic
import LineShell.Script.BinaryReal

/-! # Formatted output

What `echo` and `printf` write.  Both know backslash sequences, of which one ends all
output; `printf` runs through its format again and again while there are arguments left.
The interpreter and the installed tool differ in a few rules, which make up a dialect.
-/
namespace LineShell.Script
namespace Format

/-- Text to be written, and whether a sequence in it has ended the output. -/
structure Written where
  text : Octets
  ended : Bool
  deriving DecidableEq, Repr

/-- Puts characters before what is written. -/
def Written.after (cs : Octets) (w : Written) : Written := { w with text := cs ++ w.text }

/-- The character with a code of eight bits. -/
def octet (n : Nat) : Char := Char.ofNat (n % 256)

/-- The characters that a letter after a backslash stands for. -/
def controls : List (Char × Char) :=
  [('a', '\x07'), ('b', '\x08'), ('f', '\x0c'), ('n', '\n'), ('r', '\r'), ('t', '\t'),
   ('v', '\x0b'), ('e', '\x1b'), ('\\', '\\')]

/-- Up to `limit` octal digits at the beginning of a text. -/
def octalDigits (limit : Nat) (cs : Octets) : Octets :=
  (cs.take limit).takeWhile Arithmetic.isOctalDigit

def octalValue (cs : Octets) : Char := octet (Arithmetic.ofDigits 8 cs).toNat

/-- Up to two hexadecimal digits at the beginning of a text. -/
def hexDigits (cs : Octets) : Octets := (cs.take 2).takeWhile Arithmetic.isHexDigit

def hexValue (cs : Octets) : Char := octet (Arithmetic.ofDigits 16 cs).toNat

/-- Replaces the backslash sequences of an argument: those of `echo` and of `%b`, where a
zero begins up to three octal digits, and with `hex` an `x` up to two hexadecimal ones. -/
def unescape (hex : Bool) : Nat → Octets → Written
  | 0, _ => ⟨[], false⟩
  | _, [] => ⟨[], false⟩
  | fuel + 1, '\\' :: c :: rest =>
    if c = 'c' then ⟨[], true⟩
    else if c = '0' then
      let ds := octalDigits 3 rest
      (unescape hex fuel (rest.drop ds.length)).after [octalValue ds]
    else if '1' ≤ c ∧ c ≤ '7' then
      let ds := octalDigits 3 (c :: rest)
      (unescape hex fuel ((c :: rest).drop ds.length)).after [octalValue ds]
    else if hex && c == 'x' && !(hexDigits rest).isEmpty then
      let ds := hexDigits rest
      (unescape hex fuel (rest.drop ds.length)).after [hexValue ds]
    else match controls.lookup c with
      | some d => (unescape hex fuel rest).after [d]
      | none => (unescape hex fuel rest).after ['\\', c]
  | fuel + 1, c :: rest => (unescape hex fuel rest).after [c]

/-- What `echo` writes. -/
def echo (arguments : List Octets) : Octets :=
  let (newline, arguments) :=
    match arguments with
    | ['-', 'n'] :: rest => (false, rest)
    | _ => (true, arguments)
  let text := [' '].intercalate arguments
  let w := unescape false text.length text
  if newline && !w.ended then w.text ++ ['\n'] else w.text

/-- What differs between one `printf` and another. -/
structure Dialect where
  /-- The numbers that it computes with. -/
  reals : BinaryFormat
  /-- How a complaint names an argument. -/
  shown : Octets → Octets
  noNumber : String
  leftOver : String
  /-- Whether a number that is too great is complained about before anything else. -/
  rangeFirst : Bool
  /-- Whether a format may hold the sequences that end the output and that spell a quote or a
  code in hexadecimal. -/
  moreEscapes : Bool

/-- A directive of a format. -/
structure Directive where
  leftAligned : Bool := false
  zeroPadded : Bool := false
  signed : Bool := false
  spaced : Bool := false
  alternate : Bool := false
  width : Option Nat := none
  precision : Option Nat := none
  kind : Char := 's'
  deriving DecidableEq, Repr

/-- Why a format cannot be followed further. -/
inductive Stop where
  /-- A directive that there is none of. -/
  | invalid (directive : Octets)
  /-- The format ends within a directive. -/
  | unfinished (directive : Octets)
  /-- A code in hexadecimal without digits. -/
  | noDigits
  deriving DecidableEq, Repr

/-- The state of formatting: the arguments left, whether any was taken, the complaints,
the last first, with the faults among them, and whether a sequence has ended the output. -/
structure Progress where
  arguments : List Octets
  taken : Bool := false
  complaints : List Octets := []
  failed : Bool := false
  ended : Bool := false

abbrev Formatting := StateM Progress

/-- The next argument. -/
def next : Formatting (Option Octets) := do
  let p ← get
  match p.arguments with
  | [] =>
    set { p with taken := true }
    return none
  | a :: rest =>
    set { p with arguments := rest, taken := true }
    return some a

/-- Notes something that does not make the whole fail. -/
def remark (text : Octets) : Formatting Unit :=
  modify fun p => { p with complaints := text :: p.complaints }

def complain (text : Octets) : Formatting Unit :=
  modify fun p => { p with complaints := text :: p.complaints, failed := true }

/-- Complains about what was wrong with a number: where the reading has stopped, and whether
it was out of range. -/
def checkNumber (dialect : Dialect) (argument rest : Octets) (outOfRange : Bool) :
    Formatting Unit := do
  let range : Formatting Unit :=
    complain (dialect.shown argument ++ Octets.ofString ": Numerical result out of range")
  if outOfRange ∧ (dialect.rangeFirst ∨ rest = []) then range
  else if rest ≠ [] then
    complain (dialect.shown argument ++
      Octets.ofString (if rest = argument then dialect.noNumber else dialect.leftOver))

/-- The character whose code an argument asks for: the one after a quote. -/
def codeOf? (dialect : Dialect) : Octets → Formatting (Option Char)
  | q :: rest => do
    if q = '"' ∨ q = '\'' then
      match rest with
      | [] => return if dialect.moreEscapes then none else some '\x00'
      | c :: more =>
        if dialect.moreEscapes && !more.isEmpty then
          remark (Octets.ofString "warning: " ++ more ++
            Octets.ofString ": character(s) following character constant have been ignored")
        return some c
    else return none
  | [] => return none

/-- The number that an argument spells, which is kept between bounds. -/
def integer (dialect : Dialect) (signed : Bool) (argument : Option Octets) : Formatting Int := do
  let cs := argument.getD []
  match ← codeOf? dialect cs with
  | some c => return c.toNat
  | none =>
    let (negative, digits) : Bool × Octets :=
      match cs.dropWhile Arithmetic.isBlank with
      | '-' :: rest => (true, rest)
      | '+' :: rest => (false, rest)
      | rest => (false, rest)
    match Arithmetic.number? digits with
    | some (magnitude, rest) =>
      let n : Int := if negative then -magnitude else magnitude
      let most : Int := Arithmetic.modulus - 1
      let kept : Int :=
        if signed then max Arithmetic.least (min Arithmetic.greatest n)
        else if most < magnitude then most
        else n % Arithmetic.modulus
      let outOfRange : Bool := if signed then kept != n else most < magnitude
      checkNumber dialect cs rest outOfRange
      return kept
    | none =>
      checkNumber dialect cs cs false
      return 0

/-- The number with a fraction that an argument spells. -/
def real (dialect : Dialect) (argument : Option Octets) : Formatting BinaryReal := do
  let cs := argument.getD []
  match ← codeOf? dialect cs with
  | some c => return (BinaryReal.nearest dialect.reals false c.toNat 1).1
  | none =>
    match BinaryReal.read? dialect.reals cs with
    | some r =>
      checkNumber dialect cs r.rest r.outOfRange
      return r.number
    | none =>
      checkNumber dialect cs cs false
      return .finite false 0 0

/-- Fills a text up to a width. -/
def pad (d : Directive) (cs : Octets) : Octets :=
  let fill := List.replicate (d.width.getD 0 - cs.length) ' '
  if d.leftAligned then cs ++ fill else fill ++ cs

/-- Fills a number up to a width, with zeros behind its sign if they are asked for. -/
def padNumber (d : Directive) (zeros : Bool) (lead digits : Octets) : Octets :=
  if d.zeroPadded && !d.leftAligned && zeros then
    lead ++ List.replicate (d.width.getD 0 - (lead.length + digits.length)) '0' ++ digits
  else pad d (lead ++ digits)

/-- The sign before a number. -/
def sign (d : Directive) (negative : Bool) : Octets :=
  if negative then ['-'] else if d.signed then ['+'] else if d.spaced then [' '] else []

/-- A whole number in the form that a directive asks for. -/
def number (d : Directive) (n : Int) : Octets :=
  let magnitude := n.natAbs
  let digits :=
    match d.kind with
    | 'o' => Nat.toDigits 8 magnitude
    | 'x' => Nat.toDigits 16 magnitude
    | 'X' => (Nat.toDigits 16 magnitude).map Char.toUpper
    | _ => Nat.toDigits 10 magnitude
  let digits := if magnitude = 0 then [] else digits
  let least :=
    if d.kind = 'o' ∧ d.alternate then max (d.precision.getD 1) (digits.length + 1)
    else d.precision.getD 1
  let digits := List.replicate (least - digits.length) '0' ++ digits
  let lead :=
    match d.kind with
    | 'd' => sign d (n < 0)
    | 'x' => if d.alternate ∧ magnitude ≠ 0 then ['0', 'x'] else []
    | 'X' => if d.alternate ∧ magnitude ≠ 0 then ['0', 'X'] else []
    | _ => []
  padNumber d (d.precision = none) lead digits

/-- A number with a fraction in the form that a directive asks for; a capital letter asks for
capitals. -/
def realNumber (reals : BinaryFormat) (d : Directive) (x : BinaryReal) : Octets :=
  let cased (cs : Octets) : Octets := if d.kind.isUpper then cs.map Char.toUpper else cs
  match x with
  | .infinite negative => padNumber d false (sign d negative) (cased "inf".toList)
  | .nan negative => padNumber d false (sign d negative) (cased "nan".toList)
  | .finite negative m e =>
    let lead := sign d negative
    match d.kind.toLower with
    | 'f' => padNumber d true lead (BinaryReal.fixed d.alternate (d.precision.getD 6) m e)
    | 'e' =>
      padNumber d true lead
        (cased (BinaryReal.scientific d.alternate 'e' (d.precision.getD 6) m e))
    | 'g' =>
      padNumber d true lead (cased (BinaryReal.general d.alternate 'e' (d.precision.getD 6) m e))
    | _ =>
      let text := cased (BinaryReal.hexadecimal reals d.alternate d.precision m e)
      padNumber d true (lead ++ text.take 2) (text.drop 2)

/-- Reads the flags of a directive. -/
def flags (d : Directive) : Octets → Directive × Octets
  | '-' :: rest => flags { d with leftAligned := true } rest
  | '0' :: rest => flags { d with zeroPadded := true } rest
  | '+' :: rest => flags { d with signed := true } rest
  | ' ' :: rest => flags { d with spaced := true } rest
  | '#' :: rest => flags { d with alternate := true } rest
  | rest => (d, rest)

/-- Reads a width or a precision, which may be the next argument. -/
def measure (dialect : Dialect) (cs : Octets) : Formatting (Option Int × Octets) := do
  match cs with
  | '*' :: rest => return (some (← integer dialect true (← next)), rest)
  | _ =>
    let ds := cs.takeWhile Char.isDigit
    if ds.isEmpty then return (none, cs)
    else return (some (Arithmetic.ofDigits 10 ds), cs.drop ds.length)

/-- Reads a directive up to its last character. -/
def directive (dialect : Dialect) (cs : Octets) : Formatting (Directive × Octets) := do
  let (d, cs) := flags {} cs
  let (width, cs) ← measure dialect cs
  let d :=
    match width with
    | none => d
    | some w => { d with width := some w.natAbs, leftAligned := d.leftAligned || w < 0 }
  match cs with
  | '.' :: cs =>
    let (precision, cs) ← measure dialect cs
    -- a negative precision is none
    let precision := precision.getD 0
    return ({ d with precision := if precision < 0 then none else some precision.toNat }, cs)
  | _ => return (d, cs)

/-- The text of a directive for the next argument; there is none of an unknown kind. -/
def convert (dialect : Dialect) (d : Directive) (kind : Char) : Formatting (Option Octets) := do
  let cut (cs : Octets) : Octets :=
    match d.precision with
    | some n => cs.take n
    | none => cs
  if kind = 's' then return some (pad d (cut ((← next).getD [])))
  else if kind = 'c' then return some (pad d [((← next).bind List.head?).getD '\x00'])
  else if kind = 'b' then
    let argument := (← next).getD []
    let w := unescape dialect.moreEscapes argument.length argument
    if w.ended then modify fun p => { p with ended := true }
    return some (pad d (cut w.text))
  else if kind = 'd' ∨ kind = 'i' then
    return some (number { d with kind := 'd' } (← integer dialect true (← next)))
  else if "uoxX".toList.contains kind then
    return some (number { d with kind } (← integer dialect false (← next)))
  else if "aAeEfFgG".toList.contains kind then
    return some (realNumber dialect.reals { d with kind } (← real dialect (← next)))
  else return none

/-- What a backslash in a format begins, of which the following characters are given: the
characters that it stands for, and what follows; nothing if it ends the output. -/
def escape (dialect : Dialect) (cs : Octets) : Except Stop (Option (Octets × Octets)) :=
  match cs with
  | [] => .ok (some (['\\'], []))
  | c :: rest =>
    if Arithmetic.isOctalDigit c then
      let ds := octalDigits 3 cs
      .ok (some ([octalValue ds], cs.drop ds.length))
    else
      match controls.lookup c, dialect.moreEscapes, c with
      | some d, _, _ => .ok (some ([d], rest))
      | none, true, 'c' => .ok none
      | none, true, '"' => .ok (some (['"'], rest))
      | none, true, 'x' =>
        let ds := hexDigits rest
        if ds.isEmpty then .error .noDigits else .ok (some ([hexValue ds], rest.drop ds.length))
      | none, true, _ => .ok (some (['\\', c], rest))
      | none, false, _ => .ok (some (['\\'], cs))

/-- Runs through a format once. -/
def pass (dialect : Dialect) : Nat → Octets → Formatting (Octets × Option Stop)
  | 0, _ => return ([], none)
  | _, [] => return ([], none)
  | fuel + 1, '\\' :: rest => do
    match escape dialect rest with
    | .error stop => return ([], some stop)
    | .ok none =>
      modify fun p => { p with ended := true }
      return ([], none)
    | .ok (some (text, rest)) =>
      let (more, stop) ← pass dialect fuel rest
      return (text ++ more, stop)
  | fuel + 1, '%' :: '%' :: rest => do
    let (more, stop) ← pass dialect fuel rest
    return ('%' :: more, stop)
  | fuel + 1, '%' :: rest => do
    let (d, after) ← directive dialect rest
    match after with
    | [] => return ([], some (.unfinished ('%' :: rest)))
    | kind :: after =>
      match ← convert dialect d kind with
      | none => return ([], some (.invalid ('%' :: rest.take (rest.length - after.length))))
      | some text =>
        if (← get).ended then return (text, none)
        else
          let (more, stop) ← pass dialect fuel after
          return (text ++ more, stop)
  | fuel + 1, c :: rest => do
    let (more, stop) ← pass dialect fuel rest
    return (c :: more, stop)

/-- What `printf` has written, what it complains about, whether that makes it fail, what has
stopped it, and the arguments that no directive has asked for. -/
structure Printed where
  text : Octets
  complaints : List Octets
  failed : Bool
  stop : Option Stop
  left : List Octets
  deriving DecidableEq, Repr

/-- Runs through a format while there are arguments left. -/
def passes (dialect : Dialect) (format : Octets) : Nat → Formatting (Octets × Option Stop)
  | 0 => return ([], none)
  | fuel + 1 => do
    let (text, stop) ← pass dialect (format.length + 1) format
    let p ← get
    if stop.isSome || p.ended || p.arguments.isEmpty || !p.taken then return (text, stop)
    else
      let (more, stop) ← passes dialect format fuel
      return (text ++ more, stop)

/-- What `printf` writes. -/
def printf (dialect : Dialect) (format : Octets) (arguments : List Octets) : Printed :=
  let ((text, stop), p) := (passes dialect format (arguments.length + 1)).run { arguments }
  { text, complaints := p.complaints.reverse, failed := p.failed, stop
    left := if p.ended then [] else p.arguments }

end Format
end LineShell.Script
