import LineShell.Script.Arithmetic

/-! # Changes of permissions

Permissions are twelve bits: three for each of the user, the group and the others, and
three special ones.  A change of them is written in octal, or as clauses between commas,
each of which names classes and what they gain, lose or are left with.
-/
namespace LineShell.Script
namespace Permissions

/-- All bits. -/
def all : Nat := 0o7777

/-- All bits but the given ones. -/
def allBut (bits : Nat) : Nat := all &&& (all ^^^ bits)

/-- The bits of the classes that letters name; without letters there are none. -/
def classes (letters : Octets) : Nat :=
  letters.foldl (fun bits c => bits |||
    match c with
    | 'u' => 0o4700
    | 'g' => 0o2070
    | 'o' => 0o1007
    | _ => all) 0

/-- What is changed: the present bits, and whether they are those of a directory. -/
structure Subject where
  bits : Nat
  isDirectory : Bool := false

/-- The bits that letters stand for, in all classes.  A capital letter asks for execution
where it makes sense. -/
def named (s : Subject) (letters : Octets) : Nat :=
  letters.foldl (fun bits c => bits |||
    match c with
    | 'r' => 0o444
    | 'w' => 0o222
    | 'x' => 0o111
    | 'X' => if s.isDirectory || s.bits &&& 0o111 != 0 then 0o111 else 0
    | 's' => 0o6000
    | 't' => 0o1000
    | _ => 0) 0

/-- What an action gives: letters, or one class whose bits are copied.  They are returned
with what follows. -/
def given (s : Subject) : Octets → Nat × Octets
  | 'u' :: rest => (0o111 * (s.bits / 0o100 % 8), rest)
  | 'g' :: rest => (0o111 * (s.bits / 0o10 % 8), rest)
  | 'o' :: rest => (0o111 * (s.bits % 8), rest)
  | cs =>
    let letters := cs.takeWhile "rwxXst".toList.contains
    (named s letters, cs.drop letters.length)

/-- Carries out the actions of a clause for the classes `affected`.  If there are none, it is
for all, except what the mask keeps.  Only then the last action may have a number, which is about
every bit. -/
def act (affected mask : Nat) : Nat → Subject → Octets → Option Subject
  | _, s, [] => some s
  | 0, _, _ => none
  | fuel + 1, s, sign :: rest =>
    if rest.head?.any Arithmetic.isOctalDigit then
      let n := (Arithmetic.ofDigits 8 rest).toNat
      if affected ≠ 0 || !rest.all Arithmetic.isOctalDigit || all < n then none
      else
        match sign with
        | '+' => some { s with bits := s.bits ||| n }
        | '-' => some { s with bits := s.bits &&& allBut n }
        | '=' => some { s with bits := n }
        | _ => none
    else
      let (value, rest) := given s rest
      let value := value &&& if affected = 0 then allBut mask else affected
      let go (bits : Nat) : Option Subject := act affected mask fuel { s with bits } rest
      -- the special bits of a directory stay unless they are named
      let kept := if s.isDirectory then s.bits &&& 0o6000 else 0
      match sign with
      | '+' => go (s.bits ||| value)
      | '-' => go (s.bits &&& allBut value)
      | '=' => go ((if affected = 0 then 0 else s.bits &&& allBut affected) ||| value ||| kept)
      | _ => none

/-- Carries out a clause. -/
def clause (mask : Nat) (s : Subject) (text : Octets) : Option Subject :=
  let who := text.takeWhile "ugoa".toList.contains
  match text.drop who.length with
  | [] => none
  | actions => act (classes who) mask actions.length s actions

/-- Carries out a change: an octal number, or clauses between commas. -/
def change (mask : Nat) (s : Subject) (text : Octets) : Option Nat :=
  if !text.isEmpty && text.all Arithmetic.isOctalDigit then
    let n := (Arithmetic.ofDigits 8 text).toNat
    let kept := if s.isDirectory && text.length < 5 then s.bits &&& 0o6000 else 0
    if n ≤ all then some (n ||| kept) else none
  else ((Octets.splitAt ',' text).foldlM (clause mask) s).map Subject.bits

/-- Carries out the clauses of a change of what a mask leaves, one after the other; the classes
named so far are `places`, one bit for each.  What is copied is taken from before the change. -/
def leave (before : Nat) : Nat → Nat → Nat → Octets → Option Nat
  | 0, _, bits, _ => some bits
  | fuel + 1, places, bits, text =>
    let who := text.takeWhile "augo".toList.contains
    let places := who.foldl (fun n c => n ||| classes [c] &&& 0o111) places
    let places := if places = 0 then 0o111 else places
    match text.drop who.length with
    | [] => some bits
    | sign :: rest =>
      let letters := rest.takeWhile "rwxugoXs".toList.contains
      let value := letters.foldl (fun n c => n |||
        match c with
        | 'r' => 4
        | 'w' => 2
        | 'x' => 1
        | 'u' => before / 0o100 % 8
        | 'g' => before / 0o10 % 8
        | 'o' => before % 8
        | 'X' => if before &&& 0o111 != 0 then 1 else 0
        | _ => 0) 0 * places
      let changed? : Option Nat :=
        match sign with
        | '+' => some (bits ||| value)
        | '-' => some (bits &&& allBut value)
        | '=' => some (bits &&& allBut (7 * places) ||| value)
        | _ => none
      match changed?, rest.drop letters.length with
      | none, _ => none
      | some bits, ',' :: more => leave before fuel 0 bits more
      | some bits, more =>
        if more.isEmpty then some bits
        else if more.head?.any "=+-".toList.contains then leave before fuel places bits more
        else none

/-- The three letters of a class. -/
def letters (bits : Nat) : Octets :=
  [if bits &&& 4 != 0 then 'r' else '-', if bits &&& 2 != 0 then 'w' else '-',
    if bits &&& 1 != 0 then 'x' else '-']

/-- The nine letters of the classes, of which the special bits take the last ones. -/
def text (bits : Nat) : Octets :=
  let special (cs : Octets) (bit : Nat) (mark : Char) : Octets :=
    if bits &&& bit = 0 then cs
    else cs.dropLast ++ [if cs.getLast? = some 'x' then mark else mark.toUpper]
  special (letters (bits / 0o100 % 8)) 0o4000 's' ++
    special (letters (bits / 0o10 % 8)) 0o2000 's' ++ special (letters (bits % 8)) 0o1000 't'

/-- The text of a mask as what it leaves to each class. -/
def maskText (mask : Nat) : Octets :=
  let bits := 0o777 &&& (0o777 ^^^ mask)
  let shown (n : Nat) : Octets := (letters (n % 8)).filter (· ≠ '-')
  Octets.ofString "u=" ++ shown (bits / 0o100) ++ Octets.ofString ",g=" ++ shown (bits / 0o10) ++
    Octets.ofString ",o=" ++ shown bits

end Permissions
end LineShell.Script
