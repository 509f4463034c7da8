/-! # Signed decimals of 32 bits

The one number that a command line can hold is an exit status: an optional sign and
ASCII digits, whose value lies between -2^31 and 2^31 - 1.  The digits are read from
the left, so of two faults in one text the one further left is reported; a character
that is no digit counts before the overflow that its place would bring.
-/
namespace LineShell.Text

/-- Why a text is no signed decimal of 32 bits. -/
inductive NumberFault where
  | empty
  | invalidDigit
  | tooLarge
  | tooSmall
  deriving DecidableEq, Repr

/-- The explanation that a diagnostic gives of the fault. -/
def NumberFault.message : NumberFault → String
  | .empty => "cannot parse integer from empty string"
  | .invalidDigit => "invalid digit found in string"
  | .tooLarge => "number too large to fit in target type"
  | .tooSmall => "number too small to fit in target type"

/-- The least and the greatest value. -/
def int32Min : Int := -2147483648

def int32Max : Int := 2147483647

/-- The value of an ASCII digit. -/
def digit? (c : Char) : Option Nat :=
  if c.isDigit then some (c.toNat - '0'.toNat) else none

/-- Reads digits onto `value` upwards (`sign = 1`) or downwards (`sign = -1`); leaving
the range is `overflow`. -/
def readDigits (sign : Int) (overflow : NumberFault) : Int → List Char → Except NumberFault Int
  | value, [] => .ok value
  | value, c :: cs =>
    match digit? c with
    | none => .error .invalidDigit
    | some d =>
      let value := value * 10 + sign * d
      if int32Min ≤ value ∧ value ≤ int32Max then readDigits sign overflow value cs
      else .error overflow

/-- Reads a signed decimal of 32 bits.  A sign alone has no digit where one is due. -/
def readInt32 : List Char → Except NumberFault Int
  | [] => .error .empty
  | ['+'] => .error .invalidDigit
  | ['-'] => .error .invalidDigit
  | '+' :: cs => readDigits 1 .tooLarge 0 cs
  | '-' :: cs => readDigits (-1) .tooSmall 0 cs
  | cs => readDigits 1 .tooLarge 0 cs

end LineShell.Text
