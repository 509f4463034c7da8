import LineShell.Script.Syntax

/-! # Arithmetic

The expressions between `$((` and `))`: integers of 64 bits that wrap, variables, and the
operators of C.  An expression is evaluated while it is read.  What is not evaluated,
such as the second operand of `&&` after a zero, is read all the same, without effect.
-/
namespace LineShell.Script
namespace Arithmetic

/-- A token of an expression. -/
inductive Lexeme where
  | number (n : Int)
  | name (name : Octets)
  | operator (text : String)
  deriving DecidableEq, Repr

/-- Why an expression has no value. -/
inductive Trouble where
  | expecting (what : String)
  | divisionByZero
  /-- The least number is divided by minus one, which no processor does. -/
  | overflow
  | illegalNumber (text : Octets)
  deriving DecidableEq, Repr

/-- How many numbers there are of 64 bits. -/
def modulus : Nat := 0x10000000000000000

/-- The greatest and the least of them. -/
def greatest : Int := 0x7FFFFFFFFFFFFFFF

def least : Int := -0x8000000000000000

/-- Keeps the lowest 64 bits, as a signed number. -/
def wrap (n : Int) : Int := n.bmod modulus

/-- The operators, each before those that it begins with. -/
def operators : List String :=
  ["<<=", ">>=", "<<", ">>", "<=", ">=", "==", "!=", "&&", "||", "+=", "-=", "*=", "/=", "%=",
   "&=", "|=", "^=", "+", "-", "*", "/", "%", "&", "|", "^", "~", "!", "<", ">", "=", "?", ":",
   "(", ")"]

/-- The value of digits in a base. -/
def ofDigits (base : Nat) (cs : Octets) : Int :=
  cs.foldl (fun n c => n * base + Octets.digitValue c) 0

def isHexDigit (c : Char) : Bool := c.isDigit || ('a' ≤ c && c ≤ 'f') || ('A' ≤ c && c ≤ 'F')

def isOctalDigit (c : Char) : Bool := '0' ≤ c && c ≤ '7'

/-- The number at the beginning of a text, in base 10, or 8 or 16 after `0` or `0x`. -/
def number? (cs : Octets) : Option (Int × Octets) :=
  match cs with
  | '0' :: x :: c :: rest =>
    if (x = 'x' ∨ x = 'X') ∧ isHexDigit c then
      some (ofDigits 16 ((c :: rest).takeWhile isHexDigit), (c :: rest).dropWhile isHexDigit)
    else some (ofDigits 8 (cs.takeWhile isOctalDigit), cs.dropWhile isOctalDigit)
  | '0' :: _ => some (ofDigits 8 (cs.takeWhile isOctalDigit), cs.dropWhile isOctalDigit)
  | c :: _ =>
    if c.isDigit then some (ofDigits 10 (cs.takeWhile Char.isDigit), cs.dropWhile Char.isDigit)
    else none
  | [] => none

def isBlank (c : Char) : Bool := c = ' ' || ('\t' ≤ c && c ≤ '\r')

/-- Reads a whole signed number, blanks around it allowed. -/
def signed? (cs : Octets) : Option Int :=
  let whole (cs : Octets) : Option Int :=
    match number? cs with
    | some (n, rest) => if rest.all isBlank then some n else none
    | none => none
  match cs.dropWhile isBlank with
  | '-' :: rest => (whole rest).map (- ·)
  | '+' :: rest => whole rest
  | rest => whole rest

/-- Cuts an expression into tokens; any other character is an operator that there is none of. -/
def lexemes : Nat → Octets → Except Trouble (List Lexeme)
  | 0, _ => .ok []
  | _, [] => .ok []
  | fuel + 1, c :: rest =>
    if isBlank c then lexemes fuel rest
    else if isNameStart c then do
      let cs := c :: rest
      return .name (cs.takeWhile isNameChar) :: (← lexemes fuel (cs.dropWhile isNameChar))
    else match number? (c :: rest) with
      | some (n, after) => do return .number (min n greatest) :: (← lexemes fuel after)
      | none =>
        match operators.find? fun o => o.toList.isPrefixOf (c :: rest) with
        | some o => do
          return .operator o :: (← lexemes fuel ((c :: rest).drop o.length))
        | none => do return .operator (String.singleton c) :: (← lexemes fuel rest)

/-- The strength of a binary operator; a stronger one binds its operands first. -/
def strength : String → Option Nat
  | "||" => some 1
  | "&&" => some 2
  | "|" => some 3
  | "^" => some 4
  | "&" => some 5
  | "==" | "!=" => some 6
  | "<" | ">" | "<=" | ">=" => some 7
  | "<<" | ">>" => some 8
  | "+" | "-" => some 9
  | "*" | "/" | "%" => some 10
  | _ => none

def truth (b : Bool) : Int := if b then 1 else 0

/-- The bits of a number, as a natural number. -/
def bits (n : Int) : Nat := (n % modulus).toNat

/-- Whether a division can be carried out. -/
def mayDivide (a b : Int) : Except Trouble Unit :=
  if b = 0 then .error .divisionByZero
  else if a = least ∧ b = -1 then .error .overflow
  else .ok ()

/-- The value of a binary operation. -/
def apply (op : String) (a b : Int) : Except Trouble Int :=
  match op with
  | "||" => .ok (truth (a != 0 || b != 0))
  | "&&" => .ok (truth (a != 0 && b != 0))
  | "|" => .ok (wrap (bits a ||| bits b))
  | "^" => .ok (wrap (bits a ^^^ bits b))
  | "&" => .ok (wrap (bits a &&& bits b))
  | "==" => .ok (truth (a == b))
  | "!=" => .ok (truth (a != b))
  | "<" => .ok (truth (a < b))
  | ">" => .ok (truth (a > b))
  | "<=" => .ok (truth (a ≤ b))
  | ">=" => .ok (truth (a ≥ b))
  | "<<" => .ok (wrap (a * Nat.pow 2 (bits b % 64)))
  | ">>" => .ok (a / Nat.pow 2 (bits b % 64))
  | "+" => .ok (wrap (a + b))
  | "-" => .ok (wrap (a - b))
  | "*" => .ok (wrap (a * b))
  | "/" => (mayDivide a b).map fun _ => a.tdiv b
  | "%" => (mayDivide a b).map fun _ => a.tmod b
  | _ => .error (.expecting "EOF")

/-- The variables that an expression has assigned, the last first, and what is left of the
expression. -/
structure Progress where
  assigned : List (Octets × Int)
  rest : List Lexeme

/-- Evaluates while it reads. -/
abbrev Eval (α : Type) := StateT Progress (Except Trouble) α

/-- The operators that assign, with the operation on the old value. -/
def assigning : String → Option (Option String)
  | "=" => some none
  | "+=" => some (some "+")
  | "-=" => some (some "-")
  | "*=" => some (some "*")
  | "/=" => some (some "/")
  | "%=" => some (some "%")
  | "&=" => some (some "&")
  | "|=" => some (some "|")
  | "^=" => some (some "^")
  | "<<=" => some (some "<<")
  | ">>=" => some (some ">>")
  | _ => none

def skip : Eval Unit := modify fun p => { p with rest := p.rest.tail }

section
variable (valueOf : Octets → Option Octets)

/-- The value of a variable; one without a value, or with a blank one, is zero. -/
def lookUp (live : Bool) (name : Octets) : Eval Int := do
  if !live then return 0
  match (← get).assigned.lookup name with
  | some n => return n
  | none =>
    match valueOf name with
    | none => return 0
    | some text =>
      if text.all isBlank then return 0
      else
        match signed? text with
        | some n =>
          if least ≤ n ∧ n ≤ greatest then return n else throw (.illegalNumber text)
        | none => throw (.illegalNumber text)

mutual

/-- Evaluates an assignment or anything stronger. -/
def expression : Nat → Bool → Eval Int
  | 0, _ => throw (.expecting "primary")
  | fuel + 1, live => do
    match (← get).rest with
    | .name name :: .operator op :: rest =>
      match assigning op with
      | some old => do
        modify fun p => { p with rest }
        let right ← expression fuel live
        let value ←
          match old with
          | none => pure right
          | some op => do
            let left ← lookUp valueOf live name
            if live then liftM (apply op left right) else pure 0
        if live then modify fun p => { p with assigned := (name, value) :: p.assigned }
        return value
      | none => conditional fuel live
    | _ => conditional fuel live

/-- Evaluates a choice or anything stronger. -/
def conditional : Nat → Bool → Eval Int
  | 0, _ => throw (.expecting "primary")
  | fuel + 1, live => do
    let left ← operand fuel live
    let test ← binary fuel live 1 left
    match (← get).rest with
    | .operator "?" :: _ => do
      skip
      let a ← expression fuel (live && test != 0)
      match (← get).rest with
      | .operator ":" :: _ => do
        skip
        let b ← conditional fuel (live && test == 0)
        return if test != 0 then a else b
      | _ => throw (.expecting "':'")
    | _ => return test

/-- Goes on from the left operand with the operators of at least some strength. -/
def binary : Nat → Bool → Nat → Int → Eval Int
  | 0, _, _, left => return left
  | fuel + 1, live, least, left => do
    match (← get).rest with
    | .operator op :: _ =>
      match strength op with
      | some s =>
        if s < least then return left
        else do
          skip
          let decided := (op == "&&" && left == 0) || (op == "||" && left != 0)
          let live' := live && !decided
          let first ← operand fuel live'
          let right ← binary fuel live' (s + 1) first
          let value ←
            if live' then liftM (apply op left right)
            else pure (if live then truth (op == "||") else 0)
          binary fuel live least value
      | none => return left
    | _ => return left

/-- Evaluates a primary with the signs before it. -/
def operand : Nat → Bool → Eval Int
  | 0, _ => throw (.expecting "primary")
  | fuel + 1, live => do
    match (← get).rest with
    | .number n :: _ => do
      skip
      return n
    | .name name :: _ => do
      skip
      lookUp valueOf live name
    | .operator "-" :: _ => do
      skip
      return wrap (-(← operand fuel live))
    | .operator "+" :: _ => do
      skip
      operand fuel live
    | .operator "!" :: _ => do
      skip
      return truth ((← operand fuel live) == 0)
    | .operator "~" :: _ => do
      skip
      return -1 - (← operand fuel live)
    | .operator "(" :: _ => do
      skip
      let value ← expression fuel live
      match (← get).rest with
      | .operator ")" :: _ => do
        skip
        return value
      | _ => throw (.expecting "')'")
    | _ => throw (.expecting "primary")

end

/-- The value of an expression, and the variables that it assigns, the last first. -/
def evaluate (cs : Octets) : Except Trouble (Int × List (Octets × Int)) := do
  let ls ← lexemes cs.length cs
  let (value, p) ← (expression valueOf (4 * ls.length + 4) true).run ⟨[], ls⟩
  if p.rest.isEmpty then return (value, p.assigned)
  else throw (.expecting "EOF")

end

/-- The message about an expression that has no value. -/
def Trouble.message (cs : Octets) : Trouble → Octets
  | .expecting what =>
    Octets.ofString ("arithmetic expression: expecting " ++ what ++ ": \"") ++ cs ++ ['"']
  | .divisionByZero =>
    Octets.ofString "arithmetic expression: division by zero: \"" ++ cs ++ ['"']
  | .overflow => []
  | .illegalNumber text => Octets.ofString "Illegal number: " ++ text

end Arithmetic
end LineShell.Script
