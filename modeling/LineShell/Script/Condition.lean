import LineShell.Script.Arithmetic

/-! # Conditions

The expressions of `test`: questions about files, texts and numbers, joined by `-a`,
`-o`, `!` and parentheses.  A word that could be an operator is one only where an operand
is left for it.  What is true of files is asked through the parameters `holds` and
`relates`.
-/
namespace LineShell.Script
namespace Condition

/-- What a word is at the place where it stands. -/
inductive Role where
  | missing
  | operand
  | unary
  | binary
  | both
  | either
  | negation
  | opening
  | closing
  deriving DecidableEq, Repr

def unaries : List String :=
  ["-b", "-c", "-d", "-e", "-f", "-g", "-h", "-k", "-L", "-n", "-O", "-G", "-p", "-r", "-S", "-s",
   "-t", "-u", "-w", "-x", "-z"]

def binaries : List String :=
  ["=", "!=", "<", ">", "-eq", "-ne", "-lt", "-le", "-gt", "-ge", "-nt", "-ot", "-ef"]

def isUnary (cs : Octets) : Bool := unaries.any (·.toList == cs)

def isBinary (cs : Octets) : Bool := binaries.any (·.toList == cs)

/-- Whether a word with these behind it is an operand though it is spelled like a question. -/
def needsOperand : List Octets → Bool
  | [] => true
  | [_] => false
  | w :: _ => isBinary w

/-- The role of the first word. -/
def role : List Octets → Role
  | [] => .missing
  | w :: rest =>
    if isBinary w then .binary
    else if isUnary w then if needsOperand rest then .operand else .unary
    else
      match w with
      | ['-', 'a'] => .both
      | ['-', 'o'] => .either
      | ['!'] => .negation
      | ['('] => if rest.isEmpty then .operand else .opening
      | [')'] => .closing
      | _ => .operand

/-- The words from the one at hand on; a word that has been used stays at hand until the next
one is asked for.  An error is a message. -/
abbrev Eval (α : Type) := StateT (List Octets) (Except Octets) α

/-- The word at hand. -/
def word : Eval Octets := return (← get).head?.getD []

def advance : Eval Unit := modify List.tail

/-- The role of the next word. -/
def nextRole : Eval Role := return role (← get).tail

/-- Gives up, with the name of an operator if it has one. -/
def complain {α : Type} (operator : Octets) (text : String) : Eval α :=
  throw ((if operator.isEmpty then [] else operator ++ [':', ' ']) ++ Octets.ofString text)

/-- Reads a decimal number, blanks around it allowed. -/
def decimal? (cs : Octets) : Option Int :=
  let whole (cs : Octets) : Option Int :=
    let digits := cs.takeWhile Char.isDigit
    if !digits.isEmpty && (cs.drop digits.length).all Arithmetic.isBlank then
      some (Arithmetic.ofDigits 10 digits)
    else none
  let n : Option Int :=
    match cs.dropWhile Arithmetic.isBlank with
    | '-' :: rest => (whole rest).map (- ·)
    | '+' :: rest => whole rest
    | rest => whole rest
  n.filter fun n => Arithmetic.least ≤ n && n ≤ Arithmetic.greatest

/-- The number that an operand spells. -/
def integer (cs : Octets) : Eval Int := do
  match decimal? cs with
  | some n => return n
  | none => throw (Octets.ofString "Illegal number: " ++ cs)

section
variable (holds : String → Octets → Bool) (relates : String → Octets → Octets → Bool)

/-- The answer to a question with one operand.  Nothing is a terminal. -/
def ask (op operand : Octets) : Eval Bool := do
  match String.ofList op with
  | "-n" => return !operand.isEmpty
  | "-z" => return operand.isEmpty
  | "-t" => do
    let _ ← integer operand
    return false
  | question => return holds question operand

/-- The answer to a comparison. -/
def compare (a op b : Octets) : Eval Bool := do
  let numbers (test : Int → Int → Bool) : Eval Bool := return test (← integer a) (← integer b)
  match String.ofList op with
  | "=" => return a == b
  | "!=" => return a != b
  | "<" => return a < b
  | ">" => return b < a
  | "-eq" => numbers fun m n => m == n
  | "-ne" => numbers fun m n => m != n
  | "-lt" => numbers fun m n => m < n
  | "-le" => numbers fun m n => m ≤ n
  | "-gt" => numbers fun m n => m > n
  | "-ge" => numbers fun m n => m ≥ n
  | relation => return relates relation a b

mutual

/-- Reads what `-o` joins, from a word with a known role on. -/
def disjunction : Nat → Role → Eval Bool
  | 0, _ => return false
  | fuel + 1, r => do
    let a ← conjunction fuel r
    if (← nextRole) = .either then do
      advance
      advance
      let b ← disjunction fuel (role (← get))
      return a || b
    else return a

/-- Reads what `-a` joins. -/
def conjunction : Nat → Role → Eval Bool
  | 0, _ => return false
  | fuel + 1, r => do
    let a ← negation fuel r
    if (← nextRole) = .both then do
      advance
      advance
      let b ← conjunction fuel (role (← get))
      return a && b
    else return a

/-- Reads a primary with the negations before it. -/
def negation : Nat → Role → Eval Bool
  | 0, _ => return false
  | fuel + 1, r => do
    if r = .negation then do
      let next ← nextRole
      if next ≠ .missing then advance
      return !(← negation fuel next)
    else primary fuel r

/-- Reads a question, a comparison, a group or a text. -/
def primary : Nat → Role → Eval Bool
  | 0, _ => return false
  | fuel + 1, r => do
    match r with
    | .missing => return false
    | .opening => do
      advance
      let inner := role (← get)
      if inner = .closing then return false
      else do
        let value ← disjunction fuel inner
        advance
        if role (← get) = .closing then return value
        else complain [] "closing paren expected"
    | .unary => do
      let op ← word
      advance
      if (← get).isEmpty then complain op "argument expected" else ask holds op (← word)
    | _ => do
      let a ← word
      if (← nextRole) = .binary then do
        advance
        let op ← word
        advance
        if (← get).isEmpty then complain op "argument expected" else compare relates a op (← word)
      else return !a.isEmpty

end

/-- The answer to words of which the first has a known role, up to their end. -/
def whole (r : Role) (words : List Octets) : Except Octets Bool := do
  let all : Eval Bool := do
    let value ← disjunction holds relates (6 * words.length + 6) r
    match ← get with
    | last :: _ :: _ => complain last "unexpected operator"
    | _ => return value
  (all.run words).map Prod.fst

/-- The answer to a condition, to be turned around if it was `negated`.  The empty condition
does not hold.  Of three and four words, a comparison, the outermost parentheses or the
outermost negation are seen first. -/
def evaluateAs (negated : Bool) : List Octets → Except Octets Bool
  | [] => .ok negated
  | first :: rest =>
    let from' (r : Role) (ws : List Octets) : Except Octets Bool :=
      (whole holds relates r ws).map (· != negated)
    let few : Bool := rest.length == 2 || rest.length == 3
    if rest.length = 2 ∧ isBinary (rest.head?.getD []) then from' .operand (first :: rest)
    else if few ∧ first = ['('] ∧ rest.getLast? = some [')'] then
      from' (role rest.dropLast) rest.dropLast
    else if few ∧ first = ['!'] then evaluateAs true rest
    else from' (role (first :: rest)) (first :: rest)

/-- The answer to a condition. -/
def evaluate (words : List Octets) : Except Octets Bool := evaluateAs holds relates false words

end

end Condition
end LineShell.Script
