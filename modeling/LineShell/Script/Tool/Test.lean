import LineShell.Script.Intrinsic.Output
import LineShell.Script.Tool.Basic

/-! # The conditions of the tool `test`

The tool reads its words otherwise than the interpreter: what up to four words mean depends
on their number alone, and only from five on is there a grammar.
-/
namespace LineShell.Script
namespace Tool
namespace Test

/-- The words that are left, and the last of all. -/
structure Words where
  left : List Octets
  last : Octets

/-- Evaluates while it reads words; an error is a message. -/
abbrev Eval (α : Type) := StateT Words (Except Octets) α

/-- Gives up because no word is left. -/
def beyond {α : Type} : Eval α := do
  throw (Octets.ofString "missing argument after " ++ cited (← get).last)

/-- The next word. -/
def next : Eval Octets := do
  match (← get).left with
  | w :: left => do
    modify fun s => { s with left }
    return w
  | [] => beyond

/-- Passes the next word if it is a certain one. -/
def pass (w : String) : Eval Bool := do
  if (← get).left.head? = some w.toList then do
    let _ ← next
    return true
  else return false

def comparisons : List String :=
  ["=", "==", "!=", "<", ">", "-eq", "-ne", "-lt", "-le", "-gt", "-ge", "-nt", "-ot", "-ef"]

def isComparison (w : Octets) : Bool := comparisons.any (·.toList == w)

/-- Whether a word is a dash and a letter. -/
def isQuestion : Octets → Bool
  | ['-', _] => true
  | _ => false

def integer (w : Octets) : Eval Int := do
  match Condition.decimal? w with
  | some n => return n
  | none => throw (Octets.ofString "invalid integer " ++ cited w)

section
variable (holds : String → Octets → Bool) (relates : String → Octets → Octets → Bool)

/-- A comparison of the next words. -/
def comparison : Eval Bool := do
  let a ← next
  let o ← next
  let b ← next
  let numbers (test : Int → Int → Bool) : Eval Bool := return test (← integer a) (← integer b)
  match String.ofList o with
  | "=" | "==" => return a == b
  | "!=" => return a != b
  | "<" => return a < b
  | ">" => return b < a
  | "-eq" => numbers fun m n => m == n
  | "-ne" => numbers fun m n => m != n
  | "-lt" => numbers fun m n => m < n
  | "-le" => numbers fun m n => m ≤ n
  | "-gt" => numbers fun m n => m > n
  | "-ge" => numbers fun m n => m ≥ n
  | relation => return relates relation a b

/-- A question about the next words. -/
def question : Eval Bool := do
  let o ← next
  match String.ofList o with
  | "-n" => return !(← next).isEmpty
  | "-z" => return (← next).isEmpty
  | "-t" => do
    let _ ← integer (← next)
    return false
  | text =>
    if Condition.isUnary o || o = "-N".toList then return holds text (← next)
    else throw (cited o ++ Octets.ofString ": unary operator expected")

/-- What one, two and three words mean. -/
def one : Eval Bool := return !(← next).isEmpty

def two : Eval Bool := do
  if ← pass "!" then return !(← one)
  else if ((← get).left.head?.map isQuestion).getD false then question holds
  else beyond

mutual

/-- Reads what `-o` joins. -/
def disjunction : Nat → Eval Bool
  | 0 => beyond
  | fuel + 1 => do
    let a ← conjunction fuel
    if ← pass "-o" then do
      let b ← disjunction fuel
      return a || b
    else return a

/-- Reads what `-a` joins. -/
def conjunction : Nat → Eval Bool
  | 0 => beyond
  | fuel + 1 => do
    let a ← term fuel
    if ← pass "-a" then do
      let b ← conjunction fuel
      return a && b
    else return a

/-- Reads a group, a comparison, a question or a text, with the negations before it. -/
def term : Nat → Eval Bool
  | 0 => beyond
  | fuel + 1 => do
    if ← pass "!" then return !(← term fuel)
    else
      match (← get).left with
      | [] => beyond
      | ['('] :: inner => do
        let _ ← next
        if inner.isEmpty then beyond
        -- what is before the parenthesis counts, if that is not too far away
        let near := 1 + (inner.tail.takeWhile (· ≠ [')'])).length
        let value ← several fuel (if near ≤ 4 then near else inner.length)
        match (← get).left with
        | [] => throw (cited [')'] ++ Octets.ofString " expected")
        | w :: _ =>
          if ← pass ")" then return value
          else throw (cited [')'] ++ Octets.ofString " expected, found " ++ cited w)
      | w :: rest =>
        if 2 ≤ rest.length ∧ isComparison (rest.head?.getD []) then comparison relates
        else if isQuestion w then question holds
        else one

/-- What three words mean. -/
def three : Nat → Eval Bool
  | 0 => beyond
  | fuel + 1 => do
    match (← get).left with
    | a :: o :: b :: _ =>
      if isComparison o then comparison relates
      else if a = ['!'] then do
        let _ ← next
        return !(← two holds)
      else if a = ['('] ∧ b = [')'] then do
        let _ ← next
        let value ← one
        let _ ← next
        return value
      else if o = ['-', 'a'] ∨ o = ['-', 'o'] then disjunction fuel
      else throw (cited o ++ Octets.ofString ": binary operator expected")
    | _ => beyond

/-- What a number of words mean. -/
def several : Nat → Nat → Eval Bool
  | 0, _ => beyond
  | fuel + 1, n => do
    match n with
    | 1 => one
    | 2 => two holds
    | 3 => three fuel
    | 4 => do
      let words := (← get).left
      if words.head? = some ['!'] then do
        let _ ← next
        return !(← three fuel)
      else if words.head? = some ['('] ∧ words[3]? = some [')'] then do
        let _ ← next
        let value ← two holds
        let _ ← next
        return value
      else disjunction fuel
    | _ => disjunction fuel

end

/-- The answer to words. -/
def evaluate (words : List Octets) : Except Octets Bool := do
  if words.isEmpty then return false
  let all : Eval Bool := do
    let value ← several holds relates (8 * words.length + 8) words.length
    match (← get).left with
    | [] => return value
    | extra :: _ => throw (Octets.ofString "extra argument " ++ cited extra)
  (all.run ⟨words, words.getLast?.getD []⟩).map Prod.fst

end

end Test
open LineShell.Script.Action

/-- Answers a condition with a status. -/
def test : Tool := fun words => do
  let m ← get
  let start := m.current.directory
  match Test.evaluate (Intrinsic.holds m.files start) (Intrinsic.relates m.files start) words with
  | .ok true => return 0
  | .ok false => return 1
  | .error message =>
    report message
    return 2

def bracket : Tool := fun words => do
  if words.getLast? == some [']'] then test words.dropLast
  else
    report (Octets.ofString "missing " ++ cited [']'])
    return 2

end Tool
end LineShell.Script
