import LineShell.Script.Regular
import LineShell.Script.Tool.Basic

/-! # Expressions of words

`expr` computes with its words: numbers of any size, texts, and what a regular expression
takes of a text.  A word is a number wherever it can be one.
-/
namespace LineShell.Script
namespace Tool

/-- What an expression is worth. -/
inductive Worth where
  | number (n : Int)
  | text (cs : Octets)
  deriving DecidableEq, Repr

namespace Worth

/-- The number that a text spells. -/
def numberOf? (cs : Octets) : Option Int :=
  let value (ds : Octets) : Option Int :=
    if !ds.isEmpty && ds.all Char.isDigit then some (Octets.readNat ds) else none
  match cs with
  | '-' :: ds => (value ds).map (- ·)
  | ds => value ds

def number? : Worth → Option Int
  | .number n => some n
  | .text cs => numberOf? cs

def text' : Worth → Octets
  | .number n => Octets.ofInt n
  | .text cs => cs

/-- Whether it counts as nothing: the empty text, or zeros with or without a sign. -/
def isNull : Worth → Bool
  | .number n => n = 0
  | .text [] => true
  | .text ('-' :: cs) => !cs.isEmpty && cs.all (· = '0')
  | .text cs => cs.all (· = '0')

end Worth

namespace Expression

/-- The words of an expression: those left, and the one before them. -/
structure Words where
  before : Octets
  left : List Octets

/-- Evaluates while it reads words; an error is a message. -/
abbrev Eval (α : Type) := StateT Words (Except Octets) α

def fail {α : Type} (text : String) (about : Octets) : Eval α :=
  throw (Octets.ofString text ++ about)

def peek : Eval (Option Octets) := return (← get).left.head?

/-- Passes the next word if it is a certain one. -/
def pass (w : String) : Eval Bool := do
  match (← get).left with
  | next :: left =>
    if next = w.toList then
      set (⟨next, left⟩ : Words)
      return true
    else return false
  | [] => return false

/-- The next word, which has to be there. -/
def next : Eval Octets := do
  match (← get).left with
  | w :: left => do
    set (⟨w, left⟩ : Words)
    return w
  | [] => fail "syntax error: missing argument after " (cited (← get).before)

/-- Passes one of some operators. -/
def operator? : List String → Eval (Option String)
  | [] => return none
  | o :: os => do if ← pass o then return some o else operator? os

/-- The number that an operand is worth. -/
def number (w : Worth) : Eval Int := do
  match w.number? with
  | some n => return n
  | none => throw (Octets.ofString "non-integer argument")

/-- The answer to a comparison: of numbers if both are, and else of texts. -/
def compare (o : String) (a b : Worth) : Bool :=
  let order : Ordering :=
    match a.number?, b.number? with
    | some m, some n => Ord.compare m n
    | _, _ => if a.text' = b.text' then .eq else if a.text' < b.text' then .lt else .gt
  match o with
  | "<" => order == .lt
  | "<=" => order != .gt
  | ">" => order == .gt
  | ">=" => order != .lt
  | "!=" => order != .eq
  | _ => order == .eq

/-- The value of an operation on numbers. -/
def calculate (o : String) (a b : Int) : Eval Worth := do
  match o with
  | "+" => return .number (a + b)
  | "-" => return .number (a - b)
  | "*" => return .number (a * b)
  | _ =>
    if b = 0 then throw (Octets.ofString "division by zero")
    else return .number (if o = "/" then a.tdiv b else a.tmod b)

/-- What a regular expression takes of a text: the first group if there is one, and else how
much. -/
def taken (text expression : Octets) : Eval Worth := do
  match Regular.ofOctets expression with
  | .error flaw => fail flaw.message []
  | .ok (r, groups) =>
    match r.longest? text with
    | some t => return if groups = 0 then .number t.length else .text ((t.groups.lookup 1).getD [])
    | none => return if groups = 0 then .number 0 else .text []

/-- The position of the first character of a text that is among others, from one on. -/
def index (text among : Octets) : Nat :=
  let before := text.takeWhile fun c => !among.contains c
  if before.length < text.length then before.length + 1 else 0

/-- A part of a text from a position on. -/
def part (text : Octets) (position length : Option Int) : Octets :=
  match position, length with
  | some p, some n => if 0 < p ∧ 0 < n then (text.drop (p.toNat - 1)).take n.toNat else []
  | _, _ => []

/-- The levels of binary operators, the weakest first. -/
def levels : List (List String) :=
  [["|"], ["&"], ["<", "<=", "==", "=", "!=", ">=", ">"], ["+", "-"], ["*", "/", "%"], [":"]]

/-- The value of a binary operation.  What is not `live` is read without effect. -/
def apply (live : Bool) (o : String) (a b : Worth) : Eval Worth := do
  match o with
  | "|" => return if !a.isNull then a else if b.isNull then .number 0 else b
  | "&" => return if a.isNull || b.isNull then .number 0 else a
  | ":" => if live then taken a.text' b.text' else return a
  | "+" | "-" | "*" | "/" | "%" =>
    if live then calculate o (← number a) (← number b) else return a
  | _ => return if live then .number (if compare o a b then 1 else 0) else a

mutual

/-- Reads an expression whose operators are of some levels. -/
def level : Nat → Bool → List (List String) → Eval Worth
  | 0, _, _ => throw []
  | fuel + 1, live, [] => primary fuel live
  | fuel + 1, live, operators :: stronger => do
    let first ← level fuel live stronger
    operations fuel live operators stronger first

/-- Goes on from a left operand with the operators of a level. -/
def operations : Nat → Bool → List String → List (List String) → Worth → Eval Worth
  | 0, _, _, _, _ => throw []
  | fuel + 1, live, operators, stronger, left => do
    match ← operator? operators with
    | none => return left
    | some o => do
      let needed : Bool := !((o == "|" && !left.isNull) || (o == "&" && left.isNull))
      let right ← level fuel (live && needed) stronger
      operations fuel live operators stronger (← apply live o left right)

/-- Reads a word, a function of texts, or an expression in parentheses. -/
def primary : Nat → Bool → Eval Worth
  | 0, _ => throw []
  | fuel + 1, live => do
    if ← pass "+" then return .text (← next)
    else if ← pass "length" then
      return .number (← primary fuel live).text'.length
    else if ← pass "match" then do
      let text ← primary fuel live
      let expression ← primary fuel live
      if live then taken text.text' expression.text' else return text
    else if ← pass "index" then do
      let text ← primary fuel live
      let among ← primary fuel live
      return .number (index text.text' among.text')
    else if ← pass "substr" then do
      let text ← primary fuel live
      let position ← primary fuel live
      let length ← primary fuel live
      return .text (part text.text' position.number? length.number?)
    else if ← pass "(" then do
      let value ← level fuel live levels
      match ← peek with
      | none => fail "syntax error: expecting ')' after " (cited (← get).before)
      | some w =>
        if ← pass ")" then return value
        else fail "syntax error: expecting ')' instead of " (cited w)
    else if ← pass ")" then fail "syntax error: unexpected ')'" []
    else return .text (← next)

end

/-- The value of words. -/
def evaluate (words : List Octets) : Except Octets Worth := do
  let all : Eval Worth := do
    let value ← level (10 * (words.length + 1)) true levels
    match ← peek with
    | none => return value
    | some w => fail "syntax error: unexpected argument " (cited w)
  (all.run ⟨"expr".toList, words⟩).map Prod.fst

end Expression

/-- Evaluates its words; the status tells nothing from something. -/
def expr : Tool := fun words => do
  match if words.head? = some ['-', '-'] then words.tail else words with
  | [] => misused 2 (Octets.ofString "missing operand")
  | words =>
    match Expression.evaluate words with
    | .ok value =>
      let written ← put (value.text' ++ ['\n'])
      return if written ≠ 0 then written else if value.isNull then 1 else 0
    | .error message =>
      report message
      return 2

end Tool
end LineShell.Script
