import LineShell.Script.Pattern

/-! # Regular expressions

Basic regular expressions: `*` repeats what is before it, `\(` and `\)` enclose a group, and
`\1` stands for what the first group has taken.  A text is compared from its beginning on,
and of the parts that fit the longest is taken.
-/
namespace LineShell.Script

/-- A regular expression. -/
inductive Regular where
  | empty
  | one (e : Element)
  /-- The end of the text. -/
  | finish
  /-- A beginning of the text, of which there is only one. -/
  | start
  | both (a b : Regular)
  | either (a b : Regular)
  | group (n : Nat) (body : Regular)
  /-- What a group has taken. -/
  | again (n : Nat)
  | repeated (least : Nat) (most : Option Nat) (body : Regular)
  deriving DecidableEq, Repr

namespace Regular

/-- A text of which a beginning was taken: how much, what is left, and what the groups have
taken. -/
structure Taken where
  length : Nat := 0
  rest : Octets
  groups : List (Nat × Octets) := []
  deriving DecidableEq, Repr

/-- Takes some characters. -/
def Taken.advance (t : Taken) (n : Nat) : Taken :=
  { t with length := t.length + n, rest := t.rest.drop n }

/-- All that an expression can take, what it would rather take first. -/
def ways : Nat → Regular → Taken → List Taken
  | 0, _, _ => []
  | fuel + 1, r, t =>
    match r with
    | .empty => [t]
    | .one e =>
      match t.rest with
      | c :: _ => if Pattern.admits e c then [t.advance 1] else []
      | [] => []
    | .finish => if t.rest.isEmpty then [t] else []
    | .start => if t.length = 0 then [t] else []
    | .both a b => (ways fuel a t).flatMap (ways fuel b)
    | .either a b => ways fuel a t ++ ways fuel b t
    | .group n body =>
      (ways fuel body t).map fun u =>
        { u with groups := (n, t.rest.take (u.length - t.length)) :: u.groups }
    | .again n =>
      match t.groups.lookup n with
      | some cs => if cs.isPrefixOf t.rest then [t.advance cs.length] else []
      | none => []
    | .repeated least most body =>
      let once : List Taken :=
        if most = some 0 then []
        else
          (ways fuel body t).flatMap fun u =>
            if u.length = t.length ∧ least = 0 then []
            else ways fuel (.repeated (least - 1) (most.map (· - 1)) body) u
      if least = 0 then once ++ [t] else once

/-- The number of parts of an expression. -/
def size : Regular → Nat
  | .both a b | .either a b => a.size + b.size + 1
  | .group _ body => body.size + 1
  | .repeated least _ body => body.size + least + 1
  | _ => 1

/-- The longest beginning of a text that an expression can take. -/
def longest? (r : Regular) (text : Octets) : Option Taken :=
  (ways ((r.size + 1) * (text.length + 2)) r { rest := text }).foldl
    (fun best t =>
      match best with
      | some b => if b.length < t.length then some t else some b
      | none => some t) none

/-! ## Reading -/

/-- Why a text is no regular expression. -/
inductive Flaw where
  | openGroup
  | closedGroup
  | openSet
  | openRange
  | range
  | reference
  | trailingBackslash
  deriving DecidableEq, Repr

def Flaw.message : Flaw → String
  | .openGroup => "Unmatched ( or \\("
  | .closedGroup => "Unmatched ) or \\)"
  | .openSet => "Unmatched [, [^, [:, [., or [="
  | .openRange => "Unmatched \\\x7b"
  | .range => "Invalid content of \\\x7b\\\x7d"
  | .reference => "Invalid back reference"
  | .trailingBackslash => "Trailing backslash"

/-- An expression that is being read: what is left of the text, and how many groups have
begun and are closed. -/
structure Reading where
  rest : Octets
  groups : Nat := 0
  closed : List Nat := []

abbrev Read (α : Type) := StateT Reading (Except Flaw) α

def setRest (rest : Octets) : Read Unit := modify fun s => { s with rest }

/-- Reads the members of a set behind its bracket. -/
def set (rest : Octets) : Read Regular := do
  let (negated, body) : Bool × Octets :=
    match rest with
    | '^' :: body => (true, body)
    | _ => (false, rest)
  match Pattern.ranges true (body.length + 1) (body.map fun c => ⟨c, false⟩) with
  | some (ranges, after) => do
    setRest (after.map Glyph.char)
    return .one (.among negated ranges)
  | none => throw .openSet

/-- Reads the bounds of a repetition behind its brace. -/
def bounds (rest : Octets) : Read (Nat × Option Nat) := do
  let least := rest.takeWhile Char.isDigit
  let after := rest.drop least.length
  let (most, after) : Option Nat × Octets :=
    match after with
    | ',' :: after =>
      let most := after.takeWhile Char.isDigit
      (if most.isEmpty then none else some (Octets.readNat most), after.drop most.length)
    | _ => (some (Octets.readNat least), after)
  match after with
  | '\\' :: '\x7d' :: after =>
    if least.isEmpty && most.isNone then throw .range
    if (most.map fun m => decide (m < Octets.readNat least)).getD false then throw .range
    setRest after
    return (Octets.readNat least, most)
  | [] | ['\\'] => throw .openRange
  | _ => throw .range

/-- Reads how often an expression is repeated. -/
def repetition : Nat → Regular → Read Regular
  | 0, r => return r
  | fuel + 1, r => do
    match (← get).rest with
    | '*' :: rest => do
      setRest rest
      repetition fuel (.repeated 0 none r)
    | '\\' :: '+' :: rest => do
      setRest rest
      repetition fuel (.repeated 1 none r)
    | '\\' :: '?' :: rest => do
      setRest rest
      repetition fuel (.repeated 0 (some 1) r)
    | '\\' :: '\x7b' :: rest => do
      let (least, most) ← bounds rest
      repetition fuel (.repeated least most r)
    | _ => return r

/-- Whether an expression ends here. -/
def isEnd (inGroup : Bool) : Octets → Bool
  | [] => true
  | '\\' :: ')' :: _ => inGroup
  | '\\' :: '|' :: _ => true
  | _ => false

mutual

/-- Reads alternatives. -/
def alternatives : Nat → Bool → Read Regular
  | 0, _ => return .empty
  | fuel + 1, inGroup => do
    let first ← series fuel inGroup true .empty
    match (← get).rest with
    | '\\' :: '|' :: rest => do
      setRest rest
      return .either first (← alternatives fuel inGroup)
    | _ => return first

/-- Reads a series of repeated parts, of which some are read.  A star that comes first stands
for itself. -/
def series : Nat → Bool → Bool → Regular → Read Regular
  | 0, _, _, read => return read
  | fuel + 1, inGroup, isFirst, read => do
    let rest := (← get).rest
    let go (r : Regular) : Read Regular := do
      let r ← repetition (← get).rest.length r
      series fuel inGroup false (.both read r)
    if isEnd inGroup rest then return read
    else
      match rest with
      | '^' :: rest => do
        setRest rest
        if isFirst then series fuel inGroup true (.both read .start) else go (.one (.one '^'))
      | '$' :: rest => do
        setRest rest
        if isEnd inGroup rest then series fuel inGroup false (.both read .finish)
        else go (.one (.one '$'))
      | '.' :: rest => do
        setRest rest
        go (.one .any)
      | '[' :: rest => do go (← set rest)
      | '\\' :: '(' :: rest => do
        let n := (← get).groups + 1
        modify fun s => { s with rest, groups := n }
        let body ← alternatives fuel true
        match (← get).rest with
        | '\\' :: ')' :: rest => do
          modify fun s => { s with rest, closed := n :: s.closed }
          go (.group n body)
        | _ => throw .openGroup
      | '\\' :: ')' :: _ => throw .closedGroup
      | ['\\'] => throw .trailingBackslash
      | '\\' :: c :: rest => do
        setRest rest
        if '1' ≤ c ∧ c ≤ '9' then
          let n := Octets.readNat [c]
          if (← get).closed.contains n then go (.again n) else throw .reference
        else go (.one (.one c))
      | c :: rest => do
        setRest rest
        go (.one (.one c))
      | [] => return read

end

/-- The expression that a text spells, and how many groups it has. -/
def ofOctets (text : Octets) : Except Flaw (Regular × Nat) := do
  let (r, s) ← (alternatives (3 * text.length + 3) false).run { rest := text }
  return (r, s.groups)

end Regular
end LineShell.Script
