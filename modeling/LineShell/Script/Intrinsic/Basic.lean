import LineShell.Script.Machine

/-! # The commands that belong to the interpreter of scripts

Some command names of a script are no programs but work of the interpreter itself, on its
own variables, directory and descriptors.  A fault in one of them ends a script only if the
intrinsic is special.
-/
namespace LineShell.Script

/-- A command of the interpreter: what it does with the words after its name. -/
abbrev Intrinsic := List Octets → Action Nat

namespace Intrinsic
open LineShell.Script.Action

/-- Writes to the output; a refusal is reported, and makes the intrinsic fail. -/
def emit (cs : Octets) : Action Nat := do
  match ← write 1 cs with
  | none => return 0
  | some _ =>
    let name := ((← process).intrinsic).getD []
    warn (name ++ Octets.ofString ": I/O error")
    return 1

/-- The number that a word spells. -/
def numberOf (w : Octets) : Action Nat := do
  match number? w with
  | some n => return n
  | none => illegal w

/-- The number that is the first word, if there is one. -/
def firstNumber? (words : List Octets) : Action (Option Nat) := do
  match words with
  | [] => return none
  | w :: _ => return some (← numberOf w)

/-- The options in the letters of one word, and the one whose value is still to come. -/
def letterOptions (plain valued : List Char) : Octets →
    Action (List (Char × Octets) × Option Char)
  | [] => return ([], none)
  | c :: cs => do
    if valued.contains c then return if cs.isEmpty then ([], some c) else ([(c, cs)], none)
    else if plain.contains c then
      let (more, pending) ← letterOptions plain valued cs
      return ((c, []) :: more, pending)
    else fault (Octets.ofString "Illegal option -" ++ [c])

/-- The options at the beginning of words, and the words behind them.  A valued option takes
the rest of its word, or the next one. -/
def optionsIn (plain valued : List Char) : List Octets →
    Action (List (Char × Octets) × List Octets)
  | ['-', '-'] :: rest => return ([], rest)
  | ('-' :: c :: cs) :: rest => do
    let (here, pending) ← letterOptions plain valued (c :: cs)
    match pending with
    | none =>
      let (more, words) ← optionsIn plain valued rest
      return (here ++ more, words)
    | some c =>
      match rest with
      | [] => fault (Octets.ofString "No arg for -" ++ c :: Octets.ofString " option")
      | value :: rest =>
        let (more, words) ← optionsIn plain valued rest
        return (here ++ (c, value) :: more, words)
  | words => return ([], words)

/-- The options and the words behind them, of which the letters are given in texts. -/
def options (plain valued : String) (words : List Octets) :
    Action (List (Char × Octets) × List Octets) :=
  optionsIn plain.toList valued.toList words

/-- The words of an intrinsic that has no options. -/
def operands (words : List Octets) : Action (List Octets) := return (← options "" "" words).2

/-- Whether an option was given. -/
def has (os : List (Char × Octets)) (c : Char) : Bool := os.any (·.1 == c)

/-- A value in a form that can be read back: quotes are put between double quotes, and all
else between single ones. -/
def requotedUpTo : Nat → Octets → Octets
  | 0, _ => []
  | fuel + 1, cs =>
    let plain := cs.takeWhile (· ≠ '\'')
    let after := cs.drop plain.length
    let quotes := after.takeWhile (· = '\'')
    let here := ['\''] ++ plain ++ ['\'']
    if quotes.isEmpty then here
    else
      let here := here ++ ['"'] ++ quotes ++ ['"']
      match after.drop quotes.length with
      | [] => here
      | rest => here ++ requotedUpTo fuel rest

def requoted (cs : Octets) : Octets := requotedUpTo (cs.length + 1) cs

/-- The place of a name in a table of so many lists. -/
def bucket (lists : Nat) (name : Octets) : Nat :=
  let first := (name.head?.map Char.toNat).getD 0
  name.foldl (fun n c => n + c.toNat) (first * 16) % 0x8000 % lists

/-- Entries in the order of a table of so many lists, each of which keeps theirs. -/
def inBuckets {α : Type} (lists : Nat) (nameOf : α → Octets) (entries : List α) : List α :=
  (List.range lists).flatMap fun n => entries.filter fun e => bucket lists (nameOf e) = n

end Intrinsic
end LineShell.Script
