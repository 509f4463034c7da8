import LineShell.Script.Expansion
import LineShell.Script.Intrinsic.Basic

/-! # Intrinsics that read

`read` takes a line from the input, and `getopts` an option from the arguments.
-/
namespace LineShell.Script
namespace Intrinsic
open LineShell.Script.Action

/-- The pieces of a line that is read, and whether the next line belongs to it.  Unless the
line is `raw`, a backslash keeps the next character from being a separator. -/
def lineBits (raw : Bool) : Octets → List Bit × Bool
  | [] => ([], false)
  | '\\' :: cs =>
    if raw then
      let (more, goesOn) := lineBits raw cs
      (.glyph ⟨'\\', false⟩ :: more, goesOn)
    else
      match cs with
      | [] => ([], true)
      | c :: cs =>
        let (more, goesOn) := lineBits raw cs
        ([.closing, .glyph ⟨c, true⟩, .opening false] ++ more, goesOn)
  | c :: cs =>
    let (more, goesOn) := lineBits raw cs
    (.glyph ⟨c, false⟩ :: more, goesOn)

/-- Reads a line with those that belong to it, and says whether its end was found. -/
def readBits (raw : Bool) : Nat → Action (List Bit × Bool)
  | 0 => return ([], false)
  | fuel + 1 => do
    let (line, ended) ← readLine 0
    let (bits, goesOn) := lineBits raw (line.filter (· ≠ '\x00'))
    if goesOn && ended then
      let (more, ended) ← readBits raw fuel
      return (bits ++ [.closing, .opening false] ++ more, ended)
    else return (bits, ended)

/-- How many lines may be joined. -/
def maxJoined : Nat := 10000

/-- Reads a line into variables, a field into each; the last takes all that is left. -/
def read : Intrinsic := fun words => do
  let (os, names) ← options "r" "p" words
  if names.isEmpty then fault (Octets.ofString "arg count")
  let (bits, ended) ← readBits (has os 'r') maxJoined
  let all := .opening false :: bits ++ [.closing]
  let fields := splitAtMost names.length (← Expansion.separators) all
  let values := fields.map (·.map Glyph.char) ++ List.replicate names.length []
  for (name, value) in names.zip values do
    assignNamed name value
  return if ended then 0 else 1

/-- Whether a letter is an option, and whether it has a value; after every letter of the
options a colon says that. -/
def optionKind (c : Char) : Octets → Option Bool
  | [] => none
  | d :: ':' :: rest => if c = d then some true else optionKind c rest
  | d :: rest => if c = d then some false else optionKind c rest

/-- The letters that are left of the option word before a place, or else those of the word at
the place, if that is one. -/
def optionLetters (words : List Octets) (place : Nat) (lettersRead : Option Nat) :
    Option (Octets × Nat) :=
  let before := (words[place - 2]?).getD []
  let left := (lettersRead.map (before.drop ·)).getD []
  if 1 < place ∧ left ≠ [] then some (left, place)
  else
    match words[place - 1]? with
    | some ('-' :: c :: cs) => some (c :: cs, place + 1)
    | _ => none

/-- Reads the next option of words into a variable. -/
def nextOption (letters name : Octets) (words : List Octets) : Action Nat := do
  let p ← process
  let quiet := letters.head? == some ':'
  let leave (status : Nat) (c : Char) (place : Nat) (left : Option Octets) : Action Nat := do
    assignPlainly "OPTIND".toList (Octets.ofNat place)
    resetOptions place
    assignNamed name [c]
    let before := (words[place - 2]?).getD []
    modifyProcess fun p => { p with lettersRead := left.map fun cs => before.length - cs.length }
    return status
  let missing (c : Char) (text : Octets) : Action Unit := do
    if quiet then assign "OPTARG".toList [c]
    else
      complain text
      modifyProcess fun p => { p with bindings := p.bindings.filter (·.1 != "OPTARG".toList) }
  match optionLetters words p.optionPlace p.lettersRead with
  | none => leave 1 '?' p.optionPlace none
  | some (cs, place) =>
    -- a word of two dashes ends the options
    if cs = ['-'] ∧ p.optionPlace < place then return ← leave 1 '?' place none
    let c := cs.head?.getD '-'
    match optionKind c letters with
    | none => do
      missing c (Octets.ofString "Illegal option -" ++ [c])
      leave 0 '?' place (some cs.tail)
    | some false => do
      assign "OPTARG".toList []
      leave 0 c place (some cs.tail)
    | some true =>
      match cs.tail, words[place - 1]? with
      | [], none => do
        missing c (Octets.ofString "No arg for -" ++ c :: Octets.ofString " option")
        leave 0 (if quiet then ':' else '?') place (some [])
      | [], some value => do
        assign "OPTARG".toList value
        leave 0 c (place + 1) none
      | value, _ => do
        assign "OPTARG".toList value
        leave 0 c place none

/-- Reads the next option of the arguments, or of the words that are given. -/
def getopts : Intrinsic := fun words => do
  match words with
  | letters :: name :: given =>
    let p ← process
    let arguments := if given.isEmpty then p.arguments else given
    if arguments.length + 1 < p.optionPlace then resetOptions 1
    nextOption letters name arguments
  | _ => fault (Octets.ofString "Usage: getopts optstring var [arg...]")

end Intrinsic
end LineShell.Script
