import LineShell.Script.Machine
import LineShell.Script.Tool.Quoting

/-! # Tools

A tool is an installed program that is no script.  It reads its options and operands,
does its work on the machine and ends with a status.  A fault about one operand is
reported on the error output, and the others are still seen to.
-/
namespace LineShell.Script

/-- What a tool does with the words after its name. -/
abbrev Tool := List Octets → Action Nat

namespace Tool
open LineShell.Script.Action

/-- The text of an error number. -/
def explain (e : Errno) : Octets := Octets.ofString e.description

/-- Reports a fault. -/
def report (cs : Octets) : Action Unit := do
  complain ((← process).name ++ [':', ' '] ++ cs)

/-- Reports a fault about what a tool was doing to an operand. -/
def reportOn (doing : String) (operand : Octets) (e : Errno) : Action Unit :=
  report (Octets.ofString doing ++ [' '] ++ quoted operand ++ [':', ' '] ++ explain e)

/-- Says where to find help. -/
def offerHelp : Action Unit := do
  complain (Octets.ofString "Try '" ++ (← process).name ++
    Octets.ofString " --help' for more information.")

/-- Reports that the words do not make sense. -/
def misused (status : Nat) (cs : Octets) : Action Nat := do
  report cs
  offerHelp
  return status

/-- Goes to a directory; it returns why that is not possible. -/
def enterDirectory (path : Octets) : Action (Option Errno) := do
  match ← ask fun fs start => return (← fs.locate start ⟨path.bytes⟩, fs) with
  | .error e => return some e
  | .ok (place, fs) =>
    if (fs.metadataAt place).kind ≠ .directory then return some .notDirectory
    else if !fs.maySearch place then return some .accessDenied
    else
      modifyProcess fun p => { p with directory := place }
      return none

/-- Writes to the output; the status tells whether that was refused.  Why it was refused is
reported when the tool ends. -/
def put (cs : Octets) : Action Nat := do
  match ← write 1 cs with
  | none => return 0
  | some e =>
    modifyProcess fun p => { p with refused := some e }
    return 1

/-- Ends a tool whose output was refused with a report and a status that tells so. -/
def concluded (failure status : Nat) : Action Nat := do
  match (← process).refused with
  | none => return status
  | some e =>
    report (Octets.ofString "write error: " ++ explain e)
    return failure

/-- What is wrong with the options of a tool, and whether help is offered. -/
structure OptionFault where
  message : Octets
  helps : Bool := true

/-- The options of a tool: letters, letters with a value, and long names for letters. -/
structure Accepted where
  plain : String := ""
  valued : String := ""
  long : List (String × Char) := []
  /-- What is wrong with an option and its value, whatever follows them. -/
  refuses : Char → Octets → Option OptionFault := fun _ _ => none

/-- An option, if it is not refused. -/
def Accepted.accept (t : Accepted) (c : Char) (value : Octets) :
    Except OptionFault (Char × Octets) :=
  match t.refuses c value with
  | some fault => .error fault
  | none => .ok (c, value)

/-- A long option among those that are accepted; the beginning of its name will do, if no other
name begins so.  Messages show the whole `text` after the dashes. -/
def longOption (t : Accepted) (name text : Octets) : Except OptionFault Char :=
  let dashed (n : Octets) : Octets := Octets.ofString "'--" ++ n ++ ['\'']
  match t.long.find? (·.1.toList == name), t.long.filter (name.isPrefixOf ·.1.toList) with
  | some (_, c), _ | none, [(_, c)] => .ok c
  | none, [] => .error { message := Octets.ofString "unrecognized option " ++ dashed text }
  | none, (first, c) :: others =>
    -- two names of one option are no choice
    if others.all (·.2 == c) then .ok c
    else .error {
      message := Octets.ofString "option " ++ dashed text ++
        Octets.ofString " is ambiguous; possibilities:" ++
        ((first, c) :: others).flatMap fun (n, _) => ' ' :: dashed n.toList }

/-- The options in the letters of a word, and the one whose value is still to come. -/
def letterOptions (t : Accepted) :
    Octets → Except OptionFault (List (Char × Octets) × Option Char)
  | [] => .ok ([], none)
  | c :: cs =>
    if t.valued.toList.contains c then
      if cs.isEmpty then .ok ([], some c) else return ([← t.accept c cs], none)
    else if t.plain.toList.contains c then do
      let o ← t.accept c []
      let (more, pending) ← letterOptions t cs
      return (o :: more, pending)
    else .error { message := Octets.ofString "invalid option -- '" ++ [c, '\''] }

/-- Separates options from operands; after `--` there are only operands.  The value of an
option is the rest of its word, or the next one. -/
def options (t : Accepted) :
    List Octets → Except OptionFault (List (Char × Octets) × List Octets)
  | [] => .ok ([], [])
  | ['-', '-'] :: rest => .ok ([], rest)
  | ('-' :: '-' :: text) :: rest => do
    let (name, value) := Octets.cutAt '=' text
    let c ← longOption t name text
    let full := ((t.long.find? fun (n, d) => c == d && name.isPrefixOf n.toList).map (·.1.toList)).getD name
    match t.valued.toList.contains c, value with
    | true, some value => do
      let o ← t.accept c value
      let (os, ws) ← options t rest
      return (o :: os, ws)
    | true, none =>
      match rest with
      | [] => .error {
          message := Octets.ofString "option '--" ++ full ++
            Octets.ofString "' requires an argument" }
      | value :: rest => do
        let o ← t.accept c value
        let (os, ws) ← options t rest
        return (o :: os, ws)
    | false, some _ => .error {
        message := Octets.ofString "option '--" ++ full ++
          Octets.ofString "' doesn't allow an argument" }
    | false, none => do
      let o ← t.accept c []
      let (os, ws) ← options t rest
      return (o :: os, ws)
  | ('-' :: c :: cs) :: rest => do
    let (here, pending) ← letterOptions t (c :: cs)
    match pending with
    | none => do
      let (os, ws) ← options t rest
      return (here ++ os, ws)
    | some c =>
      match rest with
      | [] => .error { message := Octets.ofString "option requires an argument -- '" ++ [c, '\''] }
      | value :: rest => do
        let o ← t.accept c value
        let (os, ws) ← options t rest
        return (here ++ o :: os, ws)
  | w :: rest => do
    let (os, ws) ← options t rest
    return (os, w :: ws)

/-- Runs a tool's work on its options and operands. -/
def withOptions (t : Accepted) (misuse : Nat) (words : List Octets)
    (work : List (Char × Octets) → List Octets → Action Nat) : Action Nat := do
  match options t words with
  | .ok (os, ws) => work os ws
  | .error e =>
    if e.helps then misused misuse e.message
    else
      report e.message
      return misuse

/-- Whether an option was given. -/
def has (os : List (Char × Octets)) (c : Char) : Bool := os.any (·.1 == c)

/-- The last value of an option. -/
def valueOf (os : List (Char × Octets)) (c : Char) : Option Octets :=
  (os.filter (·.1 == c)).getLast?.map Prod.snd

/-- The last of some options that was given. -/
def lastOf (os : List (Char × Octets)) (cs : String) : Option Char :=
  ((os.map Prod.fst).filter cs.toList.contains).getLast?

/-- Sees to one operand after the other; the status is the worst. -/
def eachOperand (operands : List Octets) (work : Octets → Action Nat) : Action Nat :=
  operands.foldlM (fun worst operand => return max worst (← work operand)) 0

/-- Carries out some reading with the input connected to what an operand names; a single dash
is the input itself. -/
def reading {α : Type} (operand : Octets) (work : Action (Except Errno α)) :
    Action (Except Errno α) := do
  if operand = ['-'] then work
  else
    match ← openPath .input operand with
    | .error e => return .error e
    | .ok channel =>
      let p ← process
      connect 0 (← addChannel channel)
      let result ← work
      modifyProcess fun q => { q with descriptors := p.descriptors }
      return result

/-- Reads a whole file. -/
def input (operand : Octets) : Action (Except Errno Octets) := reading operand (readAll 0)

/-- What operands name, or the input if there is none. -/
def orInput (operands : List Octets) : List Octets := if operands.isEmpty then [['-']] else operands

/-- The last name of a path, final slashes left out. -/
def baseName (path : Octets) : Octets :=
  match path.reverse.dropWhile (· = '/') with
  | [] => if path.isEmpty then [] else ['/']
  | cs => (cs.takeWhile (· ≠ '/')).reverse

/-- A path without its last name. -/
def directoryName (path : Octets) : Octets :=
  match ((path.reverse.dropWhile (· = '/')).dropWhile (· ≠ '/')) with
  | [] => if path.head? == some '/' then ['/'] else ['.']
  | cs =>
    match cs.dropWhile (· = '/') with
    | [] => ['/']
    | kept => kept.reverse

/-- A name in a directory. -/
def inDirectory (directory name : Octets) : Octets :=
  if directory.getLast? == some '/' then directory ++ name else directory ++ '/' :: name

def pathOf (cs : Octets) : Path := ⟨cs.bytes⟩

/-- Why a word is no quantity. -/
inductive QuantityFault where
  | malformed
  | tooLarge
  deriving DecidableEq, Repr

/-- The units in which quantities count bytes, by the letters after the number.  Two letters
more tell thousands from powers of two. -/
def unit? : Octets → Option Nat
  | [] => some 1
  | ['b'] => some 512
  | c :: rest =>
    let power : Option Nat :=
      match "kKmMGTPEZYRQ".toList.idxOf? c with
      | none => none
      | some 0 | some 1 => some 1
      | some 2 | some 3 => some 2
      | some i => some (i - 1)
    match power, rest with
    | some n, [] | some n, ['i', 'B'] => some (Nat.pow 1024 n)
    | some n, ['B'] => some (Nat.pow 1000 n)
    | _, _ => none

/-- The greatest quantity. -/
def maxQuantity : Nat := 0xFFFFFFFFFFFFFFFF

/-- A quantity: a number, a unit, or a number of units. -/
def quantity (cs : Octets) : Except QuantityFault Nat :=
  let cs := cs.dropWhile Arithmetic.isBlank
  let signless := if cs.head? = some '+' then cs.tail else cs
  let digits := signless.takeWhile Char.isDigit
  match unit? (signless.drop digits.length) with
  | none => .error .malformed
  | some unit =>
    if digits.isEmpty && (unit = 1 || signless.length ≠ cs.length) then .error .malformed
    else
      let n := (if digits.isEmpty then 1 else Octets.readNat digits) * unit
      if n ≤ maxQuantity then .ok n else .error .tooLarge

/-- Whether a path names a directory. -/
def isDirectory (path : Octets) : Action Bool := do
  match ← ask fun fs start => (fs.locate start (pathOf path)).map fs.metadataAt with
  | .ok m => return m.kind == .directory
  | .error _ => return false

end Tool
end LineShell.Script
