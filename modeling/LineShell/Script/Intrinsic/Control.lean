import LineShell.Script.Intrinsic.Job
import LineShell.Script.Lookup
import LineShell.Script.Permissions

/-! # Intrinsics that control the process

Leaving loops, functions and the script; signals and what is done about them; and what the
process remembers about the system.
-/
namespace LineShell.Script
namespace Intrinsic
open LineShell.Script.Action

def exit : Intrinsic := fun words => do
  let status := (← firstNumber? words).getD (← process).status
  throw (.exits (status % 256))

/-- Leaves the function or the sourced script at work. -/
def leaveCall : Intrinsic := fun words => do
  throw (.returns ((← firstNumber? words).getD (← process).status))

/-- Leaves loops, or goes on with them: as many as the word says, but not more than there
are. -/
def leave (halt : Nat → Halt) : Intrinsic := fun words => do
  let levels := (← firstNumber? words).getD 1
  if levels = 0 then illegal (words.head?.getD [])
  let loops := (← process).loops
  if loops = 0 then return 0 else throw (halt (min levels loops))

def shift : Intrinsic := fun words => do
  let n := (← firstNumber? words).getD 1
  let arguments := (← process).arguments
  if arguments.length < n then fault (Octets.ofString "can't shift that many")
  else
    modifyProcess fun p => { p with arguments := arguments.drop n }
    resetOptions 1
    return 0

/-! ## Signals -/

/-- Sets what to do on some signals, up to the first word that names none. -/
def setTraps (action : Option Octets) : List Octets → Action Nat
  | [] => return 0
  | word :: rest => do
    match Signal.ofOctets? 0 word with
    | none =>
      complain (Octets.ofString "trap: " ++ word ++ Octets.ofString ": bad trap")
      return 1
    | some s =>
      modifyProcess fun p =>
        { p with traps := action.toList.map (s, ·) ++ p.traps.filter (·.1 != s) }
      setTraps action rest

/-- Says what to do on signals, or lists that. -/
def trap : Intrinsic := fun words => do
  match ← operands words with
  | [] =>
    let traps := (← process).traps.mergeSort fun a b => a.1 ≤ b.1
    emit (traps.flatMap fun (s, action) =>
      Octets.ofString "trap -- " ++ requoted action ++ ' ' :: Signal.name s ++ ['\n'])
  | action :: names =>
    let isNumber : Bool :=
      !action.isEmpty && action.all Char.isDigit && (Signal.ofOctets? 0 action).isSome
    if names.isEmpty || isNumber then setTraps none (action :: names)
    else setTraps (if action = ['-'] then none else some action) names

/-- Sends a signal to a process.  Those that can be reached are the process itself, what it
has started in the background and not waited for, and those that it comes from. -/
def send (signal : Nat) (target : Octets) : Action Nat := do
  if target.head? = some '%' then
    -- only a group of processes could be reached so
    let _ ← jobNamed target
    warn (Octets.ofString "No such process\n")
    return 1
  let n ← numberOf (if target.head? = some '-' then target.tail else target)
  let p ← process
  if p.lineage.contains n then
    -- signal 0 only asks whether there is such a process
    if signal ≠ 0 then dispatch n signal
    receive
    return 0
  else if p.jobs.any fun j => j.number = n && !j.known then
    -- what has not run yet will not run any more
    if !Signal.harmless.contains signal then
      modify fun m => { m with waiting := m.waiting.filter (·.number ≠ n) }
      modifyProcess fun p => { p with
        jobs := p.jobs.map fun j =>
          if j.number = n && j.ending.isNone then { j with ending := some (.signalled signal) } else j }
    return 0
  else if n = 0 then return 0
  else
    warn (Octets.ofString "No such process\n")
    return 1

/-- Gives up because of words that make no sense to `kill`. -/
def killUsage : Action Nat :=
  fault (Octets.ofString ("Usage: kill [-s sigspec | -signum | -sigspec] [pid | job]... or\n" ++
    "kill -l [exitstatus]"))

/-- Lists the names of all signals, or of one, which may be given as a status. -/
def listSignals (words : List Octets) : Action Nat := do
  match words with
  | [] => emit ((List.range Signal.count).flatMap fun s =>
      (if s = 0 then ['0'] else Signal.name s) ++ ['\n'])
  | word :: _ =>
    let n ← numberOf word
    let s := if n > 128 then n - 128 else n
    if 0 < s ∧ s < Signal.count then emit (Signal.name s ++ ['\n'])
    else fault (Octets.ofString "invalid signal number or exit status: " ++ word)

/-- Sends a signal to processes, or lists signals. -/
def kill : Intrinsic := fun words => do
  let sendAll (signal : Nat) (targets : List Octets) : Action Nat :=
    if targets.isEmpty then killUsage
    else targets.foldlM (fun worst t => return max worst (← send signal t)) 0
  match words with
  | [] => killUsage
  | ('-' :: name) :: rest =>
    match Signal.ofOctets? 1 name with
    | some s => sendAll s rest
    | none =>
      let (os, targets) ← options "l" "s" words
      let named ← (os.filter (·.1 = 's')).mapM fun (_, name) => do
        match Signal.ofOctets? 1 name with
        | some s => return s
        | none => fault (Octets.ofString "invalid signal number or name: " ++ name)
      match has os 'l', named.getLast? with
      | true, none => listSignals targets
      | true, some _ => if targets.isEmpty then listSignals [] else killUsage
      | false, s => sendAll (s.getD 15) targets
  | targets => sendAll 15 targets

/-! ## The surroundings -/

/-- Shows or changes the permissions that new files do not get. -/
def umask : Intrinsic := fun words => do
  let (os, words) ← options "S" "" words
  let mask := (← process).mask
  match words with
  | [] =>
    if has os 'S' then emit (Permissions.maskText mask ++ ['\n'])
    else
      let digits := Nat.toDigits 8 mask
      emit (List.replicate (4 - digits.length) '0' ++ digits ++ ['\n'])
  | word :: _ =>
    let isNumber := (word.head?.map Char.isDigit).getD false
    if isNumber then
      if !word.all Arithmetic.isOctalDigit then illegal word
      modifyProcess fun p => { p with mask := (Arithmetic.ofDigits 8 word).toNat % 0o1000 }
      return 0
    else
      match Permissions.leave (0o777 ^^^ mask) (word.length + 1) 0 (0o777 ^^^ mask) word with
      | some bits =>
        modifyProcess fun p => { p with mask := 0o777 ^^^ bits % 0o1000 }
        return 0
      | none => fault (Octets.ofString "Illegal mode: " ++ word)

/-- Shows a limit; there are none. -/
def ulimit : Intrinsic := fun words => do
  match (← options "HSafdscmlpnvwr" "" words).2 with
  | [] => emit (Octets.ofString "unlimited\n")
  | _ => return 0

/-- Lists the commands that have been found, forgets them, or looks for some. -/
def hash : Intrinsic := fun words => do
  let (os, names) ← options "r" "" words
  if has os 'r' then
    modifyProcess fun p => { p with found := [] }
    return 0
  else if names.isEmpty then
    emit ((inBuckets 31 Prod.fst (← process).found).flatMap fun (_, path, doubtful) =>
      path ++ if doubtful then ['*', '\n'] else ['\n'])
  else
    names.foldlM (fun worst name => do
      Lookup.forget name
      match ← Lookup.findFile true name with
      | .ok _ => return worst
      | .error e =>
        warn (name ++ [':', ' '] ++ Lookup.explain e)
        return 1) 0

def times : Intrinsic := fun _ =>
  emit (Octets.ofString "0m0.000000s 0m0.000000s\n0m0.000000s 0m0.000000s\n")

end Intrinsic
end LineShell.Script
