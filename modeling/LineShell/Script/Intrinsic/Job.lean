import LineShell.Script.Intrinsic.Basic
import LineShell.Script.Signal

/-! # Commands in the background

A command in the background has a number and a place in a table.  The newest one is current, and
the one before it is previous.  What has ended is forgotten when it has been shown, or when it
is known and its place is needed.
-/
namespace LineShell.Script

namespace Job

/-- Whether the place of a command can be used again. -/
def isOver (j : Job) : Bool := j.known && j.ending.isSome

/-- The first place for another command among some others. -/
def freePlace (jobs : List Job) : Nat :=
  let taken := (jobs.filter (!·.isOver)).map Job.place
  ((List.range (jobs.length + 1)).find? fun n => !taken.contains (n + 1)).elim 1 (· + 1)

/-- What is said about a command: how it has ended, if it has. -/
def state (j : Job) : Octets :=
  match j.ending with
  | none => Octets.ofString "Running"
  | some (.exited 0) => Octets.ofString "Done"
  | some (.exited n) => Octets.ofString "Done(" ++ Octets.ofNat n ++ [')']
  | some (.signalled s) => Signal.fullDescription s

/-- The width of what is shown before the text of a command, which is not remembered. -/
def width : Nat := 33

/-- A command as it is shown with a mark; a pipeline has a bar for every stage but the first. -/
def shown (j : Job) (mark : Char) : Octets :=
  let front := '[' :: Octets.ofNat j.place ++ [']', ' ', mark, ' '] ++ j.state
  front ++ List.replicate (max 1 (width - front.length)) ' ' ++
    (List.replicate (j.stages - 1) [' ', '|', ' ']).flatten ++ ['\n']

/-- Finds the command that a word with a percent sign means, or says why there is none. -/
def named (jobs : List Job) (word : Octets) : Except Octets Job :=
  let missing (what : String) : Except Octets Job := .error (Octets.ofString what)
  match word with
  | ['%'] | ['%', '%'] | ['%', '+'] =>
    (jobs.head?).elim (missing "No current job") .ok
  | ['%', '-'] => (jobs[1]?).elim (missing "No previous job") .ok
  | '%' :: digits =>
    match if digits.all Char.isDigit then jobs.find? (·.place = Octets.readNat digits) else none with
    | some j => .ok j
    | none => .error (Octets.ofString "No such job: " ++ word)
  | _ => .error (Octets.ofString "No such job: " ++ word)

/-- The command that a word means: its number, or a percent sign and its place or its rank. -/
def ofWord? (jobs : List Job) (word : Octets) : Option Job :=
  if word.head? = some '%' then (named jobs word).toOption
  else jobs.find? fun j => Octets.ofNat j.number = word

end Job

namespace Intrinsic
open LineShell.Script.Action

/-- The command that a word with a percent sign means. -/
def jobNamed (word : Octets) : Action Job := do
  match Job.named (← process).jobs word with
  | .ok job => return job
  | .error text => fault text

/-- How the end of a process counts as a status. -/
def statusOf : ExitStatus → Nat
  | .exited n => n
  | .signalled s => 128 + s

/-- Says how a process has ended if a signal was the reason, and gives the status. -/
def statusAfter (ending : ExitStatus) : Action Nat := do
  match ending with
  | .signalled s =>
    match Signal.description? s with
    | some text => complain text
    | none => pure ()
  | .exited _ => pure ()
  return statusOf ending

/-- Takes the end of a command in the background as known. -/
def take (number : Nat) : Action Unit :=
  modifyProcess fun p => { p with
    jobs := p.jobs.map fun j => if j.number = number then { j with known := true } else j }

/-- Forgets the command whose place another one needs. -/
def freePlace : Action Nat := do
  let place := Job.freePlace (← process).jobs
  modifyProcess fun p => { p with jobs := p.jobs.filter (·.place ≠ place) }
  return place

/-- Shows commands, and forgets those that have ended. -/
def showJobs : List Job → Action Unit
  | [] => return ()
  | job :: rest => do
    let jobs := (← process).jobs
    let mark :=
      if jobs.head?.any (·.number = job.number) then '+'
      else if (jobs[1]?).any (·.number = job.number) then '-'
      else ' '
    let _ ← emit (job.shown mark)
    if job.ending.isSome then
      modifyProcess fun p => { p with jobs := p.jobs.filter (·.number ≠ job.number) }
    showJobs rest

/-- Shows the commands in the background, or some of them. -/
def jobs : Intrinsic := fun words => do
  let (os, words) ← options "lp" "" words
  let chosen ← if words.isEmpty then pure (← process).jobs else words.mapM jobNamed
  if has os 'p' then emit (chosen.flatMap fun j => Octets.ofNat j.number ++ ['\n'])
  else
    showJobs chosen
    return 0

/-- Waits for commands in the background one after the other; `status` is that of the last one
so far. -/
def waitForEach (status : Nat) : List Octets → Action Nat
  | [] => return status
  | word :: rest => do
    let found : Option Job ←
      if word.head? = some '%' then pure (some (← jobNamed word))
      else
        let n ← numberOf word
        pure ((← process).jobs.find? (·.number = n))
    match found with
    | none => waitForEach status rest
    | some job =>
      let ending := job.ending.getD (.exited 0)
      let status ← if job.known then pure (statusOf ending) else statusAfter ending
      take job.number
      waitForEach status rest

/-- Waits for commands in the background, all of which have ended.  A signal that is trapped puts
an end to waiting, with a status of its own. -/
def wait : Intrinsic := fun words => do
  let words ← operands words
  receive
  match ((← process).pending.filter (· ≠ Signal.ofChild)).getLast?, words with
  | some signal, _ => return 128 + signal
  | none, [] =>
    for job in (← process).jobs do
      take job.number
    return 0
  | none, words => waitForEach 127 words

/-- Goes on with a command that was stopped, of which there is none. -/
def resumeJob : Intrinsic := fun words => do
  let refuse (name : Octets) (_ : Job) : Action Nat :=
    fault (Octets.ofString "job " ++ name ++ Octets.ofString " not created under job control")
  match ← operands words with
  | word :: _ => refuse word (← jobNamed word)
  | [] => refuse (Octets.ofString "(null)") (← jobNamed ['%'])

end Intrinsic
end LineShell.Script
