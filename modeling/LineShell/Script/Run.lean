import LineShell.Script.Image
import LineShell.Script.Meaning
import LineShell.Script.Redirect
import LineShell.Script.Tool.Environment

/-! # Running scripts

Commands run on a machine one after the other.  Each step from a command to one inside it,
and each round of a loop, takes one unit of `fuel`; a script that uses up all of it is
stopped.

A subshell is the same process as far as it can tell itself, but what happens to its
variables, directory and descriptors is forgotten when it ends.
-/
namespace LineShell.Script

namespace Run
open LineShell.Script.Action

def setStatus (status : Nat) : Action Unit := modifyProcess fun p => { p with status }

def status : Action Nat := return (← process).status

/-- The status that this amounts to if there is a file but it could not be executed. -/
def executionStatus (e : Errno) : Nat :=
  if e = .noEntry ∨ e = .notDirectory ∨ e = .tooManyLinks ∨ e = .nameTooLong then 127 else 126

/-- The variables that are handed on, in the order of the table where they are kept. -/
def exported : Action (List (Octets × Octets)) :=
  return Intrinsic.inBuckets 39 Prod.fst (← environment)

/-- What a file does when it is executed.  A text that names no interpreter is a script. -/
def imageOf (path : Octets) (words : List Octets) : Action (Except Errno Image) := do
  let bindings ← environment
  ask fun fs start =>
    match Image.ofPath fs start bindings path words with
    | .error e =>
      match fs.readAt start ⟨path.bytes⟩ with
      | .ok content =>
        if e = .badExecutable ∧ Image.isText (Octets.ofBytes content) then
          .ok ⟨.interpreter, "/bin/sh".toList :: path :: words.tail⟩
        else .error e
      | .error _ => .error e
    | found => found

/-- The search path for commands that every machine has. -/
def standardPath : List Octets :=
  ["/usr/local/sbin", "/usr/local/bin", "/usr/sbin", "/usr/bin", "/sbin", "/bin"].map String.toList

/-- How the program of a command is looked for. -/
inductive Route where
  /-- Along the search path, and what is found there is remembered. -/
  | usual
  /-- Along the search path that the command alone has. -/
  | own
  /-- Along the standard path. -/
  | standard
  deriving DecidableEq, Repr

/-- What words execute: the image, or the reason against it and a status. -/
def findImage (route : Route) (words : List Octets) : Action (Except (Octets × Nat) Image) := do
  let name := words.head?.getD []
  let found ←
    if route = .standard && !name.contains '/' then Lookup.search name standardPath .noEntry
    else Lookup.findFile (route == .usual) name
  match found with
  | .error e => return .error (Lookup.explain e, 127)
  | .ok path =>
    match ← imageOf path words with
    | .error e => return .error (Lookup.explain e, executionStatus e)
    | .ok image => return .ok image

/-- Puts variables back to what they were. -/
def restoreVariables (old : List (Octets × Option Variable)) : Action Unit :=
  old.forM fun (name, v) =>
    modifyProcess fun p => { p with
      bindings := p.bindings.filter (·.1 != name) ++ v.toList.map (name, ·)
      found := if name = "PATH".toList then [] else p.found }

/-- How a round of a loop has ended, with the status that the loop would have now. -/
inductive Round where
  | again (status : Nat)
  | done (status : Nat)

/-- Repeats a round while it says so. -/
def rounds (round : Nat → Action Round) : Nat → Nat → Action Nat
  | 0, _ => throw .exhausted
  | fuel + 1, s => fun m =>
    match round s m with
    | (.ok (.again s), m) => rounds round fuel s m
    | (.ok (.done s), m) => (.ok s, m)
    | (.error h, m) => (.error h, m)

/-- Runs a round for every value while they say so. -/
def roundsThrough (round : Octets → Action Round) : List Octets → Nat → Action Nat
  | [], s => return s
  | v :: vs, _ => fun m =>
    match round v m with
    | (.ok (.again s), m) => roundsThrough round vs s m
    | (.ok (.done s), m) => (.ok s, m)
    | (.error h, m) => (.error h, m)

/-- Runs the commands of one round.  They give the status of the round, or none if the
loop ends before its body; then it has the status `s`. -/
def roundOf (s : Nat) (commands : Action (Option Nat)) : Action Round := do
  modifyProcess fun p => { p with loops := p.loops + 1 }
  let result ← caught commands
  modifyProcess fun p => { p with loops := p.loops - 1 }
  match result with
  | .ok (some s) => return .again s
  | .ok none => return .done s
  | .error (.breaks n) => if n ≤ 1 then return .done 0 else throw (.breaks (n - 1))
  | .error (.continues n) => if n ≤ 1 then return .again 0 else throw (.continues (n - 1))
  | .error h => throw h

/-- Whether a text fits one of several patterns. -/
def fitsAny (patternOf : Word → Action (List Element)) (cs : Octets) : List Word → Action Bool
  | [] => return false
  | w :: ws => do
    if Pattern.describes (← patternOf w) cs then return true else fitsAny patternOf cs ws

/-- How a process has ended whose commands came to this. -/
def endingOf (status : Nat) : Except Halt Unit → ExitStatus
  | .ok () => .exited status
  | .error (.exits n) => .exited n
  | .error (.returns n) => .exited n
  | .error (.breaks _) | .error (.continues _) => .exited status
  | .error .failed => .exited 2
  | .error (.killed s) => .signalled s
  | .error .exhausted => .signalled 9

/-- How a pipe ends a process that writes on when nobody reads. -/
def brokenPipe : ExitStatus := .signalled 13

/-- Ends the process at work as another one has ended in its stead. -/
def endAs {α : Type} : ExitStatus → Action α
  | .exited n => throw (.exits n)
  | .signalled s => throw (.killed s)

/-- Gives variables their values for the time of a command; it returns what they were. -/
def assignFor (exported : Bool) (textOf : Word → Action Octets) :
    List (Octets × Word) → Action (List (Octets × Option Variable))
  | [] => return []
  | (name, w) :: rest => do
    let value ← textOf w
    let old := (← process).bindings.lookup name
    assign name value
    if exported then modifyVariable name fun v => { v with exported := true }
    return (← assignFor exported textOf rest) ++ [(name, old)]

/-- Whether the process is in the directory that a path names. -/
def isHere (path : Octets) : Action Bool := do
  match ← ask fun fs start => return (← fs.locate start ⟨path.bytes⟩, start) with
  | .ok (place, start) => return path.head? == some '/' && place == start
  | .error _ => return false

/-- The variables of a new script. -/
def initialVariables (environment : List (Octets × Octets)) (directory : Octets) (parent : Nat) :
    List (Octets × Variable) :=
  let given := environment.filter fun (name, _) => isName name
  let own : List (Octets × Octets) :=
    [("IFS".toList, [' ', '\t', '\n']), ("OPTIND".toList, ['1']),
     ("PATH".toList, ([':'] : Octets).intercalate standardPath),
     ("PPID".toList, Octets.ofNat parent), ("PS1".toList, ['$', ' ']), ("PS2".toList, ['>', ' ']),
     ("PS4".toList, ['+', ' '])]
  let imported : List String := ["PATH", "PS1", "PS2", "PS4"]
  let isOwn (name : Octets) : Bool := own.any (·.1 == name)
  let first := own.map fun (name, value) =>
    match given.lookup name with
    | some value' =>
      if Meaning.isAmong imported name then (name, ⟨some value', true, false⟩)
      else (name, ⟨some value, true, false⟩)
    | none => (name, ⟨some value, false, false⟩)
  let rest := given.filter fun (name, _) => !isOwn name && name != "PWD".toList
  first ++ rest.map (fun (name, value) => (name, ⟨some value, true, false⟩)) ++
    [("PWD".toList, ⟨some directory, true, false⟩)]

/-- The words of a command as far as they are expanded. -/
structure Expanded where
  /-- All that were. -/
  values : List Octets := []
  /-- How many of them belong to `command`, which runs the rest. -/
  skipped : Nat := 0
  /-- The words to come. -/
  rest : List Word
  /-- The program is looked for along the standard path. -/
  standard : Bool := false

namespace Expanded

/-- Expands words until the value at some position is there, if there are enough. -/
def reach (fieldsOf : Word → Action (List Octets)) (i : Nat) (values : List Octets) :
    List Word → Action (List Octets × List Word)
  | [] => return (values, [])
  | w :: ws => do
    if i < values.length then return (values, w :: ws)
    else reach fieldsOf i (values ++ (← fieldsOf w)) ws

/-- The value at some position. -/
def valueAt? (fieldsOf : Word → Action (List Octets)) (i : Nat) (e : Expanded) :
    Action (Expanded × Option Octets) := do
  let (values, rest) ← reach fieldsOf i e.values e.rest
  return ({ e with values, rest }, values[i]?)

/-- Passes the options of `command` from a position on.  If there are others than those that
choose the standard path, or no words behind them, `command` itself is at work. -/
def passOptions (fieldsOf : Word → Action (List Octets)) : Nat → Nat → Expanded →
    Action (Expanded × Bool)
  | 0, _, e => return (e, false)
  | fuel + 1, i, e => do
    let (e, value) ← e.valueAt? fieldsOf i
    match value with
    | none => return (e, false)
    | some ['-', '-'] => do
      let (e, next) ← e.valueAt? fieldsOf (i + 1)
      return ({ e with skipped := i + 1 }, next.isSome)
    | some ('-' :: c :: cs) => do
      if (c :: cs).all (· = 'p') then passOptions fieldsOf fuel (i + 1) { e with standard := true }
      else return (e, false)
    | some _ => return ({ e with skipped := i }, true)

/-- Passes `command` as often as it comes. -/
def passCommand (fieldsOf : Word → Action (List Octets)) (isDefined : Bool) :
    Nat → Expanded → Action Expanded
  | 0, e => return e
  | fuel + 1, e => do
    let (e, name) ← e.valueAt? fieldsOf e.skipped
    if name = some "command".toList ∧ !isDefined then
      let (passed, bypasses) ← passOptions fieldsOf (e.rest.length + e.values.length + 2)
        (e.skipped + 1) e
      if bypasses then passCommand fieldsOf isDefined fuel passed
      else return { e with values := passed.values, rest := passed.rest }
    else return e

/-- The words of the command that runs. -/
def words (e : Expanded) : List Octets := e.values.drop e.skipped

end Expanded

/-- The steps that starting a process counts for, and those that a stage of a pipeline may
take whose output is read by another. -/
def stepsOfProcess : Nat := 50

def stepsOfStage : Nat := 200000

/-- How many calls of functions may be under way in one another. -/
def maxCalls : Nat := 1000

/-- What is known about a command before it runs. -/
structure Manner where
  /-- Whether its status is asked for, so that it may fail though failures end the script. -/
  tested : Bool := false
  /-- Whether it is the last thing that its process does, so that a program may take the place
  of the process. -/
  last : Bool := false

namespace Manner

/-- How the parts of a command run that are followed by something. -/
def inside (manner : Manner) : Manner := { manner with last := false }

/-- How a command runs that has a process of its own. -/
def alone (manner : Manner) : Manner := { manner with last := true }

end Manner

/-- Ends a script that is to end on a failure. -/
def checked (manner : Manner) : Action Unit := do
  let p ← process
  if p.options.isOn "errexit" && !manner.tested && p.status != 0 then throw (.exits p.status)

/-- Whether a command needs no process of its own, since the one at work has nothing else left
to do. -/
def needsNone (manner : Manner) : Action Bool := return manner.last && !hasTraps (← process)

/-- Commands behind redirections whose targets are known. -/
def behind (textOf : Word → Action Octets) (redirections : List Aimed) (commands : Action Unit) :
    Action Unit := do
  if ← Redirect.carryOutAll textOf redirections then commands else throw (.exits 2)

/-- How long a command will sleep before it does anything else. -/
def sleepOf (fuel : Nat) (c : Command) : Action Nat := do
  match c.sleep? with
  | none => return 0
  | some w =>
    let p ← process
    let duration ← caught (Expansion.text (fun _ => return []) fuel w)
    modifyProcess fun _ => p
    return (duration.toOption.bind interval?).getD 0

/-- Starts a command in the background: it will run with nothing to read. -/
def detach (fuel : Nat) (redirections : List Aimed) (c : Command) : Action Unit := do
  let sleep ← sleepOf fuel c
  let p ← process
  let input ← addChannel (.device .null)
  let number := (← get).processes + 1
  let place ← Intrinsic.freePlace
  let stages : Nat :=
    match c with
    | .pipeline stages => stages.length
    | _ => 1
  let starter := { p with descriptors := (0, input) :: p.descriptors.filter (·.1 != 0) }
  modify fun m => { m with
    processes := number
    waiting := m.waiting ++
      [{ number, starter, redirections, command := c, since := m.clock, due := m.clock + sleep }] }
  modifyProcess fun p => { p with
    status := 0, background := some number, jobs := { number, place, stages } :: p.jobs }

/-- The command in the background of the process at work that has to run next: the first to be
due, if it is due by then. -/
def nextWaiting? (limit : Option Nat) : Action (Option Waiting) := do
  let number := ownNumber (← process)
  let candidates := (← get).waiting.filter fun w =>
    ownNumber w.starter = number && limit.all (w.due ≤ ·)
  return candidates.foldl (fun first w =>
    match first with
    | none => some w
    | some f => some (if w.due < f.due then w else f)) none

/-- When the commands in the background have to be due that some words ask to wait for; without
words, all of them. -/
def limitFor (words : List Octets) : Action (Option Nat) := do
  let numbers := (words.filterMap (Job.ofWord? (← process).jobs)).map Job.number
  let awaited := (← get).waiting.filter fun w => numbers.contains w.number
  if words.isEmpty then return none
  else return some (awaited.foldl (fun limit w => max limit w.due) (← get).clock)

/-- The contents of a file that is to be run; a directory has none. -/
def textAt (path : Octets) : Action (Except Errno Octets) := do
  match ← ask fun fs start => fs.readAt start ⟨path.bytes⟩ with
  | .ok content => return .ok (Octets.ofBytes content)
  | .error .isDirectory => return .ok []
  | .error e => return .error e

/-- The lines of a source that have been read when it is at line `last` with `rest` left. -/
def linesRead (source : Source) (last : Nat) (rest : Octets) : Octets :=
  if rest.isEmpty then source.rest
  else
    let lines := Octets.splitAt '\n' source.rest
    (lines.take (last - source.line)).flatMap (· ++ ['\n'])

/-- Does the work of `command` where it runs nothing: it tells what a name stands for. -/
def tell : Intrinsic := fun words => do
  let (os, names) ← Intrinsic.options "pvV" "" words
  match names with
  | name :: _ =>
    if Intrinsic.has os 'v' || Intrinsic.has os 'V' then Meaning.describe (Intrinsic.has os 'V') name
    else return 0
  | [] => return 0

mutual

/-- Runs a command; its status is left with the process. -/
def execute : Nat → Manner → Command → Action Unit
  | 0, _, _ => throw .exhausted
  | fuel + 1, manner, c => do
    spend 1
    if ← isOn "noexec" then return ()
    let textOf := Expansion.text (outputOf fuel) fuel
    match c with
    | .simple line assignments words redirections =>
      modifyProcess fun p => { p with line, substituted := 0 }
      simple fuel manner assignments words redirections
      deliver fuel
      checked manner
    | .pipeline stages =>
      pipeline fuel manner.alone stages none
      deliver fuel
      checked manner
    | .negated c =>
      execute fuel { tested := true } c
      setStatus (if (← status) = 0 then 1 else 0)
    | .both a b =>
      execute fuel { tested := true } a
      if (← status) = 0 then execute fuel manner b
    | .either a b =>
      execute fuel { tested := true } a
      if (← status) ≠ 0 then execute fuel manner b
    | .sequence a b =>
      execute fuel manner.inside a
      execute fuel manner b
    | .background c =>
      match c with
      | .pipeline stages => do
        stages.forM Meaning.foresee
        detach fuel [] c
      | .redirected _ (.subshell _) _ => detach fuel [] c
      | .redirected line c redirections => do
        modifyProcess fun p => { p with line }
        detach fuel (← redirections.mapM (Redirect.aim textOf)) c
      | c => detach fuel [] c
    | .subshell c =>
      separately fuel manner (execute fuel manner.alone c)
    | .redirected line (.subshell c) redirections =>
      modifyProcess fun p => { p with line }
      let aimed ← redirections.mapM (Redirect.aim textOf)
      separately fuel manner (behind textOf aimed (execute fuel manner.alone c))
    | .branch condition body otherwise =>
      execute fuel { tested := true } condition
      if (← status) = 0 then execute fuel manner body
      else
        match otherwise with
        | some c => execute fuel manner c
        | none => setStatus 0
    | .loop opposite condition body =>
      let round (s : Nat) : Action Round :=
        roundOf s (do
          execute fuel { tested := true } condition
          if ((← status) == 0) == opposite then return none
          execute fuel manner.inside body
          return some (← status))
      setStatus (← rounds round fuel 0)
    | .each line name words body =>
      modifyProcess fun p => { p with line }
      let values ←
        match words with
        | some ws => Expansion.fields (outputOf fuel) fuel ws
        | none => pure (← process).arguments
      let round (v : Octets) : Action Round :=
        roundOf 0 (do
          assign name v
          execute fuel manner.inside body
          return some (← status))
      setStatus (← roundsThrough round values 0)
    | .choice line subject cases =>
      modifyProcess fun p => { p with line }
      choose fuel manner (← textOf subject) cases
    | .redirected line c redirections =>
      modifyProcess fun p => { p with line }
      let before ← process
      if ← Redirect.perform textOf redirections then
        let result ← caught (execute fuel manner.inside c)
        modifyProcess fun p => { p with descriptors := before.descriptors }
        resume result
      else
        modifyProcess fun p => { p with descriptors := before.descriptors, status := 2 }
        checked manner
    | .define name body =>
      modifyProcess fun p =>
        { p with functions := (name, body) :: p.functions.filter (·.1 != name), status := 0 }

/-- Runs commands in a process of their own, if they need one. -/
def separately : Nat → Manner → Action Unit → Action Unit
  | 0, _, _ => throw .exhausted
  | fuel + 1, manner, commands => do
    if ← needsNone manner then commands
    else
      setStatus (← Intrinsic.statusAfter (← subshell fuel commands))
      deliver fuel
      checked manner

/-- Runs the commands of the first branch of `case` that fits. -/
def choose : Nat → Manner → Octets → List (List Word × Option Command) → Action Unit
  | 0, _, _, _ => throw .exhausted
  | _ + 1, _, _, [] => setStatus 0
  | fuel + 1, manner, cs, (patterns, body) :: rest => do
    if ← fitsAny (Expansion.pattern (outputOf fuel) fuel) cs patterns then
      match body with
      | some c => execute fuel manner c
      | none => setStatus 0
    else choose fuel manner cs rest

/-- Runs a simple command: expands its words, opens its files, makes its assignments, and
runs what its first word stands for. -/
def simple : Nat → Manner → List (Octets × Word) → List Word → List Redirection → Action Unit
  | 0, _, _, _, _ => throw .exhausted
  | fuel + 1, manner, assignments, words, redirections => do
    let textOf := Expansion.text (outputOf fuel) fuel
    let fieldsOf := Expansion.fieldsOf (outputOf fuel) fuel
    let functions := (← process).functions
    let e ← Expanded.passCommand fieldsOf (functions.lookup "command".toList).isSome
      (words.length + 2) { rest := words }
    let first := e.words.head?
    let defined :=
      if e.skipped = 0 then first.bind fun name => functions.lookup name else none
    let declares : Bool :=
      defined.isNone && (first.map (Meaning.isAmong Intrinsic.declaring)).getD false
    let others ←
      if declares then Expansion.fieldsOrAssigned (outputOf fuel) fuel e.rest
      else Expansion.fields (outputOf fuel) fuel e.rest
    let shown := e.values ++ others
    let values := e.words ++ others
    let before ← process
    let intrinsic := values.head?.bind (intrinsic? fuel manner.inside)
    -- what `command` runs is not special
    let isSpecial : Bool := e.skipped = 0 && (intrinsic.map Prod.fst).getD false
    let replaces : Bool := values.head? == some "exec".toList
    let restore : Action Unit := modifyProcess fun p => { p with descriptors := before.descriptors }
    if ← Redirect.perform textOf redirections then
      -- before a special intrinsic, or alone, assignments outlive the command
      let permanent : Bool := values.isEmpty || isSpecial
      let exports : Bool := !permanent || (replaces && values.length > 1)
      let old ← assignFor exports (Expansion.assigned (outputOf fuel) fuel) assignments
      if before.options.isOn "xtrace" && !before.traces then
        trace fuel before.descriptors (assignments.map Prod.fst) shown
      let route : Route :=
        if e.standard then .standard
        else if assignments.any (·.1 == "PATH".toList) then .own
        else .usual
      let result ← caught (do
        match values with
        | [] => setStatus (← process).substituted
        | name :: arguments =>
          match defined, intrinsic with
          | some body, none | some body, some (false, _) => call fuel manner.inside body arguments
          | _, some (_, work) => runIntrinsic fuel name isSpecial work arguments
          | none, none =>
            if ← needsNone manner then occupy fuel route values else runProgram fuel route values)
      -- `exec` without a command is there to change the descriptors for good
      if !(replaces && values.length == 1) then restore
      if !permanent then restoreVariables old
      resume result
    else
      restore
      if isSpecial then throw (.exits 2) else setStatus 2

/-- Writes the message of `set -x` about a command to where errors went before it. -/
def trace : Nat → List (Nat × Nat) → List Octets → List Octets → Action Unit
  | 0, _, _, _ => throw .exhausted
  | fuel + 1, descriptors, assigned, values => do
    let now ← process
    modifyProcess fun p => { p with descriptors, traces := true }
    let text := ((← valueOf? "PS4".toList).getD [])
    let all : Reader Word := Reader.parts (Reader.list false (8 * text.length + 8) true none)
      (text.length + 1) .document []
    let heading ←
      match all.run { rest := text, line := 1 } with
      | .ok (w, _) => Expansion.text (outputOf fuel) fuel w
      | .error e => do
        let line := (← process).line
        modifyProcess fun p => { p with line := e.line }
        warn (Octets.ofString e.message)
        modifyProcess fun p => { p with line }
        pure text
    let given := assigned.filterMap fun name =>
      (now.bindings.lookup name).bind fun v => v.value.map fun cs => name ++ '=' :: cs
    complain (heading ++ [' '].intercalate (given ++ values))
    modifyProcess fun p => { p with descriptors := now.descriptors, traces := false }

/-- Calls a function, unless too many calls are under way. -/
def call : Nat → Manner → Command → List Octets → Action Unit
  | 0, _, _, _ => throw .exhausted
  | fuel + 1, manner, body, arguments => do
    let before ← process
    if maxCalls ≤ before.calls then
      fault (Octets.ofString "Maximum function recursion depth (" ++ Octets.ofNat maxCalls ++
        Octets.ofString ") reached")
    modifyProcess fun p => { p with
      arguments, locals := [], localOptions := none, loops := 0, calls := p.calls + 1 }
    resetOptions 1
    let result ← caught (execute fuel manner body)
    restoreVariables (← process).locals
    modifyProcess fun p => { p with
      arguments := before.arguments, locals := before.locals, loops := before.loops
      localOptions := before.localOptions, options := p.localOptions.getD p.options
      optionPlace := before.optionPlace, lettersRead := before.lettersRead
      calls := before.calls }
    match result with
    | .error (.returns n) => setStatus n
    | result => resume result

/-- Runs an intrinsic.  A fault in it ends the script only if it is special. -/
def runIntrinsic : Nat → Octets → Bool → Intrinsic → List Octets → Action Unit
  | 0, _, _, _, _ => throw .exhausted
  | _ + 1, name, isSpecial, work, arguments => do
    let before := (← process).intrinsic
    modifyProcess fun p => { p with intrinsic := some name }
    let result ← caught (work arguments)
    modifyProcess fun p => { p with intrinsic := before }
    match result with
    | .ok n => setStatus n
    | .error .failed => if isSpecial then throw .failed else setStatus 2
    | .error h => throw h

/-- The intrinsic that a name stands for, and whether it is special. -/
def intrinsic? : Nat → Manner → Octets → Option (Bool × Intrinsic)
  | 0, _, _ => none
  | fuel + 1, manner, name =>
    match String.ofList name with
    | "eval" => some (true, evaluate fuel manner)
    | "." => some (true, sourceFile fuel)
    | "exec" => some (true, replace fuel)
    | "wait" => some (false, await fuel)
    | "command" => some (false, tell)
    | "type" => some (false, fun words =>
        words.foldlM (fun worst w => return max worst (← Meaning.describe true w)) 0)
    | text =>
      match Intrinsic.special.lookup text, Intrinsic.regular.lookup text with
      | some work, _ => some (true, work)
      | none, some work => some (false, work)
      | none, none => none

/-- Waits for commands in the background. -/
def await : Nat → Intrinsic
  | 0, _ => throw .exhausted
  | fuel + 1, words => do
    let limit ← limitFor words
    settle fuel limit
    modify fun m => { m with clock := max m.clock (limit.getD 0) }
    Intrinsic.wait words

/-- Runs words as commands. -/
def evaluate : Nat → Manner → Intrinsic
  | 0, _, _ => throw .exhausted
  | fuel + 1, manner, words => do
    setStatus 0
    insertion fuel manner { rest := [' '].intercalate words, line := 1 }
    status

/-- Runs the commands of a file in the process at work.  A name without a slash is looked for
along the search path; a directory holds no commands. -/
def sourceFile : Nat → Intrinsic
  | 0, _ => throw .exhausted
  | fuel + 1, words => do
    match ← Intrinsic.operands words with
    | [] => return 0
    | file :: _ =>
      let candidates ←
        if file.contains '/' then pure [file]
        else
          ((← Lookup.directories).map (Lookup.pathIn · file)).filterM fun path => do
            match ← ask fun fs start => (fs.locate start ⟨path.bytes⟩).map fs.metadataAt with
            | .ok m => return m.kind == .regular
            | .error _ => return false
      match candidates with
      | [] => fault (file ++ Octets.ofString ": not found")
      | path :: _ =>
        match ← textAt path with
        | .error e =>
          fault (Octets.ofString "cannot open " ++ path ++ [':', ' '] ++
            Redirect.openingFault false e)
        | .ok text =>
          let before ← process
          modifyProcess fun p => { p with intrinsic := some path, status := 0 }
          let result ← caught (insertion fuel {} { rest := text, line := 1, inLines := true })
          modifyProcess fun p => { p with intrinsic := before.intrinsic }
          match result with
          | .ok () => status
          | .error (.returns n) => return n
          | .error h => throw h

/-- Lets a program take the place of the process. -/
def occupy : Nat → Route → List Octets → Action Unit
  | 0, _, _ => throw .exhausted
  | fuel + 1, route, words => do
    match ← findImage route words with
    | .error (text, status) =>
      warn (words.head?.getD [] ++ [':', ' '] ++ text)
      throw (.exits status)
    | .ok image =>
      let ending ← start fuel true image (← exported)
      modifyProcess fun p => { p with traps := [] }
      endAs ending

/-- Lets the program of some words take the place of the process. -/
def replace : Nat → Intrinsic
  | 0, _ => throw .exhausted
  | fuel + 1, words => do
    match ← Intrinsic.operands words with
    | [] => return 0
    | words =>
      occupy fuel .own words
      status

/-- Runs a program and waits for its end. -/
def runProgram : Nat → Route → List Octets → Action Unit
  | 0, _, _ => throw .exhausted
  | fuel + 1, route, words => do
    match ← findImage route words with
    | .error (text, status) =>
      warn (words.head?.getD [] ++ [':', ' '] ++ text)
      setStatus status
    | .ok image =>
      setStatus (← Intrinsic.statusAfter (← start fuel false image (← exported)))

/-- Runs commands whose changes to the process are forgotten, and tells how they have ended. -/
def subshell : Nat → Action Unit → Action ExitStatus
  | 0, _ => throw .exhausted
  | fuel + 1, commands => do
    settle fuel (some (← get).clock)
    let _ ← Intrinsic.freePlace
    let number := (← get).processes + 1
    modify fun m => { m with processes := number }
    apart fuel number commands

/-- Runs commands in a copy of the process with a number of its own. -/
def apart : Nat → Nat → Action Unit → Action ExitStatus
  | 0, _, _ => throw .exhausted
  | fuel + 1, number, commands => do
    let before ← process
    spend stepsOfProcess
    modifyProcess fun p => { p with
      lineage := number :: p.lineage, traps := p.traps.filter (·.2.isEmpty), pending := []
      loops := 0, jobs := [], linesRead := p.startLines.getD p.linesRead }
    let result ← caught commands
    let ending ← finish fuel result
    modifyProcess fun _ => before
    dispatch (ownNumber before) Signal.ofChild
    return ending

/-- Runs the commands in the background that are due by some moment, or all of them. -/
def settle : Nat → Option Nat → Action Unit
  | 0, _ => throw .exhausted
  | fuel + 1, limit => do
    match ← nextWaiting? limit with
    | none => return ()
    | some w =>
      let p ← process
      let now := (← get).clock
      modify fun m => { m with
        waiting := m.waiting.filter (·.number ≠ w.number), clock := w.since, current := w.starter }
      let textOf := Expansion.text (outputOf fuel) fuel
      let ending ← apart fuel w.number (behind textOf w.redirections
        (execute fuel { last := true } w.command))
      let job (j : Job) : Job := if j.number = w.number then { j with ending := some ending } else j
      modify fun m => { m with
        clock := if limit.isNone then max now m.clock else now
        current := { p with jobs := p.jobs.map job } }
      settle fuel limit

/-- Runs the stages of a pipeline, each reading what the one before has written.  A stage
whose output is read by another ends when it has written more than will be read. -/
def pipeline : Nat → Manner → List Command → Option Nat → Action Unit
  | 0, _, _, _ => throw .exhausted
  | _ + 1, _, [], _ => return ()
  | fuel + 1, manner, c :: rest, input => do
    Meaning.foresee c
    let before ← process
    match input with
    | some n => connect 0 n
    | none => pure ()
    let commands := execute fuel manner c
    if rest.isEmpty then
      let ending ← subshell fuel commands
      modifyProcess fun p => { p with descriptors := before.descriptors }
      setStatus (← Intrinsic.statusAfter ending)
    else
      let output ← addChannel (.collecting [])
      connect 1 output
      let all := (← get).allowance
      let kept := all - stepsOfStage
      modify fun m => { m with allowance := all - kept }
      let ending : ExitStatus ←
        match ← caught (subshell fuel commands) with
        | .ok ending => pure ending
        | .error .exhausted => pure brokenPipe
        | .error h => throw h
      modify fun m => { m with allowance := m.allowance + kept }
      modifyProcess fun _ => before
      -- only the last stage has a status that counts
      let _ ← Intrinsic.statusAfter ending
      -- the stage has ended, so what it has written is all that the next will read
      let next ← addChannel (.source (← collected output))
      pipeline fuel manner rest (some next)

/-- The output of a command in a word. -/
def outputOf : Nat → Option Command → Action Octets
  | 0, _ => throw .exhausted
  | _ + 1, none => do
    modifyProcess fun p => { p with substituted := 0 }
    return []
  | fuel + 1, some c => do
    let before ← process
    let output ← addChannel (.collecting [])
    connect 1 output
    let left ← Intrinsic.statusAfter (← subshell fuel (execute fuel { last := true } c))
    receive
    modifyProcess fun p => { p with
      descriptors := before.descriptors, status := before.status, substituted := left }
    collected output

/-- Does what the traps say about signals that have arrived. -/
def deliver : Nat → Action Unit
  | 0 => throw .exhausted
  | fuel + 1 => do
    receive
    let p ← process
    match p.pending with
    | [] => return ()
    | s :: rest =>
      modifyProcess fun p => { p with pending := rest }
      match p.traps.lookup s with
      | some text => insertion fuel {} { rest := text, line := 1 }
      | none => pure ()
      setStatus p.status
      deliver fuel

/-- Ends a process, after doing what its trap for the end says. -/
def finish : Nat → Except Halt Unit → Action ExitStatus
  | 0, _ => throw .exhausted
  | fuel + 1, result => do
    match result with
    | .error .exhausted => throw .exhausted
    | _ => pure ()
    let p ← process
    let ending ←
      match endingOf p.status result, p.traps.lookup 0 with
      | .exited n, some text =>
        -- the trap is gone when its commands run, so that it cannot run again
        modifyProcess fun p => { p with traps := p.traps.filter (·.1 != 0), status := n }
        pure (endingOf n (← caught (script fuel {} { rest := text, line := 1 })))
      | ending, _ => pure ending
    settle fuel none
    return ending

/-- Runs the commands of a script, line by line.  A script that cannot be read further
ends there. -/
def script : Nat → Manner → Source → Action Unit
  | 0, _, _ => throw .exhausted
  | fuel + 1, manner, source => do
    let source := { source with aliases := (← process).aliases }
    let show' (last : Nat) (rest : Octets) : Action Unit := do
      if source.inLines && (← isOn "verbose") then
        let _ ← write 2 (linesRead source last rest)
    match Reader.lineOfCommands.run source with
    | .error e =>
      show' (e.line + 1) source.rest
      modifyProcess fun p => { p with line := e.line }
      warn (Octets.ofString e.message)
      throw (.exits 2)
    | .ok (none, after) => show' after.line after.rest
    | .ok (some c, after) =>
      show' after.line after.rest
      match c with
      | none => pure ()
      | some c =>
        modifyProcess fun p => { p with linesRead := after.line }
        execute fuel manner c
      script fuel manner after

/-- Runs the commands of a text in the middle of another script. -/
def insertion : Nat → Manner → Source → Action Unit
  | 0, _, _ => throw .exhausted
  | fuel + 1, manner, source => do
    let before ← process
    modifyProcess fun p => { p with startLines := some (p.startLines.getD p.linesRead) }
    let result ← caught (script fuel manner source)
    modifyProcess fun p => { p with linesRead := before.linesRead, startLines := before.startLines }
    resume result

/-- Does the work of the interpreter of scripts. -/
def interpret : Nat → Action Unit
  | 0 => throw .exhausted
  | fuel + 1 => do
    let p ← process
    modifyProcess fun p => { p with line := 0 }
    let given := p.bindings.filterMap fun (name, v) => v.value.map (name, ·)
    let physical ← Intrinsic.physicalPath
    let logical := (given.lookup "PWD".toList).getD []
    let directory := if ← isHere logical then logical else physical
    modifyProcess fun p => { p with
      logical := directory, bindings := initialVariables given directory (p.lineage[1]?.getD 0) }
    let o ← Intrinsic.takeOptions true (p.arguments.length + 1) { words := p.arguments }
    let fromInput (arguments : List Octets) : Action Unit := do
      Intrinsic.turnOption true "stdin"
      modifyProcess fun p => { p with arguments }
      let text := ((← readAll 0).toOption).getD []
      script fuel {} { rest := text, line := 1, inLines := true }
    match o.inWords, o.words with
    | true, [] => fault (Octets.ofString "-c requires an argument")
    | true, text :: rest =>
      modifyProcess fun p => { p with
        name := rest.head?.getD p.name, arguments := rest.tail, startLines := some 1 }
      script fuel {} { rest := text, line := 1 }
    | false, [] => fromInput []
    | false, file :: rest =>
      if ← isOn "stdin" then fromInput (file :: rest)
      else
        match ← textAt file with
        | .error e =>
          fault (Octets.ofString "cannot open " ++ file ++ [':', ' '] ++
            Redirect.openingFault false e)
        | .ok text =>
          modifyProcess fun p => { p with name := file, arguments := rest }
          script fuel {} { rest := text, line := 1, inLines := true }

/-- Does the work of the tool that changes the environment of another program. -/
def setEnvironment : Nat → Action Unit
  | 0 => throw .exhausted
  | fuel + 1 => do
    let p ← process
    let refuse (m : Tool.Misuse) : Action Unit := do
      Tool.report m.message
      if m.spaced then Tool.report Tool.aboutSpaces
      if m.helps then Tool.offerHelp
      throw (.exits 125)
    let given ← environment
    let letters := p.arguments.foldl (fun n w => n + w.length + 1) 0
    match Tool.EnvironmentPlan.ofWords (fun name => given.lookup name) (2 * letters + 2) {} p.arguments with
    | .error m => refuse m
    | .ok plan =>
      let (assignments, words) := Tool.leadingAssignments plan.words
      modifyProcess fun p => { p with
        bindings := if plan.clears then [] else
          p.bindings.filter fun (name, _) => !plan.removed.contains name }
      for (name, value) in assignments do
        modifyVariable name fun _ => ⟨some value, true, false⟩
      let bindings ← environment
      match words, plan.directory with
      | [], some _ => refuse { message := Octets.ofString "must specify command with --chdir (-C)" }
      | [], none =>
        let ending := if plan.zeros then '\x00' else '\n'
        let written ← Tool.put (bindings.flatMap fun (name, value) =>
          name ++ '=' :: value ++ [ending])
        setStatus (← Tool.concluded 125 written)
      | name :: _, directory => do
        if plan.zeros then
          refuse { message := Octets.ofString "cannot specify --null (-0) with command" }
        match directory with
        | none => pure ()
        | some path =>
          match ← Tool.enterDirectory path with
          | none => pure ()
          | some e =>
            refuse {
              message := Octets.ofString "cannot change directory to " ++ Tool.quoted path ++
                [':', ' '] ++ Tool.explain e
              helps := false }
        if (← valueOf? "PATH".toList).isNone then assignPlainly "PATH".toList "/bin:/usr/bin".toList
        match ← findImage .own words with
        | .ok image => endAs (← start fuel true image bindings)
        | .error (text, status) =>
          let missing : Bool := name.isEmpty || text = "not found".toList
          Tool.report (Tool.cited name ++ [':', ' '] ++
            if missing then Tool.explain .noEntry else text)
          if missing && name.any (fun c => c == ' ' || ('\t' ≤ c && c ≤ '\r')) then Tool.report Tool.aboutSpaces
          throw (.exits (if missing then 127 else if status = 127 then 126 else status))

/-- Runs a program to its end, as a process of its own or in the place of the one at work. -/
def start : Nat → Bool → Image → List (Octets × Octets) → Action ExitStatus
  | 0, _, _, _ => throw .exhausted
  | fuel + 1, inPlace, image, bindings => do
    settle fuel (some (← get).clock)
    if !inPlace then
      let _ ← Intrinsic.freePlace
    let before ← process
    spend stepsOfProcess
    let next := (← get).processes + 1
    let number := if inPlace then ownNumber before else next
    let lineage := if inPlace then before.lineage else number :: before.lineage
    modify fun m => { m with
      processes := next
      current :=
        { name := image.words.head?.getD [], arguments := image.words.tail
          bindings := bindings.map fun (name, value) => (name, ⟨some value, true, false⟩)
          directory := before.directory, logical := before.logical, mask := before.mask
          ignored := before.ignored ++
            (before.traps.filter fun (s, action) => s ≠ 0 && action.isEmpty).map Prod.fst
          descriptors := before.descriptors, number, lineage } }
    let result ← caught (do
      match image.program with
      | .tool work failure => setStatus (← Tool.concluded failure (← work image.words.tail))
      | .interpreter => interpret fuel
      | .environmentSetter => setEnvironment fuel)
    let ending ← finish fuel result
    modifyProcess fun _ => before
    if !inPlace then
      dispatch (ownNumber before) Signal.ofChild
      settle fuel (some (← get).clock)
    return ending

end

end Run
end LineShell.Script
