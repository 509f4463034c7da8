import LineShell.FileSystem.Edit
import LineShell.Script.Signal
import LineShell.Script.Interval
import LineShell.Script.Options
import LineShell.Script.Arithmetic

/-! # A machine with one process at work

The programs that a script starts run one after another: the stages of a pipeline too,
each reading what the one before has written.  So at any time a single process is at
work, and a machine is the files, the files that are open, and that process.

Descriptors are numbers of a process; what they share is a channel of the machine.  Two
descriptors of one channel share its position.
-/
namespace LineShell.Script

/-- An open file, as every descriptor sees it that shares it. -/
inductive Channel where
  /-- A regular file; with `atEnd`, everything is written behind what is there. -/
  | stored (number position : Nat) (atEnd : Bool)
  | directory
  | device (kind : Device)
  /-- The end of a pipe that is written to; the last piece first. -/
  | collecting (written : List Octets)
  /-- The end of a pipe that is read from. -/
  | source (rest : Octets)
  deriving Repr

/-- A variable, which may be declared before it has a value. -/
structure Variable where
  value : Option Octets
  exported : Bool := false
  readOnly : Bool := false
  deriving DecidableEq, Repr

/-- A command that was started in the background, and how it has ended, if it has.  Its end is
known to the process only when it has waited for it. -/
structure Job where
  number : Nat
  /-- Its place in the table of such commands. -/
  place : Nat
  /-- How many stages it has. -/
  stages : Nat := 1
  ending : Option ExitStatus := none
  known : Bool := false
  deriving DecidableEq, Repr

/-- A process that runs a script or a tool. -/
structure Process where
  /-- The first word: how the process calls itself. -/
  name : Octets
  arguments : List Octets
  bindings : List (Octets × Variable) := []
  functions : List (Octets × Command) := []
  /-- The words that stand for texts, the oldest first. -/
  aliases : List (Octets × Octets) := []
  /-- The commands that have been found along the search path, with their paths, and whether
  the directory was changed since. -/
  found : List (Octets × Octets × Bool) := []
  /-- Where its relative paths start. -/
  directory : Place
  /-- The path that it believes to be in. -/
  logical : Octets := []
  /-- The channels of its descriptors. -/
  descriptors : List (Nat × Nat)
  /-- The status of the command before. -/
  status : Nat := 0
  line : Nat := 1
  /-- The line up to which its script has been read. -/
  linesRead : Nat := 1
  /-- The same of the file or the text that it was started with, while it reads another. -/
  startLines : Option Nat := none
  /-- The number that its script knows it by; a subshell has that of the process it is part of. -/
  number : Nat := 1
  /-- Its own number, and those of the processes that have started it, the nearest first. -/
  lineage : List Nat := [1]
  /-- The number of the last command in the background. -/
  background : Option Nat := none
  jobs : List Job := []
  options : Options := {}
  /-- What to do on a signal; the end of the process counts as signal 0. -/
  traps : List (Nat × Octets) := []
  /-- The trapped signals that have arrived. -/
  pending : List Nat := []
  /-- The signals that it was started to ignore, whatever its own traps say. -/
  ignored : List Nat := []
  /-- The status of the last command whose output was put into a word. -/
  substituted : Nat := 0
  /-- How many loops and functions it is inside of. -/
  loops : Nat := 0
  calls : Nat := 0
  /-- The variables and the options that are local to the function at work, as they were
  before. -/
  locals : List (Octets × Option Variable) := []
  localOptions : Option Options := none
  /-- The permissions that new files and directories do not get. -/
  mask : Nat := 0o022
  /-- The place among the arguments of the next option to be read by a script, and how far
  the letters of the word before it have been read, if they are being. -/
  optionPlace : Nat := 1
  lettersRead : Option Nat := none
  /-- Whether it is at work on the message about a command. -/
  traces : Bool := false
  /-- Why the output of a tool was refused. -/
  refused : Option Errno := none
  /-- The intrinsic at work, which messages name. -/
  intrinsic : Option Octets := none

/-- A command in the background that has not run yet.  It runs when the process that has started
it waits for something, or ends. -/
structure Waiting where
  number : Nat
  /-- The process as it was when it started the command. -/
  starter : Process
  redirections : List Aimed
  command : Command
  /-- When it was started, and when it will have done sleeping. -/
  since : Nat
  due : Nat

/-- A machine. -/
structure Machine where
  files : FileSystem
  channels : Array Channel
  /-- The number of the last process that was started. -/
  processes : Nat
  /-- The steps that may still be taken. -/
  allowance : Nat
  /-- The signals that are on their way, each with the number of the process it is for. -/
  sent : List (Nat × Nat) := []
  /-- The commands in the background that have not run yet, the oldest first. -/
  waiting : List Waiting := []
  /-- The time that has been slept away, in nanoseconds; nothing else takes time. -/
  clock : Nat := 0
  current : Process

/-- Why the commands of a process do not go on. -/
inductive Halt where
  | exits (status : Nat)
  | killed (signal : Nat)
  | returns (status : Nat)
  | breaks (levels : Nat)
  | continues (levels : Nat)
  /-- A fault that has been reported. -/
  | failed
  /-- The allotted steps are used up. -/
  | exhausted
  deriving DecidableEq, Repr

/-- Something that the process of a machine does. -/
abbrev Action (α : Type) := ExceptT Halt (StateM Machine) α

namespace Action

/-- The process at work. -/
def process : Action Process := return (← get).current

def modifyProcess (f : Process → Process) : Action Unit :=
  modify fun m => { m with current := f m.current }

/-- The own number of a process. -/
def ownNumber (p : Process) : Nat := p.lineage.head?.getD p.number

/-- Whether a process has something to do when signals arrive. -/
def hasTraps (p : Process) : Bool := p.traps.any fun (_, action) => !action.isEmpty

/-- Lets a signal arrive at the process at work.  One that is trapped waits for its turn, which
comes by number. -/
def arrive (signal : Nat) : Action Unit := do
  let p ← process
  if signal = 0 || (signal ≠ 9 && p.ignored.contains signal) then return ()
  match p.traps.lookup signal with
  | some action =>
    if signal = 9 then throw (.killed signal)
    if !action.isEmpty then
      modifyProcess fun p => { p with
        pending := p.pending.filter (· < signal) ++ signal :: p.pending.filter (signal < ·) }
  | none => if Signal.harmless.contains signal then return () else throw (.killed signal)

/-- Sends a signal on its way to a process. -/
def dispatch (number signal : Nat) : Action Unit :=
  modify fun m => { m with sent := m.sent ++ [(number, signal)] }

/-- Lets the signals arrive that are on their way to the process at work. -/
def receive : Action Unit := do
  let number := ownNumber (← process)
  let m ← get
  set { m with sent := m.sent.filter (·.1 ≠ number) }
  (m.sent.filter (·.1 = number)).forM fun (_, signal) => arrive signal

/-- Whether an option of the process is on. -/
def isOn (option : String) : Action Bool := return (← process).options.isOn option

/-- Takes steps, if there are any left. -/
def spend (steps : Nat) : Action Unit := do
  let m ← get
  if steps ≤ m.allowance then set { m with allowance := m.allowance - steps }
  else throw .exhausted

/-- Carries out an action, and says why it has not gone on. -/
def caught {α : Type} (a : Action α) : Action (Except Halt α) :=
  fun m =>
    let (result, m) := a m
    (.ok result, m)

/-- Goes on or not, as a caught action has. -/
def resume {α : Type} (result : Except Halt α) : Action α := liftM result

/-! ## Channels -/

/-- Adds a channel. -/
def addChannel (c : Channel) : Action Nat := do
  let m ← get
  set { m with channels := m.channels.push c }
  return m.channels.size

/-- The channel of a descriptor. -/
def channel? (fd : Nat) : Action (Option (Nat × Channel)) := do
  let m ← get
  match m.current.descriptors.lookup fd with
  | none => return none
  | some n => return m.channels[n]?.map (n, ·)

def setChannel (n : Nat) (c : Channel) : Action Unit :=
  modify fun m => { m with channels := m.channels.setIfInBounds n c }

/-- Connects a descriptor with a channel. -/
def connect (fd n : Nat) : Action Unit :=
  modifyProcess fun p => { p with descriptors := (fd, n) :: p.descriptors.filter (·.1 != fd) }

def disconnect (fd : Nat) : Action Unit :=
  modifyProcess fun p => { p with descriptors := p.descriptors.filter (·.1 != fd) }

/-- Writes to a descriptor. -/
def write (fd : Nat) (cs : Octets) : Action (Option Errno) := do
  if cs.isEmpty then return none
  match ← channel? fd with
  | none => return some .badDescriptor
  | some (n, channel) =>
    match channel with
    | .collecting written =>
      setChannel n (.collecting (cs :: written))
      return none
    | .stored number position atEnd =>
      modify fun m =>
        let handle : Handle := if atEnd then .atEnd number else .within number position
        { m with files := (m.files.write handle cs.bytes).2.2 }
      setChannel n (.stored number (position + cs.length) atEnd)
      return none
    | .device .null => return none
    | .device .full => return some .noSpace
    | .directory | .source _ => return some .badDescriptor

/-- The contents of a regular file from a position on. -/
def contentFrom (number position : Nat) : Action Octets := do
  let content := ((← get).files.store[number]?.map FileData.content).getD []
  return Octets.ofBytes (content.drop position)

/-- Reads everything that is left. -/
def readAll (fd : Nat) : Action (Except Errno Octets) := do
  match ← channel? fd with
  | none => return .error .badDescriptor
  | some (n, channel) =>
    match channel with
    | .stored number position atEnd =>
      let cs ← contentFrom number position
      setChannel n (.stored number (position + cs.length) atEnd)
      return .ok cs
    | .source rest =>
      setChannel n (.source [])
      return .ok rest
    | .device _ => return .ok []
    | .directory => return .error .isDirectory
    | .collecting _ => return .error .badDescriptor

/-- Reads a line, and says whether it was ended by a newline. -/
def readLine (fd : Nat) : Action (Octets × Bool) := do
  match ← channel? fd with
  | none => return ([], false)
  | some (n, channel) =>
    match channel with
    | .stored number position atEnd =>
      let (line, after) := Octets.cutAt '\n' (← contentFrom number position)
      let taken := line.length + (if after.isSome then 1 else 0)
      setChannel n (.stored number (position + taken) atEnd)
      return (line, after.isSome)
    | .source rest =>
      let (line, after) := Octets.cutAt '\n' rest
      setChannel n (.source (after.getD []))
      return (line, after.isSome)
    | _ => return ([], false)

/-- What a channel has collected. -/
def collected (n : Nat) : Action Octets := do
  match (← get).channels[n]? with
  | some (.collecting written) => return written.reverse.flatten
  | _ => return []

/-! ## Files -/

/-- Asks the file tree something. -/
def ask {α : Type} (question : FileSystem → Place → Except Errno α) : Action (Except Errno α) := do
  let m ← get
  return question m.files m.current.directory

/-- Changes the file tree. -/
def change (edit : FileSystem → Place → Except Errno FileSystem) : Action (Option Errno) := do
  let m ← get
  match edit m.files m.current.directory with
  | .ok files =>
    set { m with files }
    return none
  | .error e => return some e

/-- The permissions of a new file or directory that is meant to have some. -/
def permissions (meant : Nat) : Action Nat :=
  return meant &&& (0o777 ^^^ (← get).current.mask)

/-- Whether a path names a file that could be emptied, or a link that leads nowhere. -/
def isKept (fs : FileSystem) (start : Place) (p : Path) : Bool :=
  match fs.locate start p with
  | .ok place => (fs.metadataAt place).kind == .regular
  | .error _ => (fs.nodeAt start p).toOption.isSome

/-- Opens a path. -/
def openPath (kind : Redirecting) (path : Octets) : Action (Except Errno Channel) := do
  let m ← get
  let start := m.current.directory
  let p : Path := ⟨path.bytes⟩
  let written (mode : WriteMode) (position : Nat) (atEnd : Bool) :
      Action (Except Errno Channel) := do
    match m.files.openAt start (← permissions 0o666) mode p with
    | .error e => return .error e
    | .ok (handle, files) =>
      set { m with files }
      match handle with
      | .within number _ | .atEnd number => return .ok (.stored number position atEnd)
      | .device kind => return .ok (.device kind)
  match kind with
  | .output =>
    if (← isOn "noclobber") && isKept m.files start p then return .error .fileExists
    else written .overwrite 0 false
  | .clobber => written .overwrite 0 false
  | .append => written .append 0 true
  | .both => written .append 0 false
  | _ =>
    match m.files.locate start p with
    | .error e => return .error e
    | .ok place =>
      match m.files.node? place with
      | some (.file number) =>
        if FileSystem.ownerReads (m.files.metadataAt place).mode then
          return .ok (.stored number 0 false)
        else return .error .accessDenied
      | some (.directory mode) =>
        return if FileSystem.ownerReads mode then .ok .directory else .error .accessDenied
      | some (.device kind) => return .ok (.device kind)
      | _ => return .error .noEntry

/-! ## Messages -/

/-- Writes to the error output. -/
def complain (cs : Octets) : Action Unit := do
  let _ ← write 2 (cs ++ ['\n'])

/-- Writes a message of a script: its name, the line, and the intrinsic at work. -/
def warn (cs : Octets) : Action Unit := do
  let p ← process
  let intrinsic :=
    match p.intrinsic with
    | some b => b ++ [':', ' ']
    | none => []
  complain (p.name ++ [':', ' '] ++ Octets.ofNat p.line ++ [':', ' '] ++ intrinsic ++ cs)

/-- Writes a message, and gives up. -/
def fault {α : Type} (cs : Octets) : Action α := do
  warn cs
  throw .failed

/-! ## Variables -/

/-- A variable's value, if it has one. -/
def valueOf? (name : Octets) : Action (Option Octets) := do
  return ((← process).bindings.lookup name).bind Variable.value

/-- Changes a variable, which is added if it is new. -/
def modifyVariable (name : Octets) (f : Variable → Variable) : Action Unit :=
  modifyProcess fun p =>
    match p.bindings.lookup name with
    | some _ => { p with
        bindings := p.bindings.map fun (n, v) => if n = name then (n, f v) else (n, v) }
    | none => { p with bindings := p.bindings ++ [(name, f ⟨none, false, false⟩)] }

/-- A number that is not negative and fits into 31 bits, blanks around it allowed. -/
def number? (cs : Octets) : Option Nat :=
  let trimmed := cs.dropWhile Arithmetic.isBlank
  let digits := if trimmed.head? = some '+' then trimmed.tail else trimmed
  let ds := digits.takeWhile Char.isDigit
  if ds.isEmpty || !(digits.drop ds.length).all Arithmetic.isBlank then none
  else
    let n := Octets.readNat ds
    if n ≤ Text.int32Max then some n else none

/-- Gives up because of a word that spells no number. -/
def illegal {α : Type} (cs : Octets) : Action α := fault (Octets.ofString "Illegal number: " ++ cs)

/-- Gives a variable a value, without regard to what the variable is for. -/
def assignPlainly (name value : Octets) : Action Unit := do
  match (← process).bindings.lookup name with
  | some { readOnly := true, .. } => fault (name ++ Octets.ofString ": is read only")
  | _ =>
    let exports ← isOn "allexport"
    modifyVariable name fun v =>
      { v with value := some value, exported := v.exported || exports }

/-- Goes on reading the options of a script at some place. -/
def resetOptions (place : Nat) : Action Unit :=
  modifyProcess fun p => { p with optionPlace := place, lettersRead := none }

/-- Gives a variable a value.  A new search path makes what was found along the old one
worthless, and a new place among the options is where their reading goes on. -/
def assign (name value : Octets) : Action Unit := do
  assignPlainly name value
  if name = "PATH".toList then modifyProcess fun p => { p with found := [] }
  if name = "OPTIND".toList then
    match number? value with
    | some n => resetOptions (max n 1)
    | none => illegal value

/-- Gives the variable of a name a value.  What follows an equals sign in the name does not
belong to it. -/
def assignNamed (name value : Octets) : Action Unit := do
  let (name, _) := Octets.cutAt '=' name
  if isName name then assign name value
  else fault (name ++ Octets.ofString ": bad variable name")

/-- Gives a variable a value and exports it. -/
def assignExported (name value : Octets) : Action Unit := do
  assign name value
  modifyVariable name fun v => { v with exported := true }

/-- The variables that a program is started with. -/
def environment : Action (List (Octets × Octets)) := do
  return (← process).bindings.filterMap fun (name, v) =>
    if v.exported then v.value.map (name, ·) else none

end Action
end LineShell.Script
