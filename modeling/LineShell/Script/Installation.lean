import LineShell.FileSystem.Setup
import LineShell.Script.Run

/-! # A machine with its programs installed

The directories and the special files that every machine has, the installed programs, and
the launcher that runs them.
-/
namespace LineShell.Script
namespace Installation

/-- The directories of a machine. -/
def directories : List String :=
  ["/boot", "/dev", "/etc", "/home", "/media", "/mnt", "/opt", "/proc", "/root", "/run", "/srv",
   "/sys", "/tmp", "/usr/bin", "/usr/lib", "/usr/local/bin", "/usr/sbin", "/usr/share", "/var"]

/-- The links from the root to directories of programs and libraries. -/
def links : List (String × String) :=
  [("/bin", "usr/bin"), ("/sbin", "usr/sbin"), ("/lib", "usr/lib")]

/-- The place that an absolute path without links names. -/
def placeOf (path : String) : Place := FileSystem.placeUnder [] (Path.ofString path)

/-- The tree of a machine before anything has run. -/
def files : FileSystem :=
  let fs := directories.foldl (fun fs p => fs.addDirectory (placeOf p)) FileSystem.empty
  let fs := links.foldl (fun fs (p, target) => fs.addLink (placeOf p) (Path.ofString target)) fs
  let fs := fs.addDevice (placeOf "/dev/null") .null
  let fs := fs.addDevice (placeOf "/dev/full") .full
  Image.installed.foldl (fun fs (name, _) =>
    fs.addFile (Text.utf8 name :: Image.installation)
      { mode := 0o755, content := Text.utf8 "\x7fELF" }) fs

/-- The steps that a program may take. -/
def allotment : Nat := 1000000

/-- The first image that an attempt yields along some paths.  A file that is missing or may
not be executed is passed over, but of the faults a missing permission is remembered; any
other fault ends the search. -/
def firstImage (attempt : Path → Except Errno Image) : Errno → List Path → Except Errno Image
  | fault, [] => .error fault
  | fault, path :: rest =>
    match attempt path with
    | .ok image => .ok image
    | .error e =>
      if e = .noEntry ∨ e = .notDirectory ∨ e = .accessDenied then
        firstImage attempt (if fault = .accessDenied then fault else e) rest
      else .error e

/-- An environment as the words that a program gets. -/
def octetsOf (environment : Environment) : List (Octets × Octets) :=
  environment.map fun (name, value) => (Octets.ofString name, Octets.ofBytes value)

/-- The image of the program that a launch asks for.  A name without a slash is looked for
along the search path of the environment. -/
def imageFor (environment : Environment) (fs : FileSystem) (start : Place) (l : Launch) :
    Except Errno Image :=
  let words := (l.name :: l.arguments).map Octets.ofString
  let attempt (path : Path) :=
    Image.ofPath fs start (octetsOf environment) (Octets.ofBytes path.bytes) words
  if l.program.bytes.isEmpty then .error .noEntry
  else if l.program.bytes.contains Path.slash then attempt l.program
  else
    let search := (environment.lookup "PATH").getD (Text.utf8 "/bin:/usr/bin")
    firstImage attempt .noEntry ((Context.splitSearchPath search).map (·.join l.program))

/-- The directory that a program is started in, by its path. -/
def directoryFor (fs : FileSystem) (path : Path) : Except Errno Place := do
  let place ← fs.locate [] path
  match fs.node? place with
  | some (.directory _) => if fs.maySearch place then .ok place else .error .accessDenied
  | _ => .error .notDirectory

/-- Runs a program on a machine, with nothing to read and both outputs collected. -/
def run (environment : Environment) (fs : FileSystem) (start : Place) (image : Image) :
    Completion × FileSystem :=
  let machine : Machine :=
    { files := fs, channels := #[.device .null, .collecting [], .collecting []], processes := 1000
      allowance := allotment
      current :=
        { name := [], arguments := [], directory := start, descriptors := [(0, 0), (1, 1), (2, 2)]
          number := 1000, lineage := [1000] } }
  let (ending, machine) := Run.start allotment false image (octetsOf environment) machine
  let written (n : Nat) : Bytes :=
    match (Action.collected n machine).1 with
    | .ok cs => Octets.bytes cs
    | .error _ => []
  let status : ExitStatus :=
    match ending with
    | .ok status => status
    | .error _ => .signalled 9
  (⟨status, written 1, written 2⟩, machine.files)

/-- Starts programs in an environment.  Words with a zero byte cannot be handed on; then
the directory has to be entered, before the program is looked for. -/
def launcher (environment : Environment) : Launcher := fun l fs =>
  let zero (s : String) : Bool := s.toList.contains '\x00'
  if zero l.name || l.arguments.any zero || l.program.hasZeroByte || l.directory.hasZeroByte then
    .error .zeroByteInWords
  else
    match directoryFor fs l.directory with
    | .error e => .error (.system e)
    | .ok start =>
      match imageFor environment fs start l with
      | .error e => .error (.system e)
      | .ok image => .ok (run environment fs start image)

end Installation
end LineShell.Script
