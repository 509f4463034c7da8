import LineShell.FileSystem.Edit

/-! # Setting up and surveying a tree

A tree is filled with directories, files and links before anything runs, and surveyed
afterwards to see what has changed.  Directories that are missing on the way are made.
-/
namespace LineShell
namespace FileSystem

/-- Makes a directory, and every directory on the way to it, unless it is there.  The
names are given from the root on. -/
def makeDirectories (fs : FileSystem) : Place → FileSystem
  | [] => fs
  | name :: parent =>
    let fs := fs.makeDirectories parent
    if (fs.node? (name :: parent)).isSome then fs
    else fs.put (name :: parent) (.directory directoryMode)

/-- The place that a relative path without `.` and `..` names under a directory. -/
def placeUnder (root : Place) (p : Path) : Place :=
  (p.names.filter (· ≠ [])).reverse ++ root

/-- Makes the directory at a place. -/
def addDirectory (fs : FileSystem) (place : Place) : FileSystem := fs.makeDirectories place

/-- Makes a regular file, or gives new contents to the one that is there. -/
def addFile (fs : FileSystem) (place : Place) (data : FileData) : FileSystem :=
  let fs := fs.makeDirectories place.tail
  match fs.node? place with
  | some (.file n) => fs.modifyFile n fun _ => data
  | _ => fs.create place data

/-- Makes a symbolic link. -/
def addLink (fs : FileSystem) (place : Place) (target : Path) : FileSystem :=
  (fs.makeDirectories place.tail).put place (.link target)

/-- Makes a special file. -/
def addDevice (fs : FileSystem) (place : Place) (kind : Device) : FileSystem :=
  (fs.makeDirectories place.tail).put place (.device kind)

/-- The path from a directory to a place under it. -/
def relative? (root place : Place) : Option Path :=
  let outer := place.drop (place.length - root.length)
  let inner := place.take (place.length - root.length)
  if inner.isEmpty || outer ≠ root then none
  else some ⟨[Path.slash].intercalate inner.reverse⟩

/-- What a survey finds at a place. -/
inductive Survey where
  | directory
  | file (content : Bytes)
  deriving DecidableEq, Repr

/-- The directories under a directory, and itself. -/
def directoriesUnder (fs : FileSystem) (root : Place) : List Place :=
  root :: fs.nodes.filterMap fun (place, node) =>
    match node with
    | .directory _ => (relative? root place).map fun _ => place
    | _ => none

/-- The directories and regular files under a directory, by their paths from it.  Links
are neither listed nor followed.  A directory that cannot be listed ends the survey. -/
def survey (fs : FileSystem) (root : Place) : Except Errno (List (Path × Survey)) := do
  for place in fs.directoriesUnder root do
    let _ ← fs.list [] place.path
  return fs.nodes.filterMap fun (place, node) =>
    match relative? root place, node with
    | some p, .directory _ => some (p, .directory)
    | some p, .file n => some (p, .file ((fs.store[n]?.map FileData.content).getD []))
    | _, _ => none

/-- The entries of the survey `new` that differ from the survey `old`, and those of `old`
that are gone. -/
def differences (old new : List (Path × Survey)) : List (Path × Option Survey) :=
  (new.filter fun (p, s) => old.lookup p != some s).map (fun (p, s) => (p, some s)) ++
    (old.filter fun (p, _) => (new.lookup p).isNone).map (fun (p, _) => (p, none))

end FileSystem
end LineShell
