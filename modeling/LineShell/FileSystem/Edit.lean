import LineShell.FileSystem.Access

/-! # Changing the shape of a tree

What external programs do to a tree beyond writing files: making and removing
directories, removing, moving and linking files, changing permissions, and reading.
Every operation starts from a directory of the caller, and fails with an error number
without having changed anything.
-/
namespace LineShell
namespace FileSystem

/-- The place of the last name of a path; the last name itself is not followed if it is
a link.  `fallback` is the error for a path that ends in no name of its own. -/
def lastPlace (fs : FileSystem) (start : Place) (p : Path) (fallback : Errno) :
    Except Errno Place :=
  match fs.resolveParent start p with
  | .error e => .error e
  | .ok (_, none) => .error fallback
  | .ok (parent, some name) =>
    if !fs.maySearch parent then .error .accessDenied
    else if maxName < name.length then .error .nameTooLong
    else .ok (name :: parent)

/-- The node that a path names, links not followed. -/
def nodeAt (fs : FileSystem) (start : Place) (p : Path) : Except Errno Node :=
  match fs.resolveParent start p with
  | .error e => .error e
  | .ok (_, none) => (fs.locate start p).map fun place => (fs.node? place).getD (.directory 0)
  | .ok (parent, some name) =>
    if p.bytes.getLast? = some Path.slash then
      (fs.locate start p).map fun place => (fs.node? place).getD (.directory 0)
    else if !fs.maySearch parent then .error .accessDenied
    else
      match fs.node? (name :: parent) with
      | some node => .ok node
      | none => .error (if maxName < name.length then .nameTooLong else .noEntry)

/-- The contents of the file that a path names. -/
def readAt (fs : FileSystem) (start : Place) (p : Path) : Except Errno Bytes := do
  let place ← fs.locate start p
  match fs.node? place with
  | some (.file n) =>
    match fs.store[n]? with
    | some data => if ownerReads data.mode then .ok data.content else .error .accessDenied
    | none => .error .noEntry
  | some (.directory _) => .error .isDirectory
  | some (.device _) => .ok []
  | _ => .error .noEntry

/-- Makes a directory with the given permissions. -/
def makeDirectory (fs : FileSystem) (start : Place) (permissions : Nat) (p : Path) :
    Except Errno FileSystem := do
  let place ← fs.lastPlace start p .fileExists
  if (fs.node? place).isSome then .error .fileExists
  else if fs.mayChange place.tail then .ok (fs.put place (.directory permissions))
  else .error .accessDenied

/-- Removes an empty directory. -/
def removeDirectory (fs : FileSystem) (start : Place) (p : Path) : Except Errno FileSystem := do
  let place ← fs.lastPlace start p .invalidArgument
  match fs.node? place with
  | some (.directory _) =>
    if !(fs.children place).isEmpty then .error .notEmpty
    else if fs.mayChange place.tail then .ok (fs.remove place)
    else .error .accessDenied
  | some _ => .error .notDirectory
  | none => .error .noEntry

/-- Removes a name that is no directory. -/
def unlink (fs : FileSystem) (start : Place) (p : Path) : Except Errno FileSystem := do
  let place ← fs.lastPlace start p .isDirectory
  match fs.node? place with
  | some (.directory _) => .error .isDirectory
  | some _ =>
    if p.bytes.getLast? = some Path.slash then .error .notDirectory
    else if fs.mayChange place.tail then .ok (fs.remove place)
    else .error .accessDenied
  | none => .error .noEntry

/-- Whether a place lies under another one, or is the same. -/
def isWithin (outer place : Place) : Bool := place.drop (place.length - outer.length) == outer

/-- Moves the node at one place, with everything under it, to another. -/
def movePlace (fs : FileSystem) (old new : Place) : FileSystem :=
  { fs with
    nodes := (fs.remove new).nodes.map fun (place, node) =>
      if isWithin old place then (place.take (place.length - old.length) ++ new, node)
      else (place, node) }

/-- Gives the node that `p` names the name `q`; what had that name is replaced. -/
def rename (fs : FileSystem) (start : Place) (p q : Path) : Except Errno FileSystem := do
  let old ← fs.lastPlace start p .invalidArgument
  let new ← fs.lastPlace start q .fileExists
  match fs.node? old with
  | none => .error .noEntry
  | some node =>
    if !(fs.mayChange old.tail && fs.mayChange new.tail) then .error .accessDenied
    else if old = new then .ok fs
    else
      match node, fs.node? new with
      | .directory _, some (.directory _) =>
        if !(fs.children new).isEmpty then .error .notEmpty
        else if isWithin old new then .error .invalidArgument
        else .ok (fs.movePlace old new)
      | .directory _, some _ => .error .notDirectory
      | _, some (.directory _) => .error .isDirectory
      | _, _ => if isWithin old new then .error .invalidArgument else .ok (fs.movePlace old new)

/-- The permission bits of what a path names. -/
def modeAt (fs : FileSystem) (start : Place) (p : Path) : Except Errno Nat :=
  (fs.locate start p).map fun place => (fs.metadataAt place).mode

/-- Changes the permission bits of what a path names. -/
def changeMode (fs : FileSystem) (start : Place) (p : Path) (mode : Nat) :
    Except Errno FileSystem := do
  let place ← fs.locate start p
  match fs.node? place with
  | some (.file n) => .ok (fs.modifyFile n fun d => { d with mode })
  | some (.directory _) => if place = [] then .ok fs else .ok (fs.put place (.directory mode))
  | _ => .error .notPermitted

/-- Makes a symbolic link. -/
def symlink (fs : FileSystem) (start : Place) (target p : Path) : Except Errno FileSystem := do
  let place ← fs.lastPlace start p .fileExists
  if (fs.node? place).isSome then .error .fileExists
  else if p.bytes.getLast? = some Path.slash then .error .noEntry
  else if fs.mayChange place.tail then .ok (fs.put place (.link target))
  else .error .accessDenied

/-- Gives a file one more name. -/
def hardLink (fs : FileSystem) (start : Place) (p q : Path) : Except Errno FileSystem := do
  let old ← fs.lastPlace start p .notPermitted
  let new ← fs.lastPlace start q .fileExists
  match fs.node? old, fs.node? new with
  | none, _ => .error .noEntry
  | _, some _ => .error .fileExists
  | some (.directory _), _ => .error .notPermitted
  | some node, none =>
    if q.bytes.getLast? = some Path.slash then .error .noEntry
    else if fs.mayChange new.tail then .ok (fs.put new node) else .error .accessDenied

/-- Opens a path for writing without emptying it, and makes the file if it is missing. -/
def touch (fs : FileSystem) (start : Place) (permissions : Nat) (p : Path) :
    Except Errno FileSystem :=
  (fs.openAt start permissions .append p).map Prod.snd

/-- Gives the file that a path names a date, or the present one. -/
def setDate (fs : FileSystem) (start : Place) (date : Option Int) (p : Path) :
    Except Errno FileSystem := do
  let place ← fs.locate start p
  match fs.node? place with
  | some (.file n) => .ok (fs.modifyFile n fun d => { d with date })
  | _ => .ok fs

/-- The date of what a path names, if it was given one. -/
def dateAt (fs : FileSystem) (start : Place) (p : Path) : Except Errno (Option Int) :=
  (fs.locate start p).map fun place => (fs.file? place).bind FileData.date

/-- Whether two paths name the same node. -/
def sameNode (fs : FileSystem) (start : Place) (p q : Path) : Bool :=
  match fs.locate start p, fs.locate start q with
  | .ok a, .ok b =>
    a = b || match fs.node? a, fs.node? b with
      | some (.file m), some (.file n) => m = n
      | _, _ => false
  | _, _ => false

/-- Whether the first path names something that was changed after what the second names.
What has no date of its own was changed lately. -/
def isNewer (fs : FileSystem) (start : Place) (p q : Path) : Bool :=
  match fs.dateAt start p, fs.dateAt start q with
  | .ok none, .ok (some _) => true
  | .ok (some a), .ok (some b) => b < a
  | _, _ => false

/-- The names in the directory that a path names. -/
def list (fs : FileSystem) (start : Place) (p : Path) : Except Errno (List Name) := do
  let place ← fs.locate start p
  match fs.node? place with
  | some (.directory mode) =>
    if ownerReads mode then .ok (fs.children place) else .error .accessDenied
  | _ => .error .notDirectory

end FileSystem
end LineShell
