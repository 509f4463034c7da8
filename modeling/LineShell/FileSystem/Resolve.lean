import LineShell.FileSystem.Basic

/-! # From paths to places

A path is resolved name by name.  `.` stays, `..` goes to the parent, a symbolic link
is replaced by the names of its target, and an empty name (a repeated or a final slash)
stays but, like any name that follows, needs a directory before it.  At most forty links
are followed on the way.

Resolution ends at a node, or at a name that is missing in an existing directory; both
are wanted, since a file is created under a missing name.  Where that may happen, a slash
behind the last name is refused, whatever the name leads to.
-/
namespace LineShell

/-- Where a path leads. -/
inductive Target where
  | found (place : Place)
  | absent (parent : Place) (name : Name)
  deriving DecidableEq, Repr

namespace Path

def dot : Name := [46]

def dotDot : Name := [46, 46]

/-- The place from which the names of a path are followed. -/
def origin (p : Path) (start : Place) : Place := if p.isAbsolute then [] else start

end Path

/-- What a path is followed for. -/
inductive Purpose where
  /-- To find what is there. -/
  | finding
  /-- To open the file that is there, or to make one. -/
  | making
  deriving DecidableEq, Repr

namespace FileSystem
open LineShell.Path

/-- The greatest length of a name, of a path, and of a chain of links. -/
def maxName : Nat := 255

def maxPath : Nat := 4095

def maxLinks : Nat := 40

/-- Whether the names that follow the last one are those of slashes. -/
def onlySlashes (names : List Name) : Bool := names != [] && names.all (· = [])

/-- Follows names from the directory `here`.  A link hands the remaining names, put
after those of its target, to `jump`. -/
def walkWith (fs : FileSystem) (purpose : Purpose)
    (jump : Place → List Name → Except Errno Target) :
    Place → List Name → Except Errno Target
  | here, [] => .ok (.found here)
  | here, name :: rest =>
    if name = [] then fs.walkWith purpose jump here rest
    else if !fs.maySearch here then .error .accessDenied
    else if name = dot then fs.walkWith purpose jump here rest
    else if name = dotDot then fs.walkWith purpose jump here.tail rest
    else if purpose = .making ∧ onlySlashes rest then .error .isDirectory
    else if maxName < name.length then .error .nameTooLong
    else match fs.node? (name :: here) with
      | none => if rest = [] then .ok (.absent here name) else .error .noEntry
      | some (.directory _) => fs.walkWith purpose jump (name :: here) rest
      -- a link is relative to the directory that holds it
      | some (.link target) => jump (target.origin here) (target.names ++ rest)
      | some _ => if rest = [] then .ok (.found (name :: here)) else .error .notDirectory

/-- Follows names while at most `links` links come up. -/
def walk (fs : FileSystem) (purpose : Purpose) :
    Nat → Place → List Name → Except Errno Target
  | 0 => fs.walkWith purpose fun _ _ => .error .tooManyLinks
  | links + 1 => fs.walkWith purpose (fs.walk purpose links)

/-- Where a path leads that is followed from the directory `start`. -/
def resolve (fs : FileSystem) (purpose : Purpose) (start : Place) (p : Path) :
    Except Errno Target :=
  if p.bytes = [] then .error .noEntry
  else if maxPath < p.bytes.length then .error .nameTooLong
  else fs.walk purpose maxLinks (p.origin start) p.names

/-- The place of the node that a path names. -/
def locate (fs : FileSystem) (start : Place) (p : Path) : Except Errno Place :=
  match fs.resolve .finding start p with
  | .ok (.found place) => .ok place
  | .ok (.absent _ _) => .error .noEntry
  | .error e => .error e

/-- The names of a path up to its last, and the last: a final slash does not count. -/
def splitLast (names : List Name) : List Name × Option Name :=
  match names.reverse.dropWhile (· = []) with
  | [] => (names, none)
  | last :: before => (before.reverse, some last)

/-- The directory in which the last name of a path is looked up, and that name; there
is none if the path ends in `.`, `..` or is the root.  Links before the last name are
followed, and the last is left as it is. -/
def resolveParent (fs : FileSystem) (start : Place) (p : Path) :
    Except Errno (Place × Option Name) :=
  if p.bytes = [] then .error .noEntry
  else if maxPath < p.bytes.length then .error .nameTooLong
  else
    let (before, last) := splitLast p.names
    -- the empty name behind them makes sure that they lead to a directory
    match fs.walk .finding maxLinks (p.origin start) (before ++ [[]]) with
    | .error e => .error e
    | .ok (.absent _ _) => .error .noEntry
    | .ok (.found parent) =>
      match last with
      | none => .ok (parent, none)
      | some name => .ok (parent, if name = dot ∨ name = dotDot then none else some name)

end FileSystem

/-- The absolute path of a place. -/
def Place.path (place : Place) : Path :=
  match place with
  | [] => ⟨[Path.slash]⟩
  | _ => ⟨place.reverse.flatMap (Path.slash :: ·)⟩

end LineShell
