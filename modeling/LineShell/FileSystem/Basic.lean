import LineShell.Path
import LineShell.Fault

/-! # File trees

A file tree assigns nodes to places.  A place is the list of names on the way to it
from the root, the innermost name first, so that the parent of a place is its tail.
A regular file is stored apart from its places and found by its number: it may have
several places or, once they are removed, none while it is still open.

Permissions are those of the one user to whom every file belongs: the three bits of
the owner decide.
-/
namespace LineShell

/-- A name in a directory. -/
abbrev Name := Bytes

/-- The names on the way to a node, the innermost first; the root is the empty list. -/
abbrev Place := List Name

/-- The special files. -/
inductive Device where
  /-- Takes everything and holds nothing. -/
  | null
  /-- Has no room for a single byte. -/
  | full
  deriving DecidableEq, Repr

/-- What a place may hold. -/
inductive Node where
  | directory (mode : Nat)
  | file (number : Nat)
  | link (target : Path)
  | device (kind : Device)
  deriving DecidableEq, Repr

/-- A regular file: its permission bits and its contents. -/
structure FileData where
  mode : Nat
  content : Bytes
  /-- The date that it was given by hand, in seconds, if it was not written to afterwards. -/
  date : Option Int := none
  deriving DecidableEq, Repr

/-- A file tree.  The file with number `n` is the entry of `store` at position `n`. -/
structure FileSystem where
  nodes : List (Place × Node)
  store : List FileData
  deriving DecidableEq, Repr

namespace FileSystem

/-- The tree that has a root and nothing in it. -/
def empty : FileSystem := ⟨[], []⟩

/-- The permission bits of a new directory and of a new file. -/
def directoryMode : Nat := 0o755

def fileMode : Nat := 0o644

/-- The node at a place; the root is always a directory. -/
def node? (fs : FileSystem) : Place → Option Node
  | [] => some (.directory directoryMode)
  | place => fs.nodes.lookup place

/-- The regular file at a place. -/
def file? (fs : FileSystem) (place : Place) : Option FileData :=
  match fs.node? place with
  | some (.file n) => fs.store[n]?
  | _ => none

/-- Puts a node at a place, in the stead of what was there. -/
def put (fs : FileSystem) (place : Place) (node : Node) : FileSystem :=
  { fs with nodes := (place, node) :: fs.nodes.filter (·.1 != place) }

/-- Takes the node at a place away. -/
def remove (fs : FileSystem) (place : Place) : FileSystem :=
  { fs with nodes := fs.nodes.filter (·.1 != place) }

/-- Adds a new regular file at a place. -/
def create (fs : FileSystem) (place : Place) (data : FileData) : FileSystem :=
  { fs.put place (.file fs.store.length) with store := fs.store ++ [data] }

/-- Changes the file with number `n`. -/
def modifyFile (fs : FileSystem) (n : Nat) (f : FileData → FileData) : FileSystem :=
  { fs with store := fs.store.modify n f }

/-- The owner's right to read, to write and to execute or search. -/
def ownerReads (mode : Nat) : Bool := mode.testBit 8

def ownerWrites (mode : Nat) : Bool := mode.testBit 7

def ownerExecutes (mode : Nat) : Bool := mode.testBit 6

/-- A name can be looked up in a directory that its owner may search. -/
def maySearch (fs : FileSystem) (place : Place) : Bool :=
  match fs.node? place with
  | some (.directory mode) => ownerExecutes mode
  | _ => false

/-- A directory's entries can be changed if its owner may write and search it. -/
def mayChange (fs : FileSystem) (place : Place) : Bool :=
  match fs.node? place with
  | some (.directory mode) => ownerWrites mode && ownerExecutes mode
  | _ => false

/-- The names in a directory. -/
def children (fs : FileSystem) (place : Place) : List Name :=
  fs.nodes.filterMap fun
    | (name :: parent, _) => if parent = place then some name else none
    | ([], _) => none

/-- Looking up in a list of which only some places are kept. -/
theorem lookup_filter (keep : Place → Bool) (place : Place) (l : List (Place × Node)) :
    (l.filter fun e => keep e.1).lookup place = if keep place then l.lookup place else none := by
  induction l with
  | nil => simp
  | cons e l ih =>
    obtain ⟨p, n⟩ := e
    by_cases hp : place = p
    · subst hp
      cases hk : keep place <;> simp [hk, ih]
    · have hb : (place == p) = false := beq_eq_false_iff_ne.mpr hp
      cases hk : keep p <;> simp [hk, List.lookup_cons, hb, ih]

/-- A node that was put is found. -/
theorem node?_put_self (fs : FileSystem) (node : Node) {place : Place} (h : place ≠ []) :
    (fs.put place node).node? place = some node := by
  cases place with
  | nil => exact absurd rfl h
  | cons _ _ => simp [put, node?]

/-- Nothing changes at any other place. -/
theorem node?_put_of_ne (fs : FileSystem) (node : Node) {place other : Place}
    (h : other ≠ place) : (fs.put place node).node? other = fs.node? other := by
  cases other with
  | nil => rfl
  | cons a l =>
    have hb : ((a :: l) == place) = false := beq_eq_false_iff_ne.mpr h
    simp only [put, node?, List.lookup_cons, hb]
    simp [lookup_filter (· != place), h]

@[simp] theorem node?_modifyFile (fs : FileSystem) (n : Nat) (f : FileData → FileData) :
    (fs.modifyFile n f).node? = fs.node? := by
  funext place
  cases place <;> rfl

end FileSystem
end LineShell
