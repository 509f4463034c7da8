import LineShell.FileSystem.Resolve

/-! # Asking about files and writing them

The four questions that a command interpreter puts to a file tree: what a path names,
what the canonical path of that node is, whether a file can be opened for writing, and
whether bytes can be written to it.  Each is answered or refused with a fault; a refusal
leaves the tree as it was.

A relative path starts at the root, for the interpreter itself never leaves it: it puts
its own working directory before every path that it asks about.
-/
namespace LineShell

/-- What a node is, as far as the interpreter can tell. -/
inductive FileKind where
  | directory
  | regular
  | other
  deriving DecidableEq, Repr

/-- The answer to the question what a path names. -/
structure Metadata where
  kind : FileKind
  mode : Nat
  deriving DecidableEq, Repr

/-- How an existing file is opened for writing. -/
inductive WriteMode where
  /-- The file is emptied first. -/
  | overwrite
  /-- Everything goes behind what is there. -/
  | append
  deriving DecidableEq, Repr

/-- An open file.  One that was opened to be overwritten keeps the position of its next
byte; one opened to be appended to writes at the end, wherever that is by then. -/
inductive Handle where
  | within (number position : Nat)
  | atEnd (number : Nat)
  | device (kind : Device)
  deriving DecidableEq, Repr

namespace FileSystem

/-- What the node at a place is. -/
def metadataAt (fs : FileSystem) (place : Place) : Metadata :=
  match fs.node? place with
  | some (.directory mode) => ⟨.directory, mode⟩
  | some (.file n) => ⟨.regular, (fs.store[n]?.map FileData.mode).getD 0⟩
  | some (.device _) => ⟨.other, 0o666⟩
  | some (.link _) => ⟨.other, 0o777⟩
  | none => ⟨.other, 0⟩

/-- A path with a zero byte is refused before the system sees it. -/
def checked {α : Type} (p : Path) (answer : Except Errno α) : Except Fault α :=
  if p.hasZeroByte then .error .zeroByteInPath
  else match answer with
    | .ok a => .ok a
    | .error e => .error (.system e)

/-- What a path names, links followed. -/
def metadata (fs : FileSystem) (p : Path) : Except Fault Metadata :=
  checked p ((fs.locate [] p).map fs.metadataAt)

/-- Whether a name that these follow has to be a directory: there are only slashes and `.`
behind it, or a `..` comes before anything else. -/
def needsDirectory : List Name → Bool
  | [] => false
  | name :: rest =>
    if name = [] ∨ name = Path.dot then rest.isEmpty || needsDirectory rest
    else name = Path.dotDot

/-- The system can be asked about a place by its path; a slash behind it asks for a
directory. -/
def takes (place : Place) (rest : List Name) : Bool :=
  place.path.bytes.length + (needsDirectory rest).toNat ≤ maxPath

/-- Whether the way that `walkWith` takes can be traced from outside: the system is asked about
each node on it by its path, even if the way leads back from there, and takes no path that is
too long. -/
def traceableWith (fs : FileSystem) (jump : Place → List Name → Bool) :
    Place → List Name → Bool
  | _, [] => true
  | here, name :: rest =>
    if name = [] ∨ name = Path.dot then fs.traceableWith jump here rest
    else if name = Path.dotDot then fs.traceableWith jump here.tail rest
    else match fs.node? (name :: here) with
      | some (.link target) =>
        -- a link is read, whatever follows it
        takes (name :: here) [] && jump (target.origin here) (target.names ++ rest)
      | _ => takes (name :: here) rest && fs.traceableWith jump (name :: here) rest

/-- Whether a way with at most `links` links can be traced. -/
def traceable (fs : FileSystem) : Nat → Place → List Name → Bool
  | 0 => fs.traceableWith fun _ _ => true
  | links + 1 => fs.traceableWith (fs.traceable links)

/-- The path without links, `.` and `..` of the node that a path names.  It is put together name by
name, and the system has to be asked at each of them whether it is a link; so a path may name a
node and have no canonical path all the same. -/
def canonical (fs : FileSystem) (p : Path) : Except Fault Path :=
  checked p <|
    match fs.locate [] p with
    | .error e => .error e
    | .ok place =>
      if fs.traceable maxLinks [] p.names then .ok place.path else .error .nameTooLong

/-- Writing `bytes` over `content` from a position on; a gap before them is filled with
zeros.  Writing nothing changes nothing. -/
def overlay (content : Bytes) (position : Nat) (bytes : Bytes) : Bytes :=
  if bytes = [] then content
  else if content.length ≤ position then
    content ++ (List.replicate (position - content.length) 0 ++ bytes)
  else content.take position ++ (bytes ++ content.drop (position + bytes.length))

/-- The handle for the file with number `n`. -/
def handleFor (mode : WriteMode) (n : Nat) : Handle :=
  match mode with
  | .overwrite => .within n 0
  | .append => .atEnd n

/-- Opens the node at a place for writing. -/
def openPlace (fs : FileSystem) (mode : WriteMode) (place : Place) :
    Except Errno (Handle × FileSystem) :=
  match fs.node? place with
  | some (.file n) =>
    if ownerWrites ((fs.store[n]?.map FileData.mode).getD 0) then
      match mode with
      | .overwrite =>
        .ok (handleFor mode n, fs.modifyFile n fun d => { d with content := [], date := none })
      | .append => .ok (handleFor mode n, fs)
    else .error .accessDenied
  | some (.device kind) => .ok (.device kind, fs)
  | some (.directory _) => .error .isDirectory
  | some (.link _) => .error .tooManyLinks
  | none => .error .noEntry

/-- Opens a path for writing; a file that is missing in an existing directory is created
with the given permissions. -/
def openAt (fs : FileSystem) (start : Place) (permissions : Nat) (mode : WriteMode) (p : Path) :
    Except Errno (Handle × FileSystem) :=
  match fs.resolve .making start p with
  | .error e => .error e
  | .ok (.found place) => fs.openPlace mode place
  | .ok (.absent parent name) =>
    if fs.mayChange parent then
      -- the new file gets the next number
      .ok (handleFor mode fs.store.length,
        fs.create (name :: parent) { mode := permissions, content := [] })
    else .error .accessDenied

/-- Opens a path for writing. -/
def openFile (fs : FileSystem) (mode : WriteMode) (p : Path) :
    Except Fault (Handle × FileSystem) :=
  checked p (fs.openAt [] fileMode mode p)

/-- Writes bytes to an open file: the fault if they could not all be written, the handle
with its new position, and the tree.  Nothing is written of no bytes. -/
def write (fs : FileSystem) (h : Handle) (bytes : Bytes) : Option Fault × Handle × FileSystem :=
  match h with
  | .within n position =>
    (none, .within n (position + bytes.length),
      fs.modifyFile n fun d =>
        { d with
          content := overlay d.content position bytes
          date := if bytes = [] then d.date else none })
  | .atEnd n =>
    (none, h,
      fs.modifyFile n fun d =>
        { d with content := d.content ++ bytes, date := if bytes = [] then d.date else none })
  | .device .null => (none, h, fs)
  | .device .full => (if bytes = [] then none else some (.system .noSpace), h, fs)

/-- What has a canonical path. -/
theorem canonical_eq_ok_iff {fs : FileSystem} {p d : Path} :
    fs.canonical p = .ok d ↔ p.hasZeroByte = false ∧ fs.traceable maxLinks [] p.names = true ∧
      ∃ place, fs.locate [] p = .ok place ∧ place.path = d := by
  cases hzero : p.hasZeroByte <;> cases hplace : fs.locate [] p <;>
    cases htraceable : fs.traceable maxLinks [] p.names <;>
    simp [canonical, checked, hzero, hplace, htraceable]

@[simp] theorem overlay_nil (content : Bytes) (position : Nat) :
    overlay content position [] = content := by
  simp [overlay]

theorem overlay_length (content bytes : Bytes) :
    overlay content content.length bytes = content ++ bytes := by
  by_cases h : bytes = [] <;> simp [overlay, h]

end FileSystem
end LineShell
