import LineShell.Script.Machine

/-! # Looking for programs

A name with a slash is a path.  Any other is looked for in the directories of the search
path, and what was found there is remembered by the process, until its search path changes
or it goes to another directory.
-/
namespace LineShell.Script
namespace Lookup
open LineShell.Script.Action

/-- A name in a directory of the search path; an empty directory is the present one. -/
def pathIn (directory name : Octets) : Octets :=
  if directory.isEmpty then name else directory ++ '/' :: name

/-- The first executable file of a name in some directories, or why there is none. -/
def search (name : Octets) : List Octets → Errno → Action (Except Errno Octets)
  | [], fault => return .error fault
  | directory :: rest, fault => do
    let path := pathIn directory name
    match ← ask fun fs start => (fs.locate start ⟨Octets.bytes path⟩).map fs.metadataAt with
    | .ok m =>
      if m.kind == .regular && FileSystem.ownerExecutes m.mode then return .ok path
      else search name rest .accessDenied
    | .error e => search name rest (if e = .noEntry ∨ e = .notDirectory then fault else e)

/-- The directories of the search path. -/
def directories : Action (List Octets) := do
  return ((← valueOf? "PATH".toList).map (Octets.splitAt ':')).getD []

/-- Remembers where a name was found. -/
def remember (name path : Octets) : Action Unit :=
  modifyProcess fun p =>
    if (p.found.lookup name).isSome then { p with
      found := p.found.map fun (n, e) => if n = name then (n, path, false) else (n, e) }
    else { p with found := p.found ++ [(name, path, false)] }

/-- Looks for the file that a name means, and with `remembers` also among what was found
before. -/
def findFile (remembers : Bool) (name : Octets) : Action (Except Errno Octets) := do
  if name.contains '/' then return .ok name
  else
    match (← process).found.lookup name, remembers with
    | some (path, false), true => return .ok path
    | _, _ =>
      let found ← search name (← directories) .noEntry
      match found, remembers with
      | .ok path, true => remember name path
      | _, _ => pure ()
      return found

/-- Forgets where a name was found. -/
def forget (name : Octets) : Action Unit :=
  modifyProcess fun p => { p with found := p.found.filter (·.1 != name) }

/-- Takes note that what was found may be in another place, as seen from a new directory. -/
def doubtAll : Action Unit :=
  modifyProcess fun p => { p with found := p.found.map fun (n, path, _) => (n, path, true) }

/-- Why no program was executed, in the words of a script. -/
def explain (e : Errno) : Octets :=
  if e = .noEntry ∨ e = .notDirectory then Octets.ofString "not found"
  else Octets.ofString e.description

end Lookup
end LineShell.Script
