import LineShell.Script.Intrinsic.Basic
import LineShell.Script.Lookup

/-! # Intrinsics of directories

The process believes to be in a directory whose path it has put together from the words of
`cd`, so that `..` undoes a name even if that was a link.  On demand it follows the links.
-/
namespace LineShell.Script
namespace Intrinsic
open LineShell.Script.Action

/-- The names of a path without `.`, and without every `..` and the name before it. -/
def normalise (names : List Octets) : List Octets :=
  (names.foldl (fun (kept : List Octets) name =>
    if name = [] ∨ name = ['.'] then kept
    else if name = ['.', '.'] then kept.tail
    else name :: kept) []).reverse

/-- Whether a path begins with two slashes and no more, which is kept. -/
def beginsWithTwo : Octets → Bool
  | '/' :: '/' :: rest => rest.head? != some '/'
  | _ => false

/-- The absolute path of a target as seen from a directory. -/
def logicalPath (directory target : Octets) : Octets :=
  let path :=
    if target.head? = some '/' then target
    else if directory.getLast? = some '/' then directory ++ target
    else directory ++ '/' :: target
  let names := normalise (Octets.splitAt '/' path)
  (if beginsWithTwo path then ['/'] else []) ++
    if names.isEmpty then ['/'] else names.flatMap ('/' :: ·)

/-- The path of the directory that the process is in. -/
def physicalPath : Action Octets := return Octets.ofBytes (Place.path (← process).directory).bytes

/-- Whether the links are to be followed; the last option decides. -/
def isPhysical (os : List (Char × Octets)) : Bool := os.getLast?.map Prod.fst == some 'P'

/-- Goes to a directory, if possible. -/
def enter (physical : Bool) (target : Octets) : Action Bool := do
  let p ← process
  let path := if physical then target else logicalPath p.logical target
  match ← ask fun fs start => (fs.locate start ⟨path.bytes⟩).map fun place =>
      (place, fs.maySearch place) with
  | .ok (place, true) =>
    modifyProcess fun p => { p with directory := place }
    let path ← if physical then physicalPath else pure path
    assignExported "OLDPWD".toList p.logical
    assignExported "PWD".toList path
    modifyProcess fun p => { p with logical := path }
    Lookup.doubtAll
    return true
  | _ => return false

/-- Whether a target is not looked for along `CDPATH`. -/
def isDirect (target : Octets) : Bool :=
  match Octets.cutAt '/' target with
  | ([], some _) => true
  | (first, _) => first = ['.'] || first = ['.', '.']

/-- The directory that a target means along `CDPATH`, and whether it is worth showing. -/
def alongPath (target : Octets) : List Octets → Action (Option (Octets × Bool))
  | [] => return none
  | directory :: rest => do
    let path := Lookup.pathIn directory target
    match ← ask fun fs start => (fs.locate start ⟨path.bytes⟩).map fs.metadataAt with
    | .ok m =>
      if m.kind == .directory then return some (path, !directory.isEmpty)
      else alongPath target rest
    | .error _ => alongPath target rest

/-- Goes to a directory, by default to the home directory. -/
def cd : Intrinsic := fun words => do
  let (os, words) ← options "LP" "" words
  let named (name : String) : Action Octets := return (← valueOf? name.toList).getD []
  let (target, shows) ←
    match words with
    | [] => do pure (← named "HOME", false)
    | ['-'] :: _ => do pure (← named "OLDPWD", true)
    | word :: _ => pure (word, false)
  let meant := if target.isEmpty then ['.'] else target
  let search := (← valueOf? "CDPATH".toList).map (Octets.splitAt ':')
  let directories := if isDirect target then [] else search.getD []
  let (path, found) := (← alongPath meant directories).getD (meant, false)
  if ← enter (isPhysical os) path then
    if shows || found then emit ((← process).logical ++ ['\n']) else return 0
  else fault (Octets.ofString "can't cd to " ++ meant)

/-- Shows the directory that the process is in. -/
def pwd : Intrinsic := fun words => do
  let (os, _) ← options "LP" "" words
  let path ← if isPhysical os then physicalPath else pure (← process).logical
  emit (path ++ ['\n'])

end Intrinsic
end LineShell.Script
