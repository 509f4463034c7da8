import LineShell.Script.Tool.Question
import LineShell.Script.Tool.Tree

/-! # Where operands go

The tools `mv`, `cp` and `ln` make what their first operands name available under the last: in
it, if that is a directory, or else in its place.  An option may name the directory instead.
-/
namespace LineShell.Script
namespace Tool
open LineShell.Script.Action

/-- Two names with an arrow between them. -/
def arrow (source : Octets) (sign : String) (target : Octets) : Octets :=
  quoted source ++ Octets.ofString sign ++ quoted target

/-- Reports that two operands are one file. -/
def sameFile (source target : Octets) : Action Nat := do
  report (arrow source " and " target ++ Octets.ofString " are the same file")
  return 1

/-- A path with a final slash can only name a directory. -/
def endsInSlash (path : Octets) : Bool := path.getLast? == some '/'

/-- What a directory for operands is called when there is none. -/
inductive DirectoryWords where
  | ofTransfer
  | ofLinking
  deriving DecidableEq, Repr

/-- Why a path is no directory, in words. -/
def DirectoryWords.fault (w : DirectoryWords) (path : Octets) (e : Errno) : Octets :=
  match w with
  | .ofTransfer => Octets.ofString "target directory " ++ quoted path ++ [':', ' '] ++ explain e
  | .ofLinking =>
    if e = .notDirectory then
      Octets.ofString "target " ++ quoted path ++ Octets.ofString " is not a directory"
    else Octets.ofString "failed to access " ++ quoted path ++ [':', ' '] ++ explain e

/-- The options for the directory that are of no use together, in words. -/
def DirectoryWords.conflict : DirectoryWords → Octets
  | .ofTransfer => Octets.ofString
      "cannot combine --target-directory (-t) and --no-target-directory (-T)"
  | .ofLinking => Octets.ofString "cannot combine --target-directory and --no-target-directory"

/-- Why a path names no directory. -/
def directoryFault? (path : Octets) : Action (Option Errno) := do
  match ← ask fun fs start => (fs.locate start (pathOf path)).map fs.metadataAt with
  | .ok m => return if m.kind == .directory then none else some .notDirectory
  | .error e => return some e

/-- Whether operands are put into the last one: a directory, unless it is to be replaced. -/
def takesOperands (os : List (Char × Octets)) (path : Octets) : Action Bool := do
  if has os 'T' then return false
  else if has os 'n' then
    match ← ask fun fs start => fs.nodeAt start (pathOf path) with
    | .ok (.link _) => return false
    | _ => isDirectory path
  else isDirectory path

/-- Runs a tool's work on every operand but the last, and the path that it goes to; or on every
operand, if an option names the directory. -/
def towardsLast (w : DirectoryWords) (os : List (Char × Octets)) (operands : List Octets)
    (isPlace : Octets → Action Bool) (work : Octets → Octets → Action Nat) : Action Nat := do
  let refuse (fault : Octets) : Action Nat := do
    report fault
    return 1
  let into (directory : Octets) (operands : List Octets) : Action Nat :=
    eachOperand operands fun operand => work operand (inDirectory directory (baseName operand))
  match (os.filter (·.1 == 't')).map Prod.snd, operands with
  | _ :: _ :: _, _ => refuse (Octets.ofString "multiple target directories specified")
  | _, [] => misused 1 (Octets.ofString "missing file operand")
  | [directory], _ =>
    if has os 'T' then refuse w.conflict
    else
      match ← directoryFault? directory with
      | some e => refuse (w.fault directory e)
      | none => into directory operands
  | [], [only] =>
    misused 1 (Octets.ofString "missing destination file operand after " ++ quoted only)
  | [], first :: second :: rest =>
    match has os 'T', rest with
    | true, extra :: _ => misused 1 (Octets.ofString "extra operand " ++ quoted extra)
    | _, _ =>
      let last := rest.getLast?.getD second
      if ← isPlace last then into last operands.dropLast
      else if rest.isEmpty then work first last
      else
        let found ← directoryFault? last
        refuse (Octets.ofString "target " ++ quoted last ++ [':', ' '] ++
          explain (found.getD .notDirectory))

/-- Whether a file is left alone, because what would replace it is no newer. -/
def keepsNewer (os : List (Char × Octets)) (source target : Octets) : Action Bool := do
  if !has os 'u' then return false
  else
    match ← ask fun fs start => .ok (fs.isNewer start (pathOf source) (pathOf target)) with
    | .ok newer => return !newer
    | .error _ => return false

end Tool
end LineShell.Script
