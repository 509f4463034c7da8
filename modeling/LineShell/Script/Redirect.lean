import LineShell.Script.Machine

/-! # Redirections

All targets are expanded before the first file is opened; the texts of here-documents are
expanded when it is their turn.
-/
namespace LineShell.Script

namespace Redirect
open LineShell.Script.Action

/-- Why a file could not be opened, in the words of a script. -/
def openingFault (creating : Bool) (e : Errno) : Octets :=
  if e = .noEntry ∨ e = .notDirectory then
    Octets.ofString (if creating then "Directory nonexistent" else "No such file")
  else Octets.ofString e.description

/-- Whether a text can be the source of a copy. -/
def isSource : Octets → Bool
  | [c] => c.isDigit || c == '-'
  | _ => false

/-- Expands the target of a redirection. -/
def aim (textOf : Word → Action Octets) : Redirection → Action Aimed
  | .mk fd .document text => return .document fd text
  | .mk fd .duplicate target => do
    let source ← textOf target
    if isSource source then return .copy fd source
    else
      modifyProcess fun p => { p with line := p.linesRead }
      fault (Octets.ofString "Syntax error: Bad fd number")
  | .mk fd kind target => return .path fd kind (← textOf target)

/-- Carries out one redirection; it says whether that was possible.  A fault in the text of a
here-document is one of the redirection. -/
def carryOut (textOf : Word → Action Octets) : Aimed → Action Bool
  | .document fd text => do
    match ← caught (textOf text) with
    | .ok cs =>
      connect fd (← addChannel (.source cs))
      return true
    | .error .failed => return false
    | .error h => throw h
  | .copy fd ['-'] => do
    disconnect fd
    return true
  | .copy fd source => do
    match (← process).descriptors.lookup (Octets.readNat source) with
    | some n =>
      connect fd n
      return true
    | none =>
      warn (source ++ Octets.ofString ": Bad file descriptor")
      return false
  | .path fd kind path => do
    match ← openPath kind path with
    | .ok channel =>
      connect fd (← addChannel channel)
      return true
    | .error e =>
      -- what is there and no regular file is only opened if nothing may be overwritten
      let isKept := kind == .output && e == .isDirectory && (← isOn "noclobber")
      let creating := kind != .input && !isKept
      warn (Octets.ofString (if creating then "cannot create " else "cannot open ") ++ path ++
        [':', ' '] ++ openingFault creating e)
      return false

/-- Carries out redirections up to the first that is not possible. -/
def carryOutAll (textOf : Word → Action Octets) : List Aimed → Action Bool
  | [] => return true
  | r :: rs => do
    if ← carryOut textOf r then carryOutAll textOf rs else return false

/-- Carries out the redirections of a command. -/
def perform (textOf : Word → Action Octets) (rs : List Redirection) : Action Bool := do
  carryOutAll textOf (← rs.mapM (aim textOf))

end Redirect
end LineShell.Script
