import LineShell.Script.Grammar
import LineShell.Script.Intrinsic.Table

/-! # What the name of a command means

A name is a reserved word, an alias, a function, an intrinsic or a program, and the first of
these that it is decides what is said about it.
-/
namespace LineShell.Script
namespace Meaning
open LineShell.Script.Action

/-- The intrinsics that are regular and run other commands, or tell about them. -/
def aboutCommands : List String := ["command", "type"]

def isAmong (table : List String) (name : Octets) : Bool := table.any (·.toList == name)

/-- Whether a name is that of an intrinsic that is not special. -/
def isRegular (name : Octets) : Bool :=
  isAmong (Intrinsic.regular.map Prod.fst ++ aboutCommands) name

/-- Where the program of a name is, and whether that was known. -/
def program (name : Octets) : Action (Except Errno (Octets × Bool)) := do
  if name.contains '/' then
    ask fun fs start => (fs.locate start ⟨name.bytes⟩).map fun _ => (name, false)
  else
    let known := ((← process).found.lookup name).isSome
    return (← Lookup.findFile true name).map fun path => (path, known)

/-- Looks for the program that a command begins with, before the command runs. -/
def foresee : Command → Action Unit
  | .simple _ _ (w :: _) _ => do
    let name := (bareText? w).getD []
    let isDefined := ((← process).functions.lookup name).isSome
    if isName name && !isDefined && !isAmong Reader.specialNames name && !isRegular name then
      let _ ← Lookup.findFile true name
  | _ => return ()

/-- Says what a name means: in a sentence, or so that it can be used. -/
def describe (verbose : Bool) (name : Octets) : Action Nat := do
  let say (brief : Octets) (long : String) : Action Nat :=
    Intrinsic.emit ((if verbose then name ++ Octets.ofString (" is " ++ long) else brief) ++ ['\n'])
  let p ← process
  if isAmong reservedWords name then say name "a shell keyword"
  else
    match p.aliases.lookup name with
    | some text =>
      Intrinsic.emit ((if verbose then name ++ Octets.ofString " is an alias for " ++ text
        else Octets.ofString "alias " ++ Intrinsic.aliasText name text) ++ ['\n'])
    | none =>
      if (p.functions.lookup name).isSome then say name "a shell function"
      else if isAmong Reader.specialNames name then say name "a special shell builtin"
      else if isRegular name then say name "a shell builtin"
      else
        match ← program name with
        | .ok (path, known) =>
          let how := if known then " is a tracked alias for " else " is "
          Intrinsic.emit ((if verbose then name ++ Octets.ofString how ++ path else path) ++ ['\n'])
        | .error _ =>
          if verbose then
            let _ ← Intrinsic.emit (name ++ Octets.ofString ": not found\n")
          return 127

end Meaning
end LineShell.Script
