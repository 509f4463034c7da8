import LineShell.Script.Permissions
import LineShell.Script.Tool.Basic

/-! # Questions

Before something is lost, a tool may be asked to put a question.  The question goes to where
faults are reported, and a line of the input that begins with `y` agrees.
-/
namespace LineShell.Script
namespace Tool
open LineShell.Script.Action

/-- Puts a question. -/
def agreed (question : Octets) : Action Bool := do
  let _ ← write 2 ((← process).name ++ [':', ' '] ++ question ++ ['?', ' '])
  let (line, _) ← readLine 0
  return line.head? = some 'y' || line.head? = some 'Y'

/-- Whether to go on: a question is put only if it is to be. -/
def agreedIf (asks : Bool) (question : Action Bool) : Action Bool :=
  if asks then question else return true

/-- Carries out work that may put questions.  What has been read of a pipe with the answers is
gone when the tool ends. -/
def asking (work : Action Nat) : Action Nat := do
  let before ← channel? 0
  let status ← work
  match before, ← channel? 0 with
  | some (n, .source a), some (_, .source b) =>
    if a.length ≠ b.length then setChannel n (.source [])
    return status
  | _, _ => return status

/-- The permissions of what a path names if its owner may not write to it; a link has none of
its own. -/
def protection? (path : Octets) : Action (Option Nat) := do
  match ← ask fun fs start => fs.nodeAt start (pathOf path) with
  | .ok (.link _) => return none
  | _ =>
    match ← ask fun fs start => fs.modeAt start (pathOf path) with
    | .ok mode => return if FileSystem.ownerWrites mode then none else some mode
    | .error _ => return none

/-- Permissions as four octal digits. -/
def octalMode (mode : Nat) : Octets :=
  let digits := Nat.toDigits 8 mode
  List.replicate (4 - digits.length) '0' ++ digits

/-- Asks whether a file may be overwritten; `replaces` says whether another takes its place. -/
def mayOverwrite (replaces : Bool) (path : Octets) : Action Bool := do
  match ← protection? path with
  | none => agreed (Octets.ofString "overwrite " ++ quoted path)
  | some mode =>
    if replaces then
      agreed (Octets.ofString "replace " ++ quoted path ++ Octets.ofString ", overriding mode " ++
        octalMode mode ++ [' ', '('] ++ Permissions.text mode ++ [')'])
    else
      agreed (Octets.ofString "unwritable " ++ quoted path ++ Octets.ofString " (mode " ++
        octalMode mode ++ [',', ' '] ++ Permissions.text mode ++ Octets.ofString "); try anyway")

/-- What is at a path, in words. -/
def kindWords (path : Octets) : Action Octets := do
  match ← ask fun fs start => fs.nodeAt start (pathOf path) with
  | .ok (.directory _) => return Octets.ofString "directory"
  | .ok (.link _) => return Octets.ofString "symbolic link"
  | .ok (.device _) => return Octets.ofString "character special file"
  | _ =>
    match ← ask fun fs start => fs.readAt start (pathOf path) with
    | .ok [] => return Octets.ofString "regular empty file"
    | _ => return Octets.ofString "regular file"

/-- Asks whether what is at a path may be removed. -/
def mayRemove (path : Octets) : Action Bool := do
  let guarded := if (← protection? path).isSome then "write-protected " else ""
  agreed (Octets.ofString ("remove " ++ guarded) ++ (← kindWords path) ++ [' '] ++ quoted path)

/-- Asks whether the contents of a directory may be removed. -/
def mayDescend (path : Octets) : Action Bool := do
  let guarded := if (← protection? path).isSome then "write-protected " else ""
  agreed (Octets.ofString ("descend into " ++ guarded ++ "directory ") ++ quoted path)

end Tool
end LineShell.Script
