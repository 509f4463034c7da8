import LineShell.Script.Syntax

/-! # Intervals of time

An interval is a decimal and a unit.  The sleeping that a command begins with tells when the rest
of it runs.
-/
namespace LineShell.Script

/-- The nanoseconds of an interval. -/
def interval? (w : Octets) : Option Nat :=
  let whole := w.takeWhile Char.isDigit
  let (decimals, unit) :=
    match w.drop whole.length with
    | '.' :: rest => (rest.takeWhile Char.isDigit, rest.dropWhile Char.isDigit)
    | rest => ([], rest)
  let seconds? : Option Nat :=
    match unit with
    | [] | ['s'] => some 1
    | ['m'] => some 60
    | ['h'] => some 3600
    | ['d'] => some 86400
    | _ => none
  if whole.isEmpty && decimals.isEmpty then none
  else seconds?.map fun seconds =>
    let ninths := (decimals ++ List.replicate 9 '0').take 9
    (Octets.readNat whole * 1000000000 + Octets.readNat ninths) * seconds

/-- The word that says how long a command sleeps before it does anything else. -/
def Command.sleep? : Command → Option Word
  | .simple _ _ [name, duration] _ =>
    if bareText? name = some "sleep".toList then some duration else none
  | .pipeline (c :: _) | .negated c | .both c _ | .either c _ | .sequence c _ | .subshell c
  | .branch c _ _ | .loop _ c _ | .redirected _ c _ => c.sleep?
  | _ => none

end LineShell.Script
