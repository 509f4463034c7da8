import LineShell.Script.Tool.Basic

/-! # Counting contents

`wc` counts the lines, words and bytes of its operands, and adds them up.
-/
namespace LineShell.Script
namespace Tool
open LineShell.Script.Action

/-- The lines, words and bytes of a text, and the columns of its longest line. -/
structure Counts where
  lines : Nat := 0
  words : Nat := 0
  bytes : Nat := 0
  longest : Nat := 0
  deriving DecidableEq, Repr

namespace Counts

/-- The counts of two texts together. -/
def add (a b : Counts) : Counts :=
  ⟨a.lines + b.lines, a.words + b.words, a.bytes + b.bytes, max a.longest b.longest⟩

/-- How far the counting has come: the counts so far, the column, and whether a word has begun. -/
structure Progress where
  counts : Counts := {}
  column : Nat := 0
  inWord : Bool := false

namespace Progress

/-- Ends the line at hand, of which the longest counts. -/
def endLine (p : Progress) : Progress :=
  { counts := { p.counts with longest := max p.counts.longest p.column } }

/-- Counts one character.  What cannot be printed is part of no word. -/
def step (p : Progress) (c : Char) : Progress :=
  let p := { p with counts := { p.counts with bytes := p.counts.bytes + 1 } }
  if c = '\n' then
    let p := p.endLine
    { p with counts := { p.counts with lines := p.counts.lines + 1 } }
  else if c = '\r' || c = '\x0c' then p.endLine
  else if c = '\t' then { p with column := p.column / 8 * 8 + 8, inWord := false }
  else if c = ' ' then { p with column := p.column + 1, inWord := false }
  else if c = '\x0b' then { p with inWord := false }
  else if '!' ≤ c && c ≤ '~' then
    let begun := if p.inWord then 0 else 1
    { counts := { p.counts with words := p.counts.words + begun }
      column := p.column + 1, inWord := true }
  else p

end Progress

def ofText (cs : Octets) : Counts := (cs.foldl Progress.step {}).endLine.counts

/-- The counts that the letters of options ask for, in their order. -/
def chosen (c : Counts) (letters : List Char) : List Nat :=
  [('l', c.lines), ('w', c.words), ('m', c.bytes), ('c', c.bytes), ('L', c.longest)].filterMap
    fun (letter, n) => if letters.contains letter then some n else none

end Counts

/-- A number in a column. -/
def column (width n : Nat) : Octets :=
  let ds := Octets.ofNat n
  List.replicate (width - ds.length) ' ' ++ ds

/-- The size of the regular file that an operand names, if it names one. -/
def sizeOf (operand : Octets) : Action (Except Errno (Option Nat)) := do
  if operand = ['-'] then
    match ← channel? 0 with
    | none => return .error .badDescriptor
    | some (_, .stored number ..) =>
      return .ok ((← get).files.store[number]?.map (·.content.length))
    | _ => return .ok none
  else
    ask fun fs start => do
      let place ← fs.locate start (pathOf operand)
      return (fs.file? place).map (·.content.length)

/-- The width of the columns for operands of some sizes: that of the sum of the sizes, but
seven where a size is not known.  A single number needs no column. -/
def columnWidth (single : Bool) (sizes : List (Except Errno (Option Nat))) : Nat :=
  if single then 1
  else
    let known := sizes.filterMap Except.toOption
    max (if known.any Option.isNone then 7 else 1)
      (Octets.ofNat (known.foldl (fun n size => n + size.getD 0) 0)).length

def wc : Tool := fun words =>
  let accepted : Accepted :=
    { plain := "lwcmL"
      long := [("lines", 'l'), ("words", 'w'), ("bytes", 'c'), ("chars", 'm'),
        ("max-line-length", 'L')] }
  withOptions accepted 1 words fun os operands => do
    let letters := if os.isEmpty then ['l', 'w', 'c'] else os.map Prod.fst
    let inputs := orInput operands
    let sizes ← inputs.mapM sizeOf
    let width := columnWidth (inputs.length == 1 && letters.eraseDups.length == 1) sizes
    let row (c : Counts) (name : Octets) : Octets :=
      [' '].intercalate ((c.chosen letters).map (column width)) ++
        (if name.isEmpty then [] else ' ' :: name) ++ ['\n']
    let mut worst := 0
    let mut total : Counts := {}
    for operand in inputs do
      let name := if operands.isEmpty then [] else operand
      match ← input operand with
      | .ok cs =>
        let c := Counts.ofText cs
        total := total.add c
        worst := max worst (← put (row c name))
      | .error e =>
        let label := if operands.isEmpty then quoted "standard input".toList else shown operand
        report (label ++ [':', ' '] ++ explain e)
        worst := 1
        if e = .isDirectory then worst := max worst (← put (row {} name))
    if inputs.length > 1 then
      worst := max worst (← put (row total "total".toList))
    return worst

end Tool
end LineShell.Script
