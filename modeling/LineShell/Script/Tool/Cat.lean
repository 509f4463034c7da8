import LineShell.Script.Tool.Basic

/-! # Passing contents on

`cat` writes what its operands hold, and `tee` writes its input to several files.  On the
way `cat` can number the lines and make visible what a reader would not see.
-/
namespace LineShell.Script
namespace Tool
open LineShell.Script.Action

/-- Whether what is written would come back as input: the output is the file that is read,
and does not end where the reading begins. -/
def feedsItself (operand : Octets) : Action Bool := do
  match ← channel? 1 with
  | some (_, .stored number position atEnd) =>
    let read ←
      if operand = ['-'] then
        match ← channel? 0 with
        | some (_, .stored n position _) => pure (some (n, position))
        | _ => pure none
      else
        match ← openPath .input operand with
        | .ok (.stored n _ _) => pure (some (n, 0))
        | _ => pure none
    match read with
    | some (n, begins) =>
      let size := (((← get).files.store[number]?).map (·.content.length)).getD 0
      return n == number && begins < if atEnd then size else position
    | none => return false
  | _ => return false

/-- What is to be seen of a text. -/
structure Display where
  /-- Lines are numbered, or only those that hold something. -/
  numbered : Bool
  skipsBlank : Bool
  /-- Of several blank lines only one is shown. -/
  squeezes : Bool
  ends : Bool
  tabs : Bool
  controls : Bool
  deriving DecidableEq, Repr

namespace Display

def ofOptions (os : List (Char × Octets)) : Display :=
  let any (letters : String) : Bool := letters.toList.any (has os)
  { numbered := any "nb", skipsBlank := any "b", squeezes := any "s", ends := any "AeE"
    tabs := any "AtT", controls := any "Aetv" }

/-- Whether a text is shown as it is. -/
def isPlain (d : Display) : Bool := d == ⟨false, d.skipsBlank, false, false, false, false⟩

/-- How far the writing has come: how many lines have a number, and how many newlines in a
row come before here; inside a line there is no such count. -/
structure Progress where
  lines : Nat := 0
  newlines : Option Nat := some 0

/-- A control character as the character that it is made of. -/
def caret (c : Char) : Octets :=
  if c = '\x7f' then ['^', '?'] else ['^', Char.ofNat (c.toNat + 64)]

/-- A character as printable ones. -/
def printable (c : Char) : Octets :=
  let low (c : Char) : Octets := if c < ' ' || c = '\x7f' then caret c else [c]
  if c.toNat < 128 then low c else 'M' :: '-' :: low (Char.ofNat (c.toNat - 128))

/-- A character inside a line; a return before the end of the line belongs to that. -/
def inLine (d : Display) (c : Char) (next : Option Char) : Octets :=
  if c = '\t' then if d.tabs then caret c else [c]
  else if d.controls then printable c
  else if c = '\r' && d.ends && next = some '\n' then caret c
  else [c]

/-- The number before a line. -/
def lineNumber (n : Nat) : Octets :=
  let ds := Octets.ofNat n
  List.replicate (6 - ds.length) ' ' ++ ds ++ ['\t']

/-- What is written for one character. -/
def step (d : Display) (p : Progress) (c : Char) (next : Option Char) : Progress × Octets :=
  let withNumber (wanted : Bool) (newlines : Option Nat) (cs : Octets) : Progress × Octets :=
    if wanted then (⟨p.lines + 1, newlines⟩, lineNumber (p.lines + 1) ++ cs)
    else (⟨p.lines, newlines⟩, cs)
  if c = '\n' then
    let ending : Octets := if d.ends then ['$', '\n'] else ['\n']
    match p.newlines with
    | none => withNumber false (some 0) ending
    | some n =>
      if d.squeezes && 0 < n then (p, [])
      else withNumber (d.numbered && !d.skipsBlank) (some (n + 1)) ending
  else withNumber (d.numbered && p.newlines.isSome) none (d.inLine c next)

/-- What is written for a text; what is written already comes reversed. -/
def displayed (d : Display) (written : Octets) : Progress → Octets → Progress × Octets
  | p, [] => (p, written.reverse)
  | p, c :: cs =>
    let (p, piece) := d.step p c cs.head?
    displayed d (piece.reverse ++ written) p cs

end Display

def cat : Tool := fun words =>
  let accepted : Accepted :=
    { plain := "AbeEnstTuv"
      long := [("number-nonblank", 'b'), ("number", 'n'), ("squeeze-blank", 's'),
        ("show-nonprinting", 'v'), ("show-ends", 'E'), ("show-tabs", 'T'), ("show-all", 'A')] }
  withOptions accepted 1 words fun os operands => do
    if (← channel? 1).isNone then
      report (Octets.ofString "standard output: " ++ explain .badDescriptor)
      return 1
    let d := Display.ofOptions os
    let mut progress : Display.Progress := {}
    let mut worst := 0
    for operand in orInput operands do
      if ← feedsItself operand then
        report (shown operand ++ Octets.ofString ": input file is output file")
        worst := 1
      else
        match ← input operand with
        | .ok cs =>
          let (after, text) := if d.isPlain then (progress, cs) else d.displayed [] progress cs
          progress := after
          worst := max worst (← put text)
        | .error e =>
          report (shown operand ++ [':', ' '] ++ explain e)
          worst := 1
    if operands.contains ['-'] || operands.isEmpty then
      if (← channel? 0).isNone then
        report (Octets.ofString "closing standard input: " ++ explain .badDescriptor)
        worst := 1
    return worst

def tee : Tool := fun words =>
  withOptions { plain := "aip", long := [("append", 'a'), ("ignore-interrupts", 'i')] } 1 words
    fun os operands => do
      let mut opened : List (Octets × Nat) := []
      let mut worst := 0
      for operand in operands do
        match ← openPath (if has os 'a' then .append else .output) operand with
        | .ok channel => opened := opened ++ [(operand, ← addChannel channel)]
        | .error e =>
          report (shown operand ++ [':', ' '] ++ explain e)
          worst := 1
      let read ← readAll 0
      if let .error e := read then
        report (Octets.ofString "read error: " ++ explain e)
        worst := 1
      let cs := read.toOption.getD []
      if let some e ← write 1 cs then
        report (quoted "standard output".toList ++ [':', ' '] ++ explain e)
        worst := 1
      let p ← process
      for (operand, channel) in opened do
        connect 1 channel
        if let some e ← write 1 cs then
          report (shown operand ++ [':', ' '] ++ explain e)
          worst := 1
      modifyProcess fun q => { q with descriptors := p.descriptors }
      return worst

end Tool
end LineShell.Script
