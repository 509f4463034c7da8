import LineShell.Script.Format
import LineShell.Script.Tool.Basic

/-! # Tools that write what their words say

Writing words and formats, taking paths apart, showing variables and the directory, and
waiting.
-/
namespace LineShell.Script
namespace Tool
open LineShell.Script.Action

/-- The tool `echo` keeps backslashes unless it is asked to replace them. -/
def echo : Tool := fun words => do
  let isOption (w : Octets) : Bool :=
    match w with
    | '-' :: c :: cs => (c :: cs).all "neE".toList.contains
    | _ => false
  let letters := (words.takeWhile isOption).flatMap List.tail
  let text := [' '].intercalate (words.dropWhile isOption)
  let replacing := letters.reverse.find? (fun c => c == 'e' || c == 'E') == some 'e'
  let w : Format.Written := if replacing then Format.unescape true text.length text else ⟨text, false⟩
  put (if letters.contains 'n' || w.ended then w.text else w.text ++ ['\n'])

/-- The tool `printf` computes with numbers of 80 bits. -/
def dialect : Format.Dialect :=
  { reals := .extended, shown := cited, noNumber := ": expected a numeric value"
    leftOver := ": value not completely converted", rangeFirst := true, moreEscapes := true }

def printf : Tool := fun words => do
  match if words.head? = some ['-', '-'] then words.tail else words with
  | [] => misused 1 (Octets.ofString "missing operand")
  | format :: arguments =>
    let p := Format.printf dialect format arguments
    let written ← put p.text
    for c in p.complaints do
      report c
    match p.stop with
    | some (.invalid d) | some (.unfinished d) =>
      report (d ++ Octets.ofString ": invalid conversion specification")
      return 1
    | some .noDigits =>
      report (Octets.ofString "missing hexadecimal number in escape")
      return 1
    | none =>
      match p.left with
      | [] => pure ()
      | extra :: _ =>
        report (Octets.ofString "warning: ignoring excess arguments, starting with " ++
          cited extra)
      return if p.failed then 1 else written

/-! ## Paths -/

/-- A name without an ending, if there is more to it than that. -/
def withoutEnding (ending name : Octets) : Octets :=
  if ending.reverse.isPrefixOf name.reverse && name != ending then
    name.take (name.length - ending.length)
  else name

/-- What ends every text that is written: a newline, or a zero. -/
def terminator (os : List (Char × Octets)) : Char := if has os 'z' then '\x00' else '\n'

/-- Writes the last names of paths: of all operands, or of the first, the second being an ending
that is left out. -/
def basename : Tool := fun words =>
  let accepted : Accepted :=
    { plain := "az", valued := "s"
      long := [("multiple", 'a'), ("suffix", 's'), ("zero", 'z')] }
  withOptions accepted 1 words fun os operands => do
    let write (ending path : Octets) : Action Nat :=
      put (withoutEnding ending (baseName path) ++ [terminator os])
    match operands with
    | [] => misused 1 (Octets.ofString "missing operand")
    | path :: rest =>
      if has os 'a' || has os 's' then eachOperand operands (write ((valueOf os 's').getD []))
      else
        match rest with
        | [] => write [] path
        | [ending] => write ending path
        | _ :: extra :: _ => misused 1 (Octets.ofString "extra operand " ++ cited extra)

def dirname : Tool := fun words =>
  withOptions { plain := "z", long := [("zero", 'z')] } 1 words fun os operands =>
    if operands.isEmpty then misused 1 (Octets.ofString "missing operand")
    else eachOperand operands fun path => put (directoryName path ++ [terminator os])

/-! ## The surroundings -/

/-- Shows the values of variables, or all variables. -/
def printenv : Tool := fun words =>
  withOptions { plain := "0", long := [("null", '0')] } 2 words fun os operands => do
    let ending := if has os '0' then '\x00' else '\n'
    let env ← environment
    if operands.isEmpty then
      put (env.flatMap fun (name, value) => name ++ '=' :: value ++ [ending])
    else
      eachOperand operands fun name => do
        match env.lookup name with
        | some value => put (value ++ [ending])
        | none => return 1

def pwd : Tool := fun words =>
  withOptions { plain := "LP", long := [("logical", 'L'), ("physical", 'P')] } 1 words
    fun _ operands => do
      if !operands.isEmpty then report (Octets.ofString "ignoring non-option arguments")
      put (Octets.ofBytes (Place.path (← process).directory).bytes ++ ['\n'])

def sleep : Tool := fun words =>
  withOptions {} 1 words fun _ operands => do
    if operands.isEmpty then misused 1 (Octets.ofString "missing operand")
    else
      match operands.filter fun w => (interval? w).isNone with
      | [] =>
        modify fun m => { m with
          clock := (operands.filterMap interval?).foldl (fun n d => n + d) m.clock }
        return 0
      | wrong =>
        for w in wrong do
          report (Octets.ofString "invalid time interval " ++ cited w)
        offerHelp
        return 1

end Tool
end LineShell.Script
