import LineShell.Script.Intrinsic.Basic

/-! # Intrinsics of variables, options and aliases

What they list is in a form that can be run as a script.
-/
namespace LineShell.Script
namespace Intrinsic
open LineShell.Script.Action

/-- The selected variables in the order of their names, each behind a heading. -/
def listVariables (heading : String) (selects : Variable → Bool) : Action Nat := do
  let shown := (← process).bindings.filter fun (_, v) => selects v
  let ordered := shown.mergeSort fun (a, _) (b, _) => !(b < a)
  emit (ordered.flatMap fun (name, v) =>
    heading.toList ++ name ++ ((v.value.map fun cs => '=' :: requoted cs).getD []) ++ ['\n'])

/-- Declares variables, some with a value, or lists those that are declared. -/
def declare (heading : String) (selects : Variable → Bool) (mark : Variable → Variable) :
    Intrinsic := fun words => do
  let (os, words) ← options "p" "" words
  if words.isEmpty || has os 'p' then listVariables heading selects
  else
    for w in words do
      let (name, value) := Octets.cutAt '=' w
      if !isName name then fault (name ++ Octets.ofString ": bad variable name")
      match value with
      | some cs => assign name cs
      | none => pure ()
      modifyVariable name mark
    return 0

def exportNames : Intrinsic :=
  declare "export " Variable.exported fun v => { v with exported := true }

def readonly : Intrinsic :=
  declare "readonly " Variable.readOnly fun v => { v with readOnly := true }

/-- Makes variables local to the function at work; a dash does so for the options. -/
def makeLocal : Intrinsic := fun words => do
  if (← process).calls = 0 then fault (Octets.ofString "not in a function")
  for w in words do
    if w = ['-'] then
      modifyProcess fun p => { p with localOptions := some (p.localOptions.getD p.options) }
    else
      let (name, value) := Octets.cutAt '=' w
      if !isName name then fault (name ++ Octets.ofString ": bad variable name")
      let old := (← process).bindings.lookup name
      modifyProcess fun p => { p with locals := (name, old) :: p.locals }
      match value with
      | some cs => assign name cs
      | none => pure ()
  return 0

/-- Takes variables away, or functions. -/
def unset : Intrinsic := fun words => do
  let (os, names) ← options "vf" "" words
  let functions : Bool := os.getLast?.map Prod.fst == some 'f'
  for w in names do
    if functions then
      modifyProcess fun p => { p with functions := p.functions.filter (·.1 != w) }
    else
      let (name, _) := Octets.cutAt '=' w
      if !isName name then fault (name ++ Octets.ofString ": bad variable name")
      match (← process).bindings.lookup name with
      | some { readOnly := true, .. } => fault (name ++ Octets.ofString ": is read only")
      | _ =>
        modifyProcess fun p => { p with
          bindings := p.bindings.filter (·.1 != name)
          found := if name = "PATH".toList then [] else p.found }
  return 0

/-! ## Options -/

/-- Turns an option on or off, one by one; of the two ways of editing only one is on. -/
def turnOption (on : Bool) (name : String) : Action Unit :=
  modifyProcess fun p =>
    let options := p.options.turn on name
    { p with options :=
        if on ∧ name = "vi" then options.turn false "emacs"
        else if on ∧ name = "emacs" then options.turn false "vi"
        else options }

/-- Turns the option of a name on or off, or lists all if no name is left. -/
def turnNamed (on : Bool) : List Octets → Action (List Octets)
  | [] => do
    let options := (← process).options
    let _ ← emit (if on then options.listing else options.commands)
    return []
  | name :: rest =>
    match Options.ofName? name with
    | some option => do
      turnOption on option
      return rest
    | none => fault (Octets.ofString "Illegal option -o " ++ name)

/-- Turns the options of letters on or off; an `o` takes a name from the words behind.  With
`starting`, a `c` says that the first operand is a script; whether it was there is returned,
with the words that are left. -/
def turnLetters (starting on : Bool) : Octets → List Octets → Action (Bool × List Octets)
  | [], words => return (false, words)
  | c :: cs, words => do
    if c = 'c' ∧ starting then
      let (_, words) ← turnLetters starting on cs words
      return (true, words)
    else if c = 'l' ∧ starting then turnLetters starting on cs words
    else if c = 'o' then turnLetters starting on cs (← turnNamed on words)
    else
      match Options.ofLetter? c with
      | some option =>
        turnOption on option
        turnLetters starting on cs words
      | none => fault (Octets.ofString "Illegal option -" ++ [c])

/-- What is left behind options: the operands, whether a script is among them, and whether
they are new arguments even if there are none. -/
structure Operands where
  words : List Octets
  inWords : Bool := false
  ended : Bool := false

/-- Turns options on and off, up to the operands.  A dash ends the options and, unless the
process is `starting`, ends what shows commands. -/
def takeOptions (starting : Bool) : Nat → Operands → Action Operands
  | 0, o => return o
  | fuel + 1, o => do
    match o.words with
    | ['-'] :: rest =>
      if !starting then
        turnOption false "xtrace"
        turnOption false "verbose"
      return { o with words := rest }
    | ['-', '-'] :: rest => return { o with words := rest, ended := true }
    | ('-' :: letters) :: rest => do
      let (inWords, words) ← turnLetters starting true letters rest
      takeOptions starting fuel { o with words, inWords := o.inWords || inWords }
    | ('+' :: letters) :: rest => do
      let (inWords, words) ← turnLetters starting false letters rest
      takeOptions starting fuel { o with words, inWords := o.inWords || inWords }
    | _ => return o

/-- Lists the variables, or sets options, and the arguments if there are any after them. -/
def set : Intrinsic := fun words => do
  if words.isEmpty then listVariables "" fun v => v.value.isSome
  else
    let o ← takeOptions false (words.length + 1) { words }
    if o.ended || !o.words.isEmpty then
      modifyProcess fun p => { p with arguments := o.words }
      resetOptions 1
    return 0

/-! ## Aliases -/

/-- An alias in a form that can be read back. -/
def aliasText (name text : Octets) : Octets := name ++ '=' :: requoted text

/-- Gives a name a text to stand for. -/
def addAlias (name text : Octets) : Action Unit :=
  modifyProcess fun p =>
    if (p.aliases.lookup name).isSome then { p with
      aliases := p.aliases.map fun (n, t) => if n = name then (n, text) else (n, t) }
    else { p with aliases := p.aliases ++ [(name, text)] }

/-- Makes aliases, and shows others. -/
def makeAliases (words : List Octets) : Action Nat :=
  words.foldlM (fun worst w => do
    -- an equals sign at the beginning belongs to the name
    let (first, rest) := (w.take 1, w.drop 1)
    match Octets.cutAt '=' rest with
    | (name, some text) =>
      addAlias (first ++ name) text
      return worst
    | (_, none) =>
      match (← process).aliases.lookup w with
      | some text => return max worst (← emit (aliasText w text ++ ['\n']))
      | none =>
        complain (Octets.ofString "alias: " ++ w ++ Octets.ofString " not found")
        return 1) 0

/-- Makes aliases, or lists them all. -/
def makeAlias : Intrinsic := fun words => do
  if words.isEmpty then
    emit ((inBuckets 39 Prod.fst (← process).aliases).flatMap fun (name, text) =>
      aliasText name text ++ ['\n'])
  else makeAliases words

/-- Takes aliases away. -/
def unalias : Intrinsic := fun words => do
  let (os, names) ← options "a" "" words
  if has os 'a' then
    modifyProcess fun p => { p with aliases := [] }
    return 0
  else
    names.foldlM (fun worst name => do
      if ((← process).aliases.lookup name).isSome then
        modifyProcess fun p => { p with aliases := p.aliases.filter (·.1 != name) }
        return worst
      else
        complain (Octets.ofString "unalias: " ++ name ++ Octets.ofString " not found")
        return 1) 0

end Intrinsic
end LineShell.Script
