import LineShell.Script.Arithmetic
import LineShell.Script.Machine
import LineShell.Script.Splitting

/-! # From words to values

A word is expanded into characters that remember whether they were quoted.  What came out
of an expansion is a region that is split into fields; unquoted pattern characters make a
field stand for the names of files.  In other places, such as an assignment, a word becomes
one text, or a pattern.

The output of a command in a word is obtained through the parameter `outputOf`.
-/
namespace LineShell.Script

/-- How a word is expanded. -/
structure Manner where
  /-- It becomes fields. -/
  splits : Bool := false
  /-- Its bare characters separate fields like those of a value, whose place it takes. -/
  bareSplits : Bool := false
  /-- A tilde may follow a colon. -/
  colons : Bool := false

namespace Expansion
open LineShell.Script.Action

/-- The pieces of characters that separate nothing. -/
def glyphs (inQuotes : Bool) (cs : Octets) : List Bit := cs.map fun c => .glyph ⟨c, inQuotes⟩

/-- The pieces of a value.  In quotes only the arguments are still apart. -/
def region (inQuotes arguments : Bool) (cs : Octets) : List Bit :=
  if inQuotes && !arguments then glyphs true cs
  else .opening inQuotes :: glyphs inQuotes cs ++ [.closing]

/-- The characters that separate fields. -/
def separators : Action Octets := return (← valueOf? "IFS".toList).getD [' ', '\t', '\n']

/-- What stands between arguments that are put together. -/
def joint (splits inQuotes : Bool) (name : Octets) : Action Octets := do
  let separators ← valueOf? "IFS".toList
  let apart : Bool := if inQuotes then name = ['@'] else separators.isSome
  return if splits && apart then ['\x00'] else (separators.getD [' ']).take 1

/-- The value of a parameter as one text. -/
def value? (splits inQuotes : Bool) (name : Octets) : Action (Option Octets) := do
  let p ← process
  match name with
  | ['@'] | ['*'] => return some ((← joint splits inQuotes name).intercalate p.arguments)
  | ['#'] => return some (Octets.ofNat p.arguments.length)
  | ['?'] => return some (Octets.ofNat p.status)
  | ['$'] => return some (Octets.ofNat p.number)
  | ['!'] => return p.background.map Octets.ofNat
  | ['-'] => return some p.options.letters
  | _ =>
    if name.all Char.isDigit then
      let n := Octets.readNat name
      return if n = 0 then some p.name else p.arguments[n - 1]?
    else valueOf? name

/-- The value of a parameter, which has to have one if that is asked for by an option. -/
def demanded (splits inQuotes : Bool) (name : Octets) : Action Octets := do
  match ← value? splits inQuotes name with
  | some cs => return cs
  | none =>
    if ← isOn "nounset" then fault (name ++ Octets.ofString ": parameter not set") else return []

/-- The text of pieces. -/
def textOf (bs : List Bit) : Octets :=
  bs.filterMap fun
    | .glyph g => some g.char
    | _ => none

/-- The pattern that pieces spell. -/
def patternOf (bs : List Bit) : List Element :=
  Pattern.ofGlyphs (bs.filterMap fun
    | .glyph g => some g
    | _ => none)

/-- Evaluates an arithmetic expression, and carries out its assignments. -/
def calculate (cs : Octets) : Action Int := do
  let values := (← process).bindings
  match Arithmetic.evaluate (fun name => (values.lookup name).bind Variable.value) cs with
  | .error .overflow => throw (.killed 8)
  | .error e => fault (e.message cs)
  | .ok (result, assigned) =>
    for (name, n) in assigned.reverse do
      assign name (Octets.ofInt n)
    return result

/-! ## Home directories -/

/-- The home directories of the users. -/
def homes : List (String × String) :=
  [("root", "/root"), ("daemon", "/usr/sbin"), ("bin", "/bin"), ("sys", "/dev"), ("sync", "/bin"),
   ("games", "/usr/games"), ("man", "/var/cache/man"), ("lp", "/var/spool/lpd"),
   ("mail", "/var/mail"), ("news", "/var/spool/news"), ("uucp", "/var/spool/uucp"),
   ("proxy", "/bin"), ("www-data", "/var/www"), ("backup", "/var/backups"),
   ("list", "/var/list"), ("irc", "/run/ircd"), ("nobody", "/nonexistent")]

/-- The home directory of a user, or of the one at work. -/
def homeOf? (user : Octets) : Action (Option Octets) := do
  if user.isEmpty then valueOf? "HOME".toList
  else return (homes.find? fun (name, _) => name.toList == user).map fun (_, home) => home.toList

/-- The bare characters of a user's name at the beginning of a word; there is none if
anything else comes before its end. -/
def userName? (colons : Bool) : Word → Option Octets
  | [] => some []
  | .bare c :: rest =>
    if c = '/' ∨ (colons ∧ c = ':') then some [] else (userName? colons rest).map (c :: ·)
  | _ => none

/-- Puts a home directory in the place of the tilde that a word begins with. -/
def expandHome (colons : Bool) (w : Word) : Action Word := do
  match w with
  | .bare '~' :: rest =>
    match userName? colons rest with
    | none => return w
    | some user =>
      match ← homeOf? user with
      | none => return w
      | some home => return home.map Part.quoted ++ rest.drop user.length
  | _ => return w

/-- The bare characters at the beginning of a word, and the rest. -/
def bareRun : Word → Octets × Word
  | .bare c :: rest =>
    let (cs, after) := bareRun rest
    (c :: cs, after)
  | w => ([], w)

section
variable (outputOf : Option Command → Action Octets)

/-- Expands the parts of a word. -/
def pieces : Nat → Manner → Word → Action (List Bit)
  | 0, _, _ => throw .exhausted
  | _, _, [] => return []
  | fuel + 1, m, .bare c :: rest => do
    if m.bareSplits then
      let (cs, rest) := bareRun (.bare c :: rest)
      return region false false cs ++ (← pieces fuel m rest)
    else
      let rest ← if m.colons ∧ c = ':' then expandHome true rest else pure rest
      return .glyph ⟨c, false⟩ :: (← pieces fuel m rest)
  | fuel + 1, m, .quoted c :: rest => return .glyph ⟨c, true⟩ :: (← pieces fuel m rest)
  | fuel + 1, m, .quotes :: rest => return .present :: (← pieces fuel m rest)
  | fuel + 1, m, .allArguments :: rest => do
    let value := (← value? m.splits true ['@']).getD []
    let here := if (← process).arguments.isEmpty then [] else region true true value
    return here ++ (← pieces fuel m rest)
  | fuel + 1, m, .expansion inQuotes e :: rest => do
    let regionOf (name cs : Octets) : Action (List Bit) :=
      return region inQuotes (name == ['@'] && !(← process).arguments.isEmpty) cs
    let instead (w : Word) : Action (List Bit) := do
      let w ← expandHome m.colons w
      pieces fuel { m with bareSplits := m.splits && !inQuotes } w
    let here ←
      match e with
      | .value name => do regionOf name (← demanded m.splits inQuotes name)
      | .length name => do
        regionOf name (Octets.ofNat (← demanded m.splits inQuotes name).length)
      | .output body => do
        let cs ← outputOf body
        let cs := (cs.filter (· != '\x00')).reverse.dropWhile (· = '\n')
        pure (region inQuotes false cs.reverse)
      | .arithmetic w => do
        let n ← calculate (textOf (← pieces fuel {} w))
        pure (region inQuotes false (Octets.ofInt n))
      | .trim name side longest w => do
        let cs ← demanded m.splits inQuotes name
        let es := patternOf (← pieces fuel {} (← expandHome false w))
        regionOf name (Pattern.trim side longest es cs)
      | .fallback name kind ifEmpty w => do
        let value ← value? m.splits inQuotes name
        let value := if ifEmpty then value.filter (!·.isEmpty) else value
        match kind, value with
        | .alternative, none => regionOf name []
        | .alternative, some _ => instead w
        | _, some cs => regionOf name cs
        | .instead, none => instead w
        | .assign, none => do
          let cs := textOf (← pieces fuel {} (← expandHome false w))
          if !isName name then fault (name ++ Octets.ofString ": bad variable name")
          assign name cs
          pure (region inQuotes false cs)
        | .complain, none => do
          let unset := if ifEmpty then "parameter not set or null" else "parameter not set"
          let explanation := textOf (← pieces fuel {} (← expandHome false w))
          fault (name ++ [':', ' '] ++ if w.isEmpty then Octets.ofString unset else explanation)
      | .invalid => fault (Octets.ofString "Bad substitution")
    return here ++ (← pieces fuel m rest)

/-- The pieces of a whole word. -/
def wholePieces (fuel : Nat) (m : Manner) (w : Word) : Action (List Bit) := do
  pieces outputOf fuel m (← expandHome m.colons w)

/-- A word as one text. -/
def text (fuel : Nat) (w : Word) : Action Octets := return textOf (← wholePieces outputOf fuel {} w)

/-- A word as the value of an assignment. -/
def assigned (fuel : Nat) (w : Word) : Action Octets :=
  return textOf (← wholePieces outputOf fuel { colons := true } w)

/-- A word as a pattern. -/
def pattern (fuel : Nat) (w : Word) : Action (List Element) :=
  return patternOf (← wholePieces outputOf fuel {} w)

end

/-! ## Names of files -/

/-- Cuts a field at its slashes. -/
def componentsOf : List Glyph → List (List Glyph)
  | [] => [[]]
  | g :: gs =>
    if g.char = '/' then [] :: componentsOf gs
    else match componentsOf gs with
      | c :: cs => (g :: c) :: cs
      | [] => [[g]]

/-- Sorts texts by the codes of their characters. -/
def sorted (names : List Octets) : List Octets := names.mergeSort fun a b => !(b < a)

/-- The names that a component stands for in a directory, which is spelled by what comes
before.  Names with a leading dot have to be asked for. -/
def namesIn (found : Octets) (component : List Glyph) : Action (List Octets) := do
  let es := Pattern.ofGlyphs component
  let plain := component.map Glyph.char
  if Pattern.isPlain es then return [plain]
  else
    let directory := if found.isEmpty then ['.'] else found
    match ← ask fun fs start => fs.list start ⟨Octets.bytes directory⟩ with
    | .error _ => return []
    | .ok names =>
      let names := [['.'], ['.', '.']] ++ names.map Octets.ofBytes
      return sorted (names.filter fun name =>
        (name.head? != some '.' || plain.head? == some '.') && Pattern.describes es name)

/-- The paths that components stand for, behind what was found for those before. -/
def paths : List (List Glyph) → Octets → Action (List Octets)
  | [], found => return [found]
  | component :: rest, found => do
    let mut all := []
    for name in ← namesIn found component do
      let path := found ++ name
      let more ←
        match rest with
        | [] => pure [path]
        | _ => paths rest (path ++ ['/'])
      all := all ++ more
    return all

/-- The values of a field: the paths that it stands for, or its text. -/
def filesOf (field : List Glyph) : Action (List Octets) := do
  let plain := field.map Glyph.char
  if (← isOn "noglob") || Pattern.isPlain (Pattern.ofGlyphs field) then return [plain]
  else
    let candidates ← paths (componentsOf field) []
    let existing ← candidates.filterM fun path => do
      match ← ask fun fs start => fs.nodeAt start ⟨Octets.bytes path⟩ with
      | .ok _ => return true
      | .error _ => return false
    return if existing.isEmpty then [plain] else existing

section
variable (outputOf : Option Command → Action Octets)

/-- The values that a word becomes. -/
def fieldsOf (fuel : Nat) (w : Word) : Action (List Octets) := do
  let bs ← wholePieces outputOf fuel { splits := true } w
  return (← (split (← separators) bs).mapM filesOf).flatten

/-- The values that words become. -/
def fields (fuel : Nat) (ws : List Word) : Action (List Octets) :=
  return (← ws.mapM (fieldsOf outputOf fuel)).flatten

/-- The values that words become of which some are assignments, each of which is one. -/
def fieldsOrAssigned (fuel : Nat) (ws : List Word) : Action (List Octets) :=
  return (← ws.mapM fun w => do
    match assignment? w with
    | some (name, meant) => return [name ++ '=' :: (← assigned outputOf fuel meant)]
    | none => fieldsOf outputOf fuel w).flatten

end

end Expansion
end LineShell.Script
