import LineShell.Script.Tool.Basic

/-! # The words of `env`

`env` changes its environment as its options and assignments say, and runs the words after
them.  Options may also come in one text, which is split into words by rules of its own, for
the first line of a script holds only one word.
-/
namespace LineShell.Script
namespace Tool

/-- What the words of `env` ask for. -/
structure EnvironmentPlan where
  /-- Whether nothing is kept of the environment. -/
  clears : Bool := false
  /-- The names that are taken away. -/
  removed : List Octets := []
  /-- Whether zero bytes end the lines of a listing. -/
  zeros : Bool := false
  directory : Option Octets := none
  words : List Octets := []

/-- Why words are not understood: the message, whether spaces within them may be the reason,
and whether help is offered. -/
structure Misuse where
  message : Octets
  spaced : Bool := false
  helps : Bool := true

namespace EnvironmentPlan

/-- The state of splitting a text: the words, the last first and each reversed, whether a
word has ended, and the quotes that are open. -/
structure SplitState where
  words : List Octets := []
  ended : Bool := true
  single : Bool := false
  double : Bool := false

/-- Begins a word if the one before has ended. -/
def SplitState.begin (s : SplitState) : SplitState :=
  if s.ended then { s with words := [] :: s.words, ended := false } else s

/-- Takes characters into the word at hand. -/
def SplitState.take (s : SplitState) (cs : Octets) : SplitState :=
  let s := s.begin
  match s.words with
  | w :: ws => { s with words := (cs.reverse ++ w) :: ws }
  | [] => s

/-- The name between `${` and a brace at the beginning of a text, and what follows. -/
def inBraces? : Octets → Option (Octets × Octets)
  | '$' :: '\x7b' :: rest =>
    match Octets.cutAt '\x7d' rest with
    | (name, some after) => if isName name then some (name, after) else none
    | (_, none) => none
  | _ => none

/-- The characters that a letter after a backslash stands for. -/
def escapes : List (Char × Char) :=
  [('"', '"'), ('#', '#'), ('$', '$'), ('\'', '\''), ('\\', '\\'), ('f', '\x0c'), ('n', '\n'),
   ('r', '\r'), ('t', '\t'), ('v', '\x0b')]

/-- Splits a text into words, with the values of variables. -/
def splitText (valueOf : Octets → Option Octets) :
    Nat → SplitState → Octets → Except Misuse SplitState
  | 0, s, _ => .ok s
  | fuel + 1, s, text =>
    let refuse (message : Octets) : Except Misuse SplitState := .error { message, helps := false }
    let go := splitText valueOf fuel
    match text with
    | [] =>
      if s.single || s.double then refuse (Octets.ofString "no terminating quote in -S string")
      else .ok s
    | c :: rest =>
      if c = '\'' ∧ !s.double then go { s.begin with single := !s.single } rest
      else if c = '"' ∧ !s.single then go { s.begin with double := !s.double } rest
      else if (c = ' ' ∨ ('\t' ≤ c ∧ c ≤ '\r')) ∧ !s.single ∧ !s.double then
        go { s with ended := true } rest
      else if c = '#' ∧ s.ended then .ok s
      else if c = '$' ∧ !s.single then
        match inBraces? text with
        | none =>
          refuse (Octets.ofString "only $\x7bVARNAME\x7d expansion is supported, error at: " ++ text)
        | some (name, after) =>
          match valueOf name with
          | some value => go (s.take value) after
          | none => go s after
      else if c = '\\' then
        match rest with
        | [] => refuse (Octets.ofString "invalid backslash at end of string in -S")
        | d :: after =>
          if s.single ∧ d ≠ '\\' ∧ d ≠ '\'' then go (s.take [c]) rest
          else if d = '_' then
            if s.double then go (s.take [' ']) after else go { s with ended := true } after
          else if d = 'c' then
            if s.double then
              refuse (Octets.ofString "'\\c' must not appear in double-quoted -S string")
            else .ok s
          else
            match escapes.lookup d with
            | some e => go (s.take [e]) after
            | none => refuse (Octets.ofString "invalid sequence '\\" ++ d :: Octets.ofString "' in -S")
      else go (s.take [c]) rest

/-- The words of a text. -/
def wordsOf (valueOf : Octets → Option Octets) (text : Octets) : Except Misuse (List Octets) := do
  let s ← splitText valueOf (text.length + 1) {} text
  return s.words.reverse.map List.reverse

/-- The long names of options, and the letters that mean the same. -/
def longNames : List (String × Char) :=
  [("ignore-environment", 'i'), ("null", '0'), ("unset", 'u'), ("chdir", 'C'),
   ("split-string", 'S'), ("debug", 'v')]

/-- Reads the options of words. -/
def ofWords (valueOf : Octets → Option Octets) :
    Nat → EnvironmentPlan → List Octets → Except Misuse EnvironmentPlan
  | 0, plan, words => .ok { plan with words }
  | fuel + 1, plan, words =>
    let go := ofWords valueOf fuel
    let missing (name : Octets) : Except Misuse EnvironmentPlan :=
      .error { message := Octets.ofString "option requires an argument -- '" ++ name ++ ['\''] }
    -- an option with a value, behind which the words `rest` follow
    let valued (c : Char) (value : Octets) (rest : List Octets) : Except Misuse EnvironmentPlan :=
      if c = 'u' then
        if value.isEmpty || value.contains '=' then
          .error {
            message := Octets.ofString "cannot unset " ++ cited value ++
              Octets.ofString ": Invalid argument"
            helps := false }
        else go { plan with removed := value :: plan.removed } rest
      else if c = 'C' then go { plan with directory := some value } rest
      else do go plan ((← wordsOf valueOf value) ++ rest)
    match words with
    | ['-'] :: rest => go { plan with clears := true } rest
    | ['-', '-'] :: rest => .ok { plan with words := rest }
    | ('-' :: '-' :: text) :: rest =>
      let (name, value) := Octets.cutAt '=' text
      match (longNames.find? (·.1.toList == name)).map Prod.snd, value, rest with
      | some 'i', none, _ => go { plan with clears := true } rest
      | some '0', none, _ => go { plan with zeros := true } rest
      | some 'v', none, _ => go plan rest
      | some c, some value, _ => valued c value rest
      | some c, none, value :: rest => valued c value rest
      | some _, none, [] =>
        .error { message := Octets.ofString "option '--" ++ name ++
          Octets.ofString "' requires an argument" }
      | none, _, _ => .error { message := Octets.ofString "unrecognized option '--" ++ text ++ ['\''] }
    | ('-' :: c :: cs) :: rest =>
      let more := if cs.isEmpty then rest else ('-' :: cs) :: rest
      if c = 'i' then go { plan with clears := true } more
      else if c = '0' then go { plan with zeros := true } more
      else if c = 'v' then go plan more
      else if c = 'u' ∨ c = 'C' ∨ c = 'S' then
        if !cs.isEmpty then valued c cs rest
        else
          match rest with
          | value :: rest => valued c value rest
          | [] => missing [c]
      else
        .error {
          message := Octets.ofString "invalid option -- '" ++ [c, '\'']
          spaced := c = ' ' || c = '\t' }
    | _ => .ok { plan with words }

end EnvironmentPlan

/-- The assignments before the words of a command, and the words. -/
def leadingAssignments : List Octets → List (Octets × Octets) × List Octets
  | [] => ([], [])
  | w :: ws =>
    match Octets.cutAt '=' w with
    | (name, some value) =>
      let (assignments, rest) := leadingAssignments ws
      ((name, value) :: assignments, rest)
    | (_, none) => ([], w :: ws)

/-- What is said where spaces may be the reason of a fault. -/
def aboutSpaces : Octets := Octets.ofString "use -[v]S to pass options in shebang lines"

end Tool
end LineShell.Script
