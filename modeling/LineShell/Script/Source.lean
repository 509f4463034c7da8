import LineShell.Script.Syntax

/-! # The words of a script

A script is read from the left, one token at a time; a token that turns out not to belong
to what is being read is put back.  What stands between `$(` and `)` is itself a script,
so reading a word needs a reader of commands, which is a parameter here.

Every step takes a character, so the number of characters left bounds the steps.
-/
namespace LineShell.Script

/-- A lexical unit. -/
inductive Token where
  | endOfFile
  | newline
  | operator (text : String)
  | redirection (fd : Option Nat) (kind : Redirecting)
  /-- The operator of a here-document, whose body loses its leading tabs if `tabs`. -/
  | document (fd : Option Nat) (tabs : Bool)
  | word (w : Word)

/-- The text of an alias that is being read.  The alias means itself until no more than
`behind` characters are left; a blank at its end makes the next word an alias as well. -/
structure Substituted where
  name : Octets
  behind : Nat
  endsBlank : Bool
  deriving DecidableEq, Repr

/-- A here-document whose operator has been read.  Its text follows the line. -/
structure HereDocument where
  /-- How many others come before it. -/
  number : Nat
  delimiter : Octets
  /-- Whether the lines of its text lose their leading tabs. -/
  tabs : Bool
  /-- Whether there are expansions in its text. -/
  expands : Bool
  deriving DecidableEq, Repr

/-- A script that is being read. -/
structure Source where
  rest : Octets
  /-- The number of the line that is being read. -/
  line : Nat
  /-- The here-documents whose texts are still to come, the last first. -/
  pending : List HereDocument := []
  /-- How many here-documents there have been, and the texts that have come. -/
  documents : Nat := 0
  texts : List (Nat × Word) := []
  /-- The texts of here-documents that are known from an earlier reading. -/
  known : List (Nat × Word) := []
  /-- The here-document whose text is being read, and what is left behind it when its end has
  been found. -/
  document : Option HereDocument := none
  behind : Octets := []
  ahead : Option Token := none
  /-- The word that was read last. -/
  lastWord : Word := []
  /-- Whether lines are read one by one, so that they can be shown. -/
  inLines : Bool := false
  aliases : List (Octets × Octets) := []
  substituted : List Substituted := []
  /-- Whether the token at hand may be an alias because of the one before it. -/
  continuesAlias : Bool := false

/-- A script that cannot be read, and the line where that turned out. -/
structure SyntaxError where
  line : Nat
  message : String
  deriving DecidableEq, Repr

/-- Reads from a source. -/
abbrev Reader (α : Type) := StateT Source (Except SyntaxError) α

namespace Reader

/-- Gives up. -/
def fail {α : Type} (message : String) : Reader α := do
  throw ⟨(← get).line, message⟩

/-- Goes on with other characters. -/
def setRest (rest : Octets) : Reader Unit := modify fun s => { s with rest }

/-- Goes on behind a newline. -/
def nextLine (rest : Octets) : Reader Unit :=
  modify fun s => { s with rest, line := s.line + 1 }

/-- Goes on behind some characters, of which the newlines count. -/
def skip (passed rest : Octets) : Reader Unit :=
  modify fun s => { s with rest, line := s.line + passed.count '\n' }

/-- Passes newlines that are protected by a backslash. -/
def joinLines : Octets → Octets
  | '\\' :: '\n' :: rest => joinLines rest
  | cs => cs

/-- The next characters, lines joined. -/
def upcoming : Nat → Octets → Octets
  | 0, _ => []
  | n + 1, cs =>
    match joinLines cs with
    | [] => []
    | c :: rest => c :: upcoming n rest

/-- What follows the next characters, lines joined, and how many lines were. -/
def dropJoined : Nat → Octets → Nat × Octets
  | 0, rest => (0, rest)
  | n + 1, '\\' :: '\n' :: rest =>
    let (lines, after) := dropJoined (n + 1) rest
    (lines + 1, after)
  | n + 1, _ :: rest => dropJoined n rest
  | _, [] => (0, [])

/-- Goes on behind the next characters, lines joined. -/
def advance (n : Nat) : Reader Unit :=
  modify fun s =>
    let (lines, rest) := dropJoined n s.rest
    { s with rest, line := s.line + lines }

/-- Joins the line with the next one, if it is to be. -/
def joinNext : Reader Unit :=
  modify fun s =>
    let rest := joinLines s.rest
    { s with rest, line := s.line + (s.rest.length - rest.length) / 2 }

/-- Begins a line of a here-document, if one is being read.  The line that holds nothing but
the delimiter is the end. -/
def beginLine : Reader Unit := do
  let s ← get
  match s.document with
  | none => return ()
  | some d =>
    let cs := if d.tabs then s.rest.dropWhile (· = '\t') else s.rest
    let line := cs.takeWhile (· ≠ '\n')
    if line = d.delimiter then
      nextLine []
      modify fun s => { s with behind := cs.drop (line.length + 1) }
    else setRest cs

/-- Goes on behind a character that may be a newline. -/
def past (c : Char) (rest : Octets) : Reader Unit := do
  if c = '\n' then
    nextLine rest
    beginLine
  else setRest rest

/-- What the parts of a word are read up to. -/
inductive Mode where
  /-- A character that no word contains. -/
  | bare
  /-- A double quote, inside braces or not. -/
  | quotes (inBraces : Bool)
  /-- A closing brace, inside quotes or not. -/
  | braces (inQuotes : Bool)
  /-- Two closing parentheses, with `depth` others before them. -/
  | arithmetic (depth : Nat)
  /-- The end of a here-document. -/
  | document
  deriving DecidableEq, Repr

/-- A character that ends a bare word. -/
def endsWord (c : Char) : Bool := " \t\n;&|()<>".toList.contains c

def grave : Char := '\x60'

/-- The characters before an unescaped backquote, with the backslashes taken away that
protect them and with lines joined, and what follows it. -/
def untilGrave (inQuotes : Bool) : Octets → Option (Octets × Octets)
  | [] => none
  | [c] => if c = grave then some ([], []) else none
  | c :: d :: rest =>
    if c = grave then some ([], d :: rest)
    else if c = '\\' ∧ d = '\n' then untilGrave inQuotes rest
    else if c = '\\' ∧ (d = grave ∨ d = '\\' ∨ d = '$' ∨ (inQuotes ∧ d = '"')) then
      (untilGrave inQuotes rest).map fun (body, after) => (d :: body, after)
    else (untilGrave inQuotes (d :: rest)).map fun (body, after) => (c :: body, after)

/-- How a message names a token. -/
def describe : Token → String
  | .endOfFile => "end of file"
  | .newline => "newline"
  | .operator text => "\"" ++ text ++ "\""
  | .redirection .. | .document .. => "redirection"
  | .word w =>
    match reserved? w with
    | some text => "\"" ++ text ++ "\""
    | none => "word"

/-- Gives up because of a token where no word is reserved. -/
def misplaced {α : Type} (t : Token) (expected : String) : Reader α :=
  fail ("Syntax error: " ++ (match t with
    | .word _ => "word"
    | t => describe t) ++ " unexpected (expecting \"" ++ expected ++ "\")")

/-- Gives up because of a token. -/
def unexpected {α : Type} (t : Token) (expected : Option String) : Reader α := do
  fail ("Syntax error: " ++ describe t ++ " unexpected" ++
    match expected with
    | some text => " (expecting " ++ (if text = "word" then text else "\"" ++ text ++ "\"") ++ ")"
    | none => "")

/-- Takes the token that the reading of commands has stopped at. -/
def closing (closes : Token → Bool) : Reader Unit := do
  let s ← get
  match s.ahead with
  | none => pure ()
  | some t => if closes t then set { s with ahead := none } else unexpected t (some ")")

def isOperator (text : String) : Token → Bool
  | .operator t => t == text
  | _ => false

/-- Reads the commands up to the parenthesis that closes them.  Here-documents whose texts have
not come by then stay empty. -/
def inParentheses (commands : Reader (Option Command)) : Reader (Option Command) := do
  let before ← get
  set { before with ahead := none, pending := [], document := none }
  let body ← commands
  closing (isOperator ")")
  modify fun s => { s with
    ahead := before.ahead, pending := before.pending, document := before.document }
  return body

/-- Reads the commands of a text of its own.  What follows them is passed over. -/
def within (commands : Reader (Option Command)) (text : Octets) : Reader (Option Command) := do
  let source : Source := { rest := text, line := 1, aliases := (← get).aliases }
  -- once the texts of here-documents are known, the commands that they belong to are read again
  match commands.run source with
  | .ok (c, after) =>
    if after.documents = 0 then return c
    else
      match commands.run { source with known := after.texts } with
      | .ok (c, _) => return c
      | .error e => throw e
  | .error e => throw e

/-- The characters of some kind at the beginning of a text, lines joined. -/
def takeJoined (p : Char → Bool) : Octets → Octets
  | '\\' :: '\n' :: rest => takeJoined p rest
  | c :: rest => if p c then c :: takeJoined p rest else []
  | [] => []

/-- The name of a parameter at the beginning of a text: a name, a number or a special
character.  Outside braces a number has one digit. -/
def parameterName (inBraces : Bool) (cs : Octets) : Octets :=
  match joinLines cs with
  | [] => []
  | c :: _ =>
    if isNameStart c then takeJoined isNameChar cs
    else if c.isDigit && inBraces then takeJoined Char.isDigit cs
    else if c.isDigit || "@*#?$!-".toList.contains c then [c]
    else []

/-- Reads what follows the name in braces. -/
def alteration (self : Mode → Reader Word) (inQuotes : Bool) (name : Octets) :
    Reader Expansion := do
  let next := upcoming 2 (← get).rest
  let trim (side : Side) (mark : Char) : Reader Expansion := do
    let longest := next == [mark, mark]
    advance (if longest then 2 else 1)
    return .trim name side longest (← self (.braces false))
  let spelled (ifEmpty : Bool) (mark : Option Char) : Reader Expansion := do
    advance (if ifEmpty then 2 else 1)
    let w ← self (.braces inQuotes)
    let fallback (kind : Fallback) : Expansion := .fallback name kind ifEmpty w
    return match mark with
      | some '-' => fallback .instead
      | some '=' => fallback .assign
      | some '?' => fallback .complain
      | some '+' => fallback .alternative
      | _ => .invalid
  match next with
  | '\x7d' :: _ => advance 1; return .value name
  | '#' :: _ => trim .front '#'
  | '%' :: _ => trim .back '%'
  | ':' :: rest => spelled true rest.head?
  | _ => spelled false next.head?

/-- Reads an expansion in braces, the opening one being read. -/
def braced (self : Mode → Reader Word) (inQuotes : Bool) : Reader Expansion := do
  let cs := (← get).rest
  match upcoming 2 cs with
  | ['#', '\x7d'] => advance 2; return .value ['#']
  | '#' :: _ =>
    let measured := (dropJoined 1 cs).2
    let name := parameterName true measured
    match name, upcoming (name.length + 2) measured |>.drop name.length with
    | _ :: _, '\x7d' :: _ => advance (name.length + 2); return .length name
    | [], [_, '\x7d'] => advance 3; return .invalid
    | _, _ =>
      advance 1
      alteration self inQuotes ['#']
  | next =>
    let name := parameterName true cs
    if name.isEmpty then
      -- what cannot be a name is passed over
      advance (if next.head? = some '\x7d' then 0 else 1)
      let _ ← self (.braces inQuotes)
      return .invalid
    else
      advance name.length
      alteration self inQuotes name

/-- Reads what follows a dollar sign. -/
def dollar (commands : Reader (Option Command)) (self : Mode → Reader Word) (inQuotes : Bool) :
    Reader Part := do
  let cs := (← get).rest
  match upcoming 2 cs with
  | ['(', '('] =>
    advance 2
    return .expansion inQuotes (.arithmetic (← self (.arithmetic 0)))
  | '(' :: _ =>
    advance 1
    return .expansion inQuotes (.output (← inParentheses commands))
  | '\x7b' :: _ =>
    advance 1
    return .expansion inQuotes (← braced self inQuotes)
  | _ =>
    let name := parameterName false cs
    advance name.length
    return if !name.isEmpty then .expansion inQuotes (.value name)
      else if inQuotes then .quoted '$'
      else .bare '$'

/-- Reads the parts of a word, `read` being those before, the last first. -/
def parts (commands : Reader (Option Command)) : Nat → Mode → List Part → Reader Word
  | 0, _, read => pure read.reverse
  | fuel + 1, mode, read => do
    let more (p : Part) : Reader Word := parts commands fuel mode (p :: read)
    let self (m : Mode) : Reader Word := parts commands fuel m []
    let inQuotes : Bool :=
      match mode with
      | .bare => false
      | .braces q => q
      | _ => true
    let takesQuotes : Bool :=
      match mode with
      | .document | .arithmetic _ => true
      | _ => false
    let inBraces : Bool :=
      match mode with
      | .braces _ => true
      | _ => false
    match (← get).rest with
    | [] =>
      match mode, (← get).document with
      | .bare, _ | .document, _ | .quotes _, some _ => return read.reverse
      | .quotes _, none | .braces true, none => fail "Syntax error: Unterminated quoted string"
      | .braces _, _ => fail "Syntax error: Missing '\x7d'"
      | .arithmetic _, _ => fail "Syntax error: Missing '))'"
    | c :: rest =>
      if mode = .bare ∧ endsWord c then return read.reverse
      else if c = '"' ∧ (mode = .quotes false ∨ mode = .quotes true) then do
        setRest rest
        return read.reverse
      else if c = '\x7d' ∧ (mode = .braces false ∨ mode = .braces true) then do
        setRest rest
        return read.reverse
      else if c = '$' then do
        setRest rest
        more (← dollar commands self inQuotes)
      else if c = grave then
        match untilGrave inQuotes rest with
        | some (body, after) => do
          skip (rest.take (rest.length - after.length)) after
          more (.expansion inQuotes (.output (← within commands body)))
        | none => do
          skip rest []
          fail "Syntax error: EOF in backquote substitution"
      else if c = '\\' then
        match rest with
        | [] => do
          setRest []
          more (if inQuotes then .quoted '\\' else .bare '\\')
        | '\n' :: rest => do
          nextLine rest
          parts commands fuel mode read
        | d :: rest' =>
          let protects :=
            !inQuotes || d = '$' || d = grave || d = '\\' ||
              (d = '"' && mode != .document) ||
              (d = '\x7d' && (mode = .braces true || mode = .quotes true))
          if protects then do
            setRest rest'
            more (.quoted d)
          else do
            setRest rest'
            parts commands fuel mode (.quoted d :: .quoted '\\' :: read)
      else if c = '"' ∧ !takesQuotes then do
        setRest rest
        match ← self (.quotes inBraces) with
        | [.expansion true (.value ['@'])] => more .allArguments
        | inner => parts commands fuel mode (inner.reverse ++ .quotes :: read)
      else if c = '\'' ∧ !inQuotes then
        match Octets.cutAt '\'' rest with
        | (text, some after) => do
          skip text after
          parts commands fuel mode ((text.map Part.quoted).reverse ++ .quotes :: read)
        | (text, none) => do
          skip text []
          fail "Syntax error: Unterminated quoted string"
      else
        match mode, c with
        | .arithmetic depth, ')' =>
          if depth = 0 ∧ upcoming 1 rest = [')'] then do
            advance 2
            return read.reverse
          else do
            setRest rest
            parts commands fuel (.arithmetic (depth - 1)) (.quoted c :: read)
        | .arithmetic depth, '(' => do
          setRest rest
          parts commands fuel (.arithmetic (depth + 1)) (.quoted c :: read)
        | _, _ => do
          past c rest
          more (if inQuotes then .quoted c else .bare c)

/-- Reads a bare word. -/
def word (commands : Reader (Option Command)) : Reader Word := do
  parts commands ((← get).rest.length + 1) .bare []

/-- Passes blanks, continued lines and a comment. -/
def passBlanks : Nat → Octets → Reader Unit
  | 0, rest => setRest rest
  | fuel + 1, ' ' :: rest | fuel + 1, '\t' :: rest => passBlanks fuel rest
  | fuel + 1, '\\' :: '\n' :: rest => do
    nextLine rest
    passBlanks fuel rest
  | _, '#' :: rest => setRest (rest.dropWhile (· ≠ '\n'))
  | _, rest => setRest rest

/-- The redirection that an operator spells, if it does. -/
def redirection? (fd : Option Nat) : Octets → Option (Token × Octets)
  | '<' :: '<' :: '-' :: rest => some (.document fd true, rest)
  | '<' :: '<' :: rest => some (.document fd false, rest)
  | '<' :: '&' :: rest => some (.redirection (some (fd.getD 0)) .duplicate, rest)
  | '<' :: '>' :: rest => some (.redirection (some (fd.getD 0)) .both, rest)
  | '<' :: rest => some (.redirection (some (fd.getD 0)) .input, rest)
  | '>' :: '>' :: rest => some (.redirection (some (fd.getD 1)) .append, rest)
  | '>' :: '&' :: rest => some (.redirection (some (fd.getD 1)) .duplicate, rest)
  | '>' :: '|' :: rest => some (.redirection (some (fd.getD 1)) .clobber, rest)
  | '>' :: rest => some (.redirection (some (fd.getD 1)) .output, rest)
  | _ => none

/-- The operator at the beginning of a text. -/
def operator? : Octets → Option (String × Octets)
  | '&' :: '&' :: rest => some ("&&", rest)
  | '|' :: '|' :: rest => some ("||", rest)
  | ';' :: ';' :: rest => some (";;", rest)
  | '&' :: rest => some ("&", rest)
  | '|' :: rest => some ("|", rest)
  | ';' :: rest => some (";", rest)
  | '(' :: rest => some ("(", rest)
  | ')' :: rest => some (")", rest)
  | _ => none

/-- The lines of a text up to the one that is the delimiter, what follows that, and how many
lines there are. -/
def rawLines (d : HereDocument) : Nat → Octets → Octets × Octets × Nat
  | 0, cs => ([], cs, 0)
  | fuel + 1, cs =>
    let cs := if d.tabs then cs.dropWhile (· = '\t') else cs
    let line := cs.takeWhile (· ≠ '\n')
    let below := cs.drop (line.length + 1)
    if line = d.delimiter then ([], below, 1)
    else if line.length = cs.length then (line, [], 0)
    else
      let (text, after, lines) := rawLines d fuel below
      (line ++ '\n' :: text, after, lines + 1)

/-- Reads the text of a here-document, which begins with the line. -/
def documentText (commands : Reader (Option Command)) (d : HereDocument) : Reader Word := do
  let cs := (← get).rest
  if d.expands then
    let first := joinLines cs
    skip (cs.take (cs.length - first.length)) first
    modify fun s => { s with document := some d, behind := [] }
    beginLine
    let w ← parts commands (cs.length + 1) .document []
    modify fun s => { s with document := none, rest := s.behind, behind := [] }
    return w
  else
    let (text, after, lines) := rawLines d (cs.length + 1) cs
    modify fun s => { s with rest := after, line := s.line + lines }
    return text.map Part.quoted

/-- Reads the texts of the here-documents that are waited for. -/
def documentTexts (commands : Reader (Option Command)) : Reader Unit := do
  let waiting := (← get).pending.reverse
  modify fun s => { s with pending := [] }
  waiting.forM fun d => do
    let before ← get
    let w ← documentText commands d
    let after ← get
    -- a text with here-documents in it is read again, too
    let w ←
      if after.documents = before.documents then pure w
      else do
        set { before with known := after.texts ++ before.known }
        documentText commands d
    modify fun s => { s with texts := (d.number, w) :: s.texts, lastWord := w }

/-- Reads a word in which quotes are the only special characters, and tells whether there are
any; the characters `read` come before it, the last first. -/
def delimiter : Nat → Bool → Octets → Bool → Reader (Octets × Bool)
  | 0, _, read, quoted => return (read.reverse, quoted)
  | fuel + 1, inQuotes, read, quoted => do
    match (← get).rest with
    | [] =>
      if inQuotes then fail "Syntax error: Unterminated quoted string"
      else return (read.reverse, quoted)
    | c :: rest =>
      if !inQuotes && endsWord c then return (read.reverse, quoted)
      else if c = '"' then do
        setRest rest
        delimiter fuel (!inQuotes) read true
      else if c = '\'' && !inQuotes then
        match Octets.cutAt '\'' rest with
        | (text, some after) => do
          skip text after
          delimiter fuel false (text.reverse ++ read) true
        | (text, none) => do
          skip text []
          fail "Syntax error: Unterminated quoted string"
      else if c = '\\' then
        match rest with
        | '\n' :: rest => do
          nextLine rest
          delimiter fuel inQuotes read quoted
        | d :: rest' => do
          if !inQuotes || d = '$' || d = grave || d = '"' || d = '\\' then
            setRest rest'
            delimiter fuel inQuotes (d :: read) true
          else
            setRest rest
            delimiter fuel inQuotes (c :: read) quoted
        | [] => do
          setRest []
          delimiter fuel inQuotes (c :: read) quoted
      else do
        skip [c] rest
        delimiter fuel inQuotes (c :: read) quoted

/-- The token that begins a text but is no word, and what follows it.  A digit right before the
operator of a redirection belongs to it. -/
def operatorToken? (cs : Octets) : Option (Token × Octets) :=
  let numbered :=
    match cs with
    | c :: rest => if c.isDigit then redirection? (some (c.toNat - '0'.toNat)) rest else none
    | [] => none
  numbered <|> redirection? none cs <|> (operator? cs).map fun (text, rest) => (.operator text, rest)

/-- How many characters the longest token that is no word has. -/
def operatorLength : Nat := 4

/-- Reads the token at the beginning of the source. -/
def scanToken (commands : Reader (Option Command)) : Reader Token := do
  let s ← get
  passBlanks s.rest.length s.rest
  let cs := (← get).rest
  let next := upcoming operatorLength cs
  match cs, operatorToken? next with
  | [], _ => return .endOfFile
  | '\n' :: rest, _ => nextLine rest; return .newline
  | _, some (token, rest) =>
    advance (next.length - rest.length)
    -- what could have been longer is known only when the next character is
    match token with
    | .operator "(" | .operator ")" => return token
    | _ =>
      joinNext
      return token
  | _, none =>
    let w ← word commands
    modify fun s => { s with lastWord := w }
    return .word w

/-- Reads a token. -/
def token (commands : Reader (Option Command)) : Reader Token := do
  let s ← get
  match s.ahead with
  | some t =>
    set { s with ahead := none }
    return t
  | none =>
    let t ← scanToken commands
    if !s.substituted.isEmpty then
      let left := (← get).rest.length
      modify fun s => { s with
        substituted := s.substituted.filter (·.behind ≤ left)
        continuesAlias := s.substituted.any fun a => a.endsBlank && left < a.behind }
    return t

/-- Puts a token back. -/
def putBack (t : Token) : Reader Unit := modify fun s => { s with ahead := some t }

/-- The text of the alias that a token is. -/
def aliasText? (t : Token) : Reader (Option (Octets × Octets)) := do
  let s ← get
  match t with
  | .word w =>
    if s.aliases.isEmpty || (reserved? w).isSome then return none
    else
      return (bareText? w).bind fun name =>
        if s.substituted.any (·.name == name) then none
        else (s.aliases.lookup name).map fun text => (name, text)
  | _ => return none

/-- Puts the texts of aliases in the place of a token that is one, until it is none. -/
def withoutAlias (next : Reader Token) : Nat → Token → Reader Token
  | 0, t => return t
  | fuel + 1, t => do
    match ← aliasText? t with
    | none => return t
    | some (name, text) =>
      modify fun s => { s with
        rest := text ++ s.rest
        substituted :=
          { name, behind := s.rest.length
            endsBlank := text.getLast? == some ' ' || text.getLast? == some '\t' } :: s.substituted }
      withoutAlias next fuel (← next)

/-- How often an alias can lead to another. -/
def maxAliases : Nat := 1000

/-- Reads a token where a command may begin, so that it may be an alias. -/
def commandToken (commands : Reader (Option Command)) : Reader Token := do
  withoutAlias (token commands) maxAliases (← token commands)

/-- Reads a token, which may be an alias if the one before it says so. -/
def argumentToken (commands : Reader (Option Command)) : Reader Token := do
  let t ← token commands
  if (← get).continuesAlias then withoutAlias (token commands) maxAliases t else return t

/-- Reads the delimiter of a here-document whose operator has been read, and returns its text,
if that is known. -/
def hereDocument (commands : Reader (Option Command)) (tabs : Bool) : Reader Word := do
  let s ← get
  passBlanks s.rest.length s.rest
  let cs := (← get).rest
  if cs.head?.all endsWord || (operatorToken? (upcoming operatorLength cs)).isSome then
    unexpected (← token commands) none
  else
    let (delimiter, quoted) ← delimiter (cs.length + 1) false [] false
    let s ← get
    set { s with
      documents := s.documents + 1
      pending := { number := s.documents, delimiter, tabs, expands := !quoted } :: s.pending }
    return (s.known.lookup s.documents).getD []

end Reader
end LineShell.Script
