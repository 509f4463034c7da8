import LineShell.Script.Source

/-! # The commands of a script

Lists of commands are made of pipelines joined by `&&` and `||`, pipelines of commands
joined by `|`, and a command is a simple one, a compound one or the definition of a
function.  A script is read one line of commands at a time, so that its beginning can run
before a fault further down is found.

The readers call each other, and each call from one level to the next has one unit of
`fuel` less.  No script nests deeper than it is long.
-/
namespace LineShell.Script
namespace Reader

/-- The words that end a list of commands inside a compound command. -/
def closingWords : List String := ["then", "do", "done", "elif", "else", "esac", "fi", "\x7d"]

/-- Whether a list of commands inside a compound command ends at a token. -/
def endsList : Token → Bool
  | .endOfFile => true
  | .operator text => text == ")" || text == ";;"
  | .word w => ((reserved? w).map closingWords.contains).getD false
  | _ => false

/-- The reserved word that a token is. -/
def reservedToken? : Token → Option String
  | .word w => reserved? w
  | _ => none

/-- Joins two commands, of which the first may be missing. -/
def chain (a : Option Command) (b : Command) : Option Command :=
  some (match a with
    | some a => .sequence a b
    | none => b)

/-- The names of intrinsics that no function can have. -/
def specialNames : List String :=
  [".", ":", "break", "continue", "eval", "exec", "exit", "export", "local", "readonly", "return", "set",
   "shift", "times", "trap", "unset"]

/-- Passes tokens that are newlines, with the here-documents behind them, and reads the one
after them. -/
def tokenPastNewlines (commands : Reader (Option Command)) : Nat → Reader Token
  | 0 => commandToken commands
  | fuel + 1 => do
    match ← commandToken commands with
    | .newline => do
      documentTexts commands
      tokenPastNewlines commands fuel
    | t => return t

/-- Reads the target of a redirection. -/
def target (commands : Reader (Option Command)) : Reader Word := do
  match ← token commands with
  | .word w => return w
  | t => unexpected t none

/-- Reads the rest of a redirection or a here-document, if the token begins one. -/
def redirectionOf? (commands : Reader (Option Command)) :
    Token → Reader (Option Redirection)
  | .redirection fd kind => do
    return some (.mk (fd.getD 0) kind (← target commands))
  | .document fd tabs => do
    return some (.mk (fd.getD 0) .document (← hereDocument commands tabs))
  | _ => return none

/-- Reads the redirections after a compound command. -/
def redirections (commands : Reader (Option Command)) :
    Nat → List Redirection → Reader (List Redirection)
  | 0, read => return read.reverse
  | fuel + 1, read => do
    let t ← token commands
    match ← redirectionOf? commands t with
    | some r => redirections commands fuel (r :: read)
    | none =>
      putBack t
      return read.reverse

/-- Reads words up to a token that is none. -/
def words (commands : Reader (Option Command)) : Nat → List Word → Reader (List Word)
  | 0, read => return read.reverse
  | fuel + 1, read => do
    match ← token commands with
    | .word w => words commands fuel (w :: read)
    | t =>
      putBack t
      return read.reverse

/-- The patterns of one branch of `case`, up to the closing parenthesis.  What is no word stands
for the word before it. -/
def patterns (commands : Reader (Option Command)) : Nat → List Word → Reader (List Word)
  | 0, read => return read.reverse
  | fuel + 1, read => do
    let _ ← token commands
    let w := (← get).lastWord
    match ← token commands with
    | .operator "|" => patterns commands fuel (w :: read)
    | .operator ")" => return (w :: read).reverse
    | t => misplaced t ")"

/-- What a simple command is made of so far, the last piece first. -/
structure Pieces where
  assignments : List (Octets × Word) := []
  words : List Word := []
  redirections : List Redirection := []

def Pieces.command (p : Pieces) (line : Nat) : Command :=
  .simple line p.assignments.reverse p.words.reverse p.redirections.reverse

mutual

/-- Reads a list of commands.  At the top it ends with the line; elsewhere it ends where
something else has to follow, and it may be empty only if it is `optional`. -/
def list (top : Bool) : Nat → Bool → Option Command → Reader (Option Command)
  | 0, _, read => return read
  | fuel + 1, optional, read => do
    let nested : Reader (Option Command) := list false fuel true none
    let t ← if top then commandToken nested else tokenPastNewlines nested ((← get).rest.length + 2)
    match t with
    | .newline =>
      documentTexts nested
      return read
    | .endOfFile =>
      putBack t
      return read
    | _ =>
      putBack t
      if optional && endsList t then return read
      else
        let c ← andOr fuel
        match ← token nested with
        | .operator "&" => list top fuel (!top) (chain read (.background c))
        | .operator ";" => list top fuel (!top) (chain read c)
        | .newline =>
          putBack .newline
          list top fuel (!top) (chain read c)
        | .endOfFile =>
          putBack .endOfFile
          list top fuel (!top) (chain read c)
        | t =>
          if top then unexpected t none
          else
            putBack t
            return chain read c

/-- Reads pipelines joined by `&&` and `||`. -/
def andOr : Nat → Reader Command
  | 0 => fail "Syntax error: nesting too deep"
  | fuel + 1 => do
    let c ← pipeline fuel
    joined fuel c

/-- Reads what `&&` and `||` join to a pipeline. -/
def joined : Nat → Command → Reader Command
  | 0, c => return c
  | fuel + 1, c => do
    let nested : Reader (Option Command) := list false fuel true none
    match ← token nested with
    | .operator "&&" => do
      skipNewlines nested
      joined fuel (.both c (← pipeline fuel))
    | .operator "||" => do
      skipNewlines nested
      joined fuel (.either c (← pipeline fuel))
    | t =>
      putBack t
      return c
where
  skipNewlines (nested : Reader (Option Command)) : Reader Unit := do
    putBack (← tokenPastNewlines nested ((← get).rest.length + 2))

/-- Reads commands joined by `|`. -/
def pipeline : Nat → Reader Command
  | 0 => fail "Syntax error: nesting too deep"
  | fuel + 1 => do
    let nested : Reader (Option Command) := list false fuel true none
    let t ← commandToken nested
    if reservedToken? t = some "!" then return .negated (← stages fuel [])
    else
      putBack t
      stages fuel []

/-- Reads the commands of a pipeline. -/
def stages : Nat → List Command → Reader Command
  | 0, _ => fail "Syntax error: nesting too deep"
  | fuel + 1, read => do
    let nested : Reader (Option Command) := list false fuel true none
    let c ← command fuel
    match ← token nested with
    | .operator "|" =>
      putBack (← tokenPastNewlines nested ((← get).rest.length + 2))
      stages fuel (c :: read)
    | t =>
      putBack t
      match read with
      | [] => return c
      | _ => return .pipeline (c :: read).reverse

/-- Reads a list that must not be empty, and is so only if the script ends there. -/
def body : Nat → Reader Command
  | 0 => fail "Syntax error: nesting too deep"
  | fuel + 1 => do
    match ← list false fuel false none with
    | some c => return c
    | none => return .simple 0 [] [] []

/-- Reads the reserved word that has to come next. -/
def expect : Nat → String → Reader Unit
  | 0, _ => fail "Syntax error: nesting too deep"
  | fuel + 1, text => do
    let t ← tokenPastNewlines (list false fuel true none) ((← get).rest.length + 2)
    if reservedToken? t = some text then return ()
    else unexpected t (some text)

/-- Reads the branches of `if` after the first word. -/
def branches : Nat → Reader Command
  | 0 => fail "Syntax error: nesting too deep"
  | fuel + 1 => do
    let condition ← body fuel
    expect fuel "then"
    let first ← body fuel
    let t ← commandToken (list false fuel true none)
    match reservedToken? t with
    | some "elif" => return .branch condition first (some (← branches fuel))
    | some "else" => do
      let other ← body fuel
      expect fuel "fi"
      return .branch condition first (some other)
    | some "fi" => return .branch condition first none
    | _ => unexpected t (some "fi")

/-- Reads the branches of `case` up to the last word. -/
def cases : Nat → List (List Word × Option Command) →
    Reader (List (List Word × Option Command))
  | 0, _ => fail "Syntax error: nesting too deep"
  | fuel + 1, read => do
    let nested : Reader (Option Command) := list false fuel true none
    let t ← tokenPastNewlines nested ((← get).rest.length + 2)
    if reservedToken? t = some "esac" then return read.reverse
    else
      match t with
      | .operator "(" => pure ()
      | _ => putBack t
      let ps ← patterns nested ((← get).rest.length + 2) []
      let c ← list false fuel true none
      let t ← tokenPastNewlines nested ((← get).rest.length + 2)
      match t, reservedToken? t with
      | .operator ";;", _ => cases fuel ((ps, c) :: read)
      | _, some "esac" => return ((ps, c) :: read).reverse
      | _, _ => unexpected t (some ";;")

/-- Reads the words that a `for` loop runs through; without `in`, there are none given. -/
def loopWords : Nat → Reader (Option (List Word))
  | 0 => fail "Syntax error: nesting too deep"
  | fuel + 1 => do
    let nested : Reader (Option Command) := list false fuel true none
    let t ← tokenPastNewlines nested ((← get).rest.length + 2)
    if reservedToken? t = some "in" then
      let ws ← words nested ((← get).rest.length + 2) []
      match ← token nested with
      | .newline => return some ws
      | .operator ";" => return some ws
      | t => unexpected t none
    else
      match t with
      | .operator ";" => return none
      | _ =>
        putBack t
        return none

/-- Reads a compound command whose first word has been read. -/
def compound : Nat → Nat → String → Reader Command
  | 0, _, _ => fail "Syntax error: nesting too deep"
  | fuel + 1, line, first => do
    let nested : Reader (Option Command) := list false fuel true none
    match first with
    | "if" => branches fuel
    | "\x7b" => do
      let c ← body fuel
      expect fuel "\x7d"
      return c
    | "for" => do
      match ← token nested with
      | .word w =>
        let name := (bareText? w).getD []
        if isName name then
          let ws ← loopWords fuel
          expect fuel "do"
          let c ← body fuel
          expect fuel "done"
          return .each line name ws c
        else fail "Syntax error: Bad for loop variable"
      | _ => fail "Syntax error: Bad for loop variable"
    | "case" => do
      let subject ←
        match ← token nested with
        | .word w => pure w
        | t => unexpected t (some "word")
      expect fuel "in"
      return .choice line subject (← cases fuel [])
    | "while" => do
      let condition ← body fuel
      expect fuel "do"
      let c ← body fuel
      expect fuel "done"
      return .loop false condition c
    | "until" => do
      let condition ← body fuel
      expect fuel "do"
      let c ← body fuel
      expect fuel "done"
      return .loop true condition c
    | text => unexpected (.word (text.toList.map Part.bare)) none

/-- Reads a command. -/
def command : Nat → Reader Command
  | 0 => fail "Syntax error: nesting too deep"
  | fuel + 1 => do
    let nested : Reader (Option Command) := list false fuel true none
    let t ← commandToken nested
    let line := (← get).line
    let withRedirections (c : Command) : Reader Command := do
      match ← redirections nested ((← get).rest.length + 2) [] with
      | [] => return c
      | rs => return .redirected line c rs
    match t, reservedToken? t with
    | _, some text => do withRedirections (← compound fuel line text)
    | .operator "(", _ => do
      let c ← body fuel
      match ← tokenPastNewlines nested ((← get).rest.length + 2) with
      | .operator ")" => withRedirections (.subshell c)
      | t => unexpected t (some ")")
    | .word _, _ | .redirection .., _ | .document .., _ => do
      putBack t
      simple fuel line {}
    | t, _ => unexpected t none

/-- Reads a simple command or the definition of a function. -/
def simple : Nat → Nat → Pieces → Reader Command
  | 0, line, p => return p.command line
  | fuel + 1, line, p => do
    let nested : Reader (Option Command) := list false fuel true none
    let t ← if p.words.isEmpty then commandToken nested else argumentToken nested
    match t with
    | .word w =>
      match p.words, assignment? w with
      | [], some a => simple fuel line { p with assignments := a :: p.assignments }
      | _, _ => simple fuel line { p with words := w :: p.words }
    | .operator "(" =>
      match p.words, p.assignments, p.redirections with
      | [w], [], [] => do
        match ← token nested with
        | .operator ")" => do
          let name := (bareText? w).getD []
          if isName name && !specialNames.any (·.toList == name) then
            putBack (← tokenPastNewlines nested ((← get).rest.length + 2))
            return .define name (← command fuel)
          else fail "Syntax error: Bad function name"
        | t => misplaced t ")"
      | _, _, _ => do
        putBack t
        return p.command line
    | t => do
      match ← redirectionOf? nested t with
      | some r => simple fuel line { p with redirections := r :: p.redirections }
      | none =>
        putBack t
        return p.command line

end

/-- Reads the commands of one line, together with the lines that they run on over; there
is nothing more to read at the end of the script. -/
def nextCommands : Reader (Option (Option Command)) := do
  let fuel := (← get).rest.length + 8
  let t ← commandToken (list false fuel true none)
  match t with
  | .endOfFile => return none
  | _ =>
    putBack t
    return some (← list true (8 * fuel) false none)

/-- Reads the commands of one line, and reads them again if there are here-documents, whose
texts are known only then. -/
def lineOfCommands : Reader (Option (Option Command)) := do
  let before ← get
  let first ← nextCommands
  let after ← get
  if after.documents = 0 then return first
  else
    set { before with known := after.texts }
    let commands ← nextCommands
    modify fun s => { s with documents := 0, texts := [], known := [] }
    return commands

end Reader
end LineShell.Script
