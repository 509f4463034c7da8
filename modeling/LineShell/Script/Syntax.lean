import LineShell.Script.Octets

/-! # Scripts

The commands of the language that external programs are written in, as they stand after
reading.  A word is a list of parts: single characters, bare or quoted, and expansions,
whose value is not known before the command runs.
-/
namespace LineShell.Script

/-- What `${name…word}` does when there is no value to take. -/
inductive Fallback where
  /-- Takes the word. -/
  | instead
  /-- Gives the variable the word as its value, and takes it. -/
  | assign
  /-- Stops with the word as the message. -/
  | complain
  /-- Takes the word if there *is* a value, and else nothing. -/
  | alternative
  deriving DecidableEq, Repr

/-- The end of a value that a pattern is cut from. -/
inductive Side where
  | front
  | back
  deriving DecidableEq, Repr

/-- What a redirection does to a descriptor. -/
inductive Redirecting where
  | input
  | output
  /-- Empties a file even where files are protected from that. -/
  | clobber
  | append
  | both
  /-- Makes it the same as another one, or closes it. -/
  | duplicate
  /-- Lets it read the text of a here-document. -/
  | document
  deriving DecidableEq, Repr

mutual

/-- A part of a word. -/
inductive Part where
  | bare (c : Char)
  | quoted (c : Char)
  /-- A pair of quotes: whatever is between them, the word is there. -/
  | quotes
  /-- Quotes around nothing but all arguments: as many words as there are arguments. -/
  | allArguments
  | expansion (inQuotes : Bool) (e : Expansion)

/-- Something in a word that a value is put in the place of. -/
inductive Expansion where
  | value (name : Octets)
  | length (name : Octets)
  | fallback (name : Octets) (kind : Fallback) (ifEmpty : Bool) (word : List Part)
  | trim (name : Octets) (side : Side) (longest : Bool) (pattern : List Part)
  | output (body : Option Command)
  | arithmetic (expression : List Part)
  | invalid

/-- A redirection of the descriptor `fd`. -/
inductive Redirection where
  | mk (fd : Nat) (kind : Redirecting) (target : List Part)

/-- A command. -/
inductive Command where
  | simple (line : Nat) (assignments : List (Octets × List Part)) (words : List (List Part))
      (redirections : List Redirection)
  | pipeline (stages : List Command)
  | negated (c : Command)
  | both (a b : Command)
  | either (a b : Command)
  | sequence (a b : Command)
  | background (c : Command)
  | subshell (c : Command)
  | branch (condition body : Command) (otherwise : Option Command)
  | loop (opposite : Bool) (condition body : Command)
  | each (line : Nat) (name : Octets) (words : Option (List (List Part))) (body : Command)
  | choice (line : Nat) (subject : List Part) (cases : List (List (List Part) × Option Command))
  | redirected (line : Nat) (c : Command) (redirections : List Redirection)
  | define (name : Octets) (body : Command)

end

/-- A word as it is read. -/
abbrev Word := List Part

/-- A redirection whose target is known. -/
inductive Aimed where
  | path (fd : Nat) (kind : Redirecting) (path : Octets)
  /-- The descriptor that another one is to be the same as, or a dash that closes it. -/
  | copy (fd : Nat) (source : Octets)
  | document (fd : Nat) (text : Word)

/-- The characters of a word that is nothing but bare characters. -/
def bareText? (w : Word) : Option Octets :=
  w.mapM fun
    | .bare c => some c
    | _ => none

def isNameStart (c : Char) : Bool := c.isAlpha || c == '_'

def isNameChar (c : Char) : Bool := c.isAlphanum || c == '_'

/-- Whether a variable can have this name. -/
def isName : Octets → Bool
  | [] => false
  | c :: cs => isNameStart c && cs.all isNameChar

/-- A word that begins with a bare name and a bare equals sign is an assignment. -/
def assignment? (w : Word) : Option (Octets × Word) :=
  let rec go (name : Octets) : Word → Option (Octets × Word)
    | .bare c :: rest =>
      if c = '=' then if isName name then some (name, rest) else none
      else go (name ++ [c]) rest
    | _ => none
  go [] w

/-- The words that mean something of their own where a command may begin. -/
def reservedWords : List String :=
  ["!", "case", "do", "done", "elif", "else", "esac", "fi", "for", "if", "in", "then", "until",
   "while", "\x7b", "\x7d"]

def reserved? (w : Word) : Option String :=
  match bareText? w with
  | some cs => reservedWords.find? (·.toList == cs)
  | none => none

end LineShell.Script
