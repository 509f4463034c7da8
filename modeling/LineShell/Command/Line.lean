import LineShell.Command.Basic
import LineShell.Text.Blank

/-! # From lines to commands

A line is scanned once from the left.  Blanks separate words; single quotes keep
everything; double quotes keep everything but a backslash before `\`, `$` or `"`; and a
backslash outside quotes keeps the next character.  The scan never fails: an open quote
takes the rest of the line, and a backslash with nothing after it vanishes.

The first `>` outside quotes ends the words.  A word `1` or `2` right before it, typed
without quotes or backslash, says which stream is meant and is no word of the command; a
second `>` asks for appending.  The rest of the line, trimmed, is the path of the file,
taken as it stands.
-/
namespace LineShell

/-- The quotes that the scan is inside of. -/
inductive Quoting where
  | none
  | single
  | double
  deriving DecidableEq, Repr

/-- What a scan finds: the words, the redirection, and whether there was an operator
without a path. -/
structure Scanned where
  words : List String
  redirect : Option Redirect
  pathMissing : Bool
  deriving DecidableEq, Repr

namespace Scanned

/-- A word comes before the words found later; an empty one is no word. -/
def consWord (word : List Char) (s : Scanned) : Scanned :=
  if word = [] then s else { s with words := String.ofList word :: s.words }

/-- The end of the line. -/
def finish (word : List Char) : Scanned := consWord word ⟨[], none, false⟩

/-- The characters that a backslash keeps from their meaning inside double quotes. -/
def isEscapable (c : Char) : Bool := c = '\\' || c = '$' || c = '"'

/-- The operator was read with `word` before it and `rest` after it; `bare` says that
nothing of `word` was quoted or escaped. -/
def operator (bare : Bool) (word rest : List Char) : Scanned :=
  let (stream, word) :=
    if bare && word = ['2'] then (Stream.stderr, [])
    else if bare && word = ['1'] then (Stream.stdout, [])
    else (Stream.stdout, word)
  let (mode, rest) :=
    match rest with
    | '>' :: rest => (WriteMode.append, rest)
    | rest => (WriteMode.overwrite, rest)
  let path := Text.trim rest
  -- the words stay even where there is nothing to redirect to
  if path = [] then consWord word ⟨[], none, true⟩
  else consWord word ⟨[], some ⟨stream, String.ofList path, mode⟩, false⟩

/-- Scans the characters of a line, `read` being the part of a word read before them, its
last character first. -/
def scan : Quoting → Bool → List Char → List Char → Scanned
  | .none, _, read, [] => finish read.reverse
  -- a backslash with nothing after it vanishes
  | .none, _, read, ['\\'] => finish read.reverse
  | .none, _, read, '\\' :: c :: rest => scan .none false (c :: read) rest
  | .none, bare, read, c :: rest =>
    if c = '\'' then scan .single false read rest
    else if c = '"' then scan .double false read rest
    else if c = '>' then operator bare read.reverse rest
    -- only a blank makes the next word bare again
    else if Text.isBlank c then consWord read.reverse (scan .none true [] rest)
    else scan .none bare (c :: read) rest
  -- an open quote takes the rest of the line
  | .single, _, read, [] => finish read.reverse
  | .single, bare, read, c :: rest =>
    if c = '\'' then scan .none bare read rest else scan .single bare (c :: read) rest
  | .double, _, read, [] => finish read.reverse
  | .double, _, read, ['\\'] => finish read.reverse
  | .double, bare, read, '\\' :: c :: rest =>
    if isEscapable c then scan .double bare (c :: read) rest
    -- before any other character the backslash stands for itself
    else scan .double bare (c :: '\\' :: read) rest
  | .double, bare, read, c :: rest =>
    if c = '"' then scan .none bare read rest else scan .double bare (c :: read) rest

theorem scan_none_nil (bare : Bool) (read : List Char) :
    scan .none bare read [] = finish read.reverse := by
  simp [scan]

/-- What the scan of a whole line finds. -/
def ofLine (line : String) : Scanned := scan .none true [] (Text.trim line.toList)

/-- The command that a scan amounts to. -/
def command (s : Scanned) : Command := Command.ofWords s.words s.redirect

end Scanned

/-- The command that a line asks for. -/
def Command.ofLine (line : String) : Command := (Scanned.ofLine line).command

end LineShell
