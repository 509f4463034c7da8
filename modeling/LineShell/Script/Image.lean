import LineShell.Script.Intrinsic.Table
import LineShell.Script.Tool.Cat
import LineShell.Script.Tool.Count
import LineShell.Script.Tool.Excerpt
import LineShell.Script.Tool.Expression
import LineShell.Script.Tool.Listing
import LineShell.Script.Tool.Mode
import LineShell.Script.Tool.Sequence
import LineShell.Script.Tool.Sort
import LineShell.Script.Tool.Test
import LineShell.Script.Tool.Transfer
import LineShell.Script.Tool.Words

/-! # What can be executed

An executable file is either an installed tool or a text whose first line names the file
that is to interpret it.  The interpreter is executed in turn, with the text as an operand.
-/
namespace LineShell.Script

/-- What an installed file does. -/
inductive Program where
  /-- A tool, and its status when its output is refused. -/
  | tool (work : Tool) (failure : Nat := 1)
  /-- The interpreter of scripts. -/
  | interpreter
  /-- The tool that changes the environment of another program. -/
  | environmentSetter

/-- A program that is ready to run, with the words that it gets. -/
structure Image where
  program : Program
  words : List Octets

namespace Image

/-- The directory of the installed programs. -/
def installation : Place := [Text.utf8 "bin", Text.utf8 "usr"]

/-- The installed programs. -/
def installed : List (String × Program) :=
  [("sh", .interpreter), ("dash", .interpreter), ("env", .environmentSetter),
   ("[", .tool Tool.bracket), ("basename", .tool Tool.basename),
   ("cat", .tool Tool.cat), ("chmod", .tool Tool.chmod), ("cp", .tool Tool.cp),
   ("dirname", .tool Tool.dirname), ("echo", .tool Tool.echo), ("expr", .tool Tool.expr 3),
   ("false", .tool fun _ => return 1),
   ("head", .tool Tool.head), ("kill", .tool Intrinsic.kill), ("ln", .tool Tool.ln), ("ls", .tool Tool.ls 2),
   ("mkdir", .tool Tool.mkdir), ("mv", .tool Tool.mv), ("printenv", .tool Tool.printenv 2),
   ("printf", .tool Tool.printf), ("pwd", .tool Tool.pwd), ("rm", .tool Tool.rm),
   ("rmdir", .tool Tool.rmdir), ("seq", .tool Tool.seq), ("sleep", .tool Tool.sleep),
   ("sort", .tool Tool.sort 2), ("tail", .tool Tool.tail), ("tee", .tool Tool.tee),
   ("test", .tool Tool.test), ("touch", .tool Tool.touch), ("true", .tool fun _ => return 0),
   ("wc", .tool Tool.wc)]

/-- The program that is installed at a place. -/
def installedAt? (place : Place) : Option Program :=
  match place with
  | name :: directory =>
    if directory = installation then
      (installed.find? fun (n, _) => Text.utf8 n == name).map Prod.snd
    else none
  | [] => none

/-- How much of a file is looked at to find its interpreter. -/
def headLength : Nat := 256

/-- What ends the name of an interpreter. -/
def isBlank (c : Char) : Bool := c = ' ' || c = '\t'

def endsName (c : Char) : Bool := isBlank c || c = '\x00'

/-- The line behind the `#!` of a head, which is padded with zeros.  A line that does not end
in the head is taken as far as it goes, unless the name itself may go on. -/
def firstLine? (head : Octets) : Option Octets :=
  let line := head.takeWhile fun c => c ≠ '\n' && c ≠ '\x00'
  if (head.drop line.length).head? = some '\n' then some line
  else if (head.dropWhile isBlank).any endsName then some head.dropLast
  else none

/-- The interpreter that the beginning of a file names, and the one word after it. -/
def interpreter? (content : Octets) : Option (Octets × List Octets) :=
  let padding := List.replicate (headLength - content.length) '\x00'
  match content.take headLength ++ padding with
  | '#' :: '!' :: head => do
    let line := (← firstLine? head).reverse.dropWhile isBlank
    let line := line.reverse.dropWhile isBlank
    if line.isEmpty then none
    else
      let name := line.takeWhile fun c => !endsName c
      match line.drop name.length with
      | [] | '\x00' :: _ => some (name, [])
      | after => some (name, [(after.dropWhile isBlank).takeWhile (· ≠ '\x00')])
  | _ => none

/-- A file is taken for a text if its first line holds no control characters. -/
def isText (content : Octets) : Bool :=
  (content.takeWhile (· ≠ '\n')).all fun c =>
    (' ' ≤ c && c ≠ '\x7f') || ('\t' ≤ c && c ≤ '\r')

/-- How often an interpreter may itself be interpreted. -/
def maxInterpreters : Nat := 5

/-- The executable file that a path names. -/
def executable (fs : FileSystem) (start : Place) (path : Octets) :
    Except Errno (Place × FileData) := do
  let place ← fs.locate start ⟨path.bytes⟩
  match fs.file? place with
  | some data =>
    if FileSystem.ownerExecutes data.mode then .ok (place, data) else .error .accessDenied
  | none => .error .accessDenied

/-- What an executable file does, whose path is given, with some words, the first of which is
the name that it is called by. -/
def load (fs : FileSystem) (start : Place) :
    Nat → Place × FileData → Octets → List Octets → Except Errno Image
  | levels, (place, data), path, words =>
    match installedAt? place with
    | some program => .ok ⟨program, words⟩
    | none =>
      match interpreter? (Octets.ofBytes data.content) with
      | none => .error .badExecutable
      -- a name that is cut off by a zero names the directory
      | some ([], _) => .error .accessDenied
      | some (interpreter, word) => do
        let file ← executable fs start interpreter
        match levels with
        | 0 => .error .tooManyLinks
        | levels + 1 =>
          load fs start levels file interpreter (interpreter :: word ++ path :: words.tail)

/-- The greatest length of a word that can be handed to a program, and the room that there is
for all of them together with the environment. -/
def maxWord : Nat := 131071

def roomForWords : Nat := 2097152

/-- Whether words can be handed to a program together with an environment.  Every text takes
a zero byte and an address more than its length. -/
def fits (words : List Octets) (environment : List (Octets × Octets)) : Bool :=
  let texts := words ++ environment.map fun (name, value) => name ++ '=' :: value
  texts.all (·.length ≤ maxWord) && texts.foldl (fun n t => n + t.length + 9) 0 ≤ roomForWords

/-- What a path does when it is executed with some words in an environment. -/
def ofPath (fs : FileSystem) (start : Place) (environment : List (Octets × Octets))
    (path : Octets) (words : List Octets) : Except Errno Image := do
  let file ← executable fs start path
  if fits (path :: words) environment then load fs start maxInterpreters file path words
  else .error .wordsTooLong

end Image
end LineShell.Script
