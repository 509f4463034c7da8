import LineShell.FileSystem.Access

/-! # Commands

A command is what one line asks for: a verb, arguments, and at most one redirection of
standard output or standard error to a file.  The command of a line without words is
`Command.blank`, which asks for nothing.
-/
namespace LineShell

/-- The two output streams of a command. -/
inductive Stream where
  | stdout
  | stderr
  deriving DecidableEq, Repr

/-- A redirection: the stream that is sent to a file, the path of that file exactly as
typed, and how the file is opened. -/
structure Redirect where
  stream : Stream
  path : String
  mode : WriteMode
  deriving DecidableEq, Repr

/-- A command: its verb, its arguments in order, its redirection. -/
structure Command where
  verb : String
  arguments : List String
  redirect : Option Redirect
  deriving DecidableEq, Repr

namespace Command

/-- The command of a line without words. -/
def blank : Command := ⟨"", [], none⟩

/-- The command of a list of words, the first of which is the verb.  Without a word
nothing is left to redirect, and the redirection is dropped. -/
def ofWords : List String → Option Redirect → Command
  | verb :: arguments, redirect => ⟨verb, arguments, redirect⟩
  | [], _ => blank

/-- A command with an empty verb is skipped. -/
def isBlank (c : Command) : Bool := c.verb.isEmpty

/-- The path that the redirection names. -/
def targetPath (c : Command) : Option String := c.redirect.map Redirect.path

@[simp] theorem ofWords_nil (r : Option Redirect) : ofWords [] r = blank := rfl

@[simp] theorem ofWords_cons (w : String) (ws : List String) (r : Option Redirect) :
    ofWords (w :: ws) r = ⟨w, ws, r⟩ := rfl

@[simp] theorem isBlank_blank : blank.isBlank = true := rfl

end Command
end LineShell
