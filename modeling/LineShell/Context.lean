import LineShell.Diagnostic

/-! # The interpreter's context

The working directory, the home directory and the search path.  They are read from the
surroundings once, when the interpreter starts; afterwards only `cd` changes anything
here.
-/
namespace LineShell

/-- The environment variables of a process, by name. -/
abbrev Environment := List (String × Bytes)

/-- What outlives a single command.  Entries of the search path may be relative or
empty: they are seen from the working directory. -/
structure Context where
  cwd : Path
  home : Option Path
  searchPath : List Path
  deriving DecidableEq, Repr

namespace Context

/-- A path seen from the working directory. -/
def resolve (ctx : Context) (p : Path) : Path := ctx.cwd.join p

/-- The directories that a list between colons names; empty entries are kept. -/
def splitSearchPath (value : Bytes) : List Path := (Path.splitAt 58 value).map Path.mk

/-- The context that a process starts with: its working directory, which may not be
known, the variable `HOME` unless it is empty, and the entries of `PATH`. -/
def ofSurroundings (cwd : Except Fault Path) (env : Environment) : Except Diagnostic Context :=
  match cwd with
  | .error fault => .error (.currentDirectory fault)
  | .ok cwd => .ok
    { cwd
      home := ((env.lookup "HOME").filter (! ·.isEmpty)).map Path.mk
      searchPath := ((env.lookup "PATH").map splitSearchPath).getD [] }

/-- The context of an interpreter that cannot tell where it is. -/
def fallback : Context := ⟨Path.ofString "/", none, []⟩

@[simp] theorem resolve_of_isAbsolute (ctx : Context) {p : Path} (h : p.isAbsolute = true) :
    ctx.resolve p = p :=
  Path.join_of_isAbsolute h

end Context
end LineShell
