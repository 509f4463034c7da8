import LineShell.Journal

/-! # The search for executables

A verb with a slash names a file directly.  Any other verb is looked for in the
directories of the search path, in order, and the first executable file wins.  A
directory that is missing is passed over in silence; one that cannot be searched for any
other reason is noted and passed over as well.
-/
namespace LineShell

/-- A regular file that someone may execute. -/
def Metadata.isExecutable (m : Metadata) : Bool :=
  m.kind == .regular && m.mode &&& 0o111 != 0

namespace FileSystem

/-- Looks for an executable in one directory. -/
def findIn (fs : FileSystem) (directory : Path) (name : String) : Except Fault (Option Path) :=
  let candidate := directory.join (Path.ofString name)
  match fs.metadata candidate with
  | .ok m => .ok (if m.isExecutable then some candidate else none)
  | .error fault => if fault.kind = .notFound then .ok none else .error fault

/-- Looks for an executable in several directories, and notes what came up. -/
def findAmong (fs : FileSystem) (name : String) : List Path → Option Path × List Event
  | [] => (none, [])
  | directory :: rest =>
    match fs.findIn directory name with
    | .ok (some path) => (some path, [.resolved name path])
    | .ok none => fs.findAmong name rest
    | .error fault =>
      let (found, events) := fs.findAmong name rest
      (found, .directorySkipped directory name fault :: events)

end FileSystem

namespace Context

/-- Looks for the executable that a verb names, and notes what came up. -/
def search (ctx : Context) (fs : FileSystem) (name : String) : Option Path × List Event :=
  if name = "" then (none, [])
  else if '/' ∈ name.toList then
    let path := ctx.resolve (Path.ofString name)
    -- the search path plays no part, and a fault is no news
    match fs.metadata path with
    | .ok m => (if m.isExecutable then some path else none, [])
    | .error _ => (none, [])
  else fs.findAmong name (ctx.searchPath.map ctx.resolve)

/-- The executable that a verb names. -/
def findExecutable (ctx : Context) (fs : FileSystem) (name : String) : Option Path :=
  (ctx.search fs name).1

theorem exists_search_eq {ctx : Context} {fs : FileSystem} {name : String} {found : Option Path}
    (h : ctx.findExecutable fs name = found) : ∃ events, ctx.search fs name = (found, events) :=
  ⟨(ctx.search fs name).2, Prod.ext h rfl⟩

end Context
end LineShell
