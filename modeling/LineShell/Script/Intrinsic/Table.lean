import LineShell.Script.Intrinsic.Control
import LineShell.Script.Intrinsic.Directory
import LineShell.Script.Intrinsic.Input
import LineShell.Script.Intrinsic.Output
import LineShell.Script.Intrinsic.Variable

/-! # The names of the intrinsics

Here are the intrinsics that do their work without running other commands.
-/
namespace LineShell.Script
namespace Intrinsic

/-- The intrinsics whose faults end a script. -/
def special : List (String × Intrinsic) :=
  [(":", fun _ => return 0), ("break", leave .breaks), ("continue", leave .continues),
   ("exit", exit), ("export", exportNames), ("local", makeLocal), ("readonly", readonly),
   ("return", leaveCall), ("set", set), ("shift", shift), ("times", times), ("trap", trap),
   ("unset", unset)]

/-- The other intrinsics. -/
def regular : List (String × Intrinsic) :=
  [("[", bracket), ("alias", makeAlias), ("bg", resumeJob), ("cd", cd), ("chdir", cd),
   ("echo", echo), ("false", fun _ => return 1), ("fg", resumeJob), ("getopts", getopts),
   ("hash", hash), ("jobs", jobs), ("kill", kill), ("printf", printf), ("pwd", pwd),
   ("read", read), ("test", test), ("true", fun _ => return 0), ("ulimit", ulimit),
   ("umask", umask), ("unalias", unalias), ("wait", wait)]

/-- The words after which an assignment is taken as it is, though it is an argument. -/
def declaring : List String := ["alias", "export", "local", "readonly"]

end Intrinsic
end LineShell.Script
