import LineShell.Command.Basic
import LineShell.Text.Decimal
import LineShell.Text.Quoted

/-! # Diagnostics

What can go wrong with a command, as a cause; `message` words it for the user, and
`debugText` spells the cause for a log record.  Only one cause ends the interpreter: an
exit status that is no number.
-/
namespace LineShell

/-- Why a command failed. -/
inductive Diagnostic where
  /-- A builtin that takes one argument got another count. -/
  | wrongArgumentCount (builtin : String)
  /-- The argument of `exit` is no number that fits. -/
  | invalidExitCode (argument : String) (fault : Text.NumberFault)
  /-- The target of `cd` is there, but is no directory. -/
  | notADirectory (target : String)
  /-- Nothing can be learned about the target of `cd`. -/
  | noSuchDirectory (target : String)
  /-- The verb is neither a builtin nor found on the search path. -/
  | commandNotFound (verb : String)
  /-- A leading `~` stands for a home directory that is not known. -/
  | homeNotSet
  /-- The working directory cannot be told. -/
  | currentDirectory (fault : Fault)
  /-- The file of a redirection could not be opened. -/
  | redirect (path : String) (fault : Fault)
  /-- A program that was found could not be started. -/
  | spawn (name : String) (fault : Fault)
  /-- Output could not be written. -/
  | output (fault : Fault)
  deriving DecidableEq, Repr

namespace Diagnostic

/-- What is said of a program that could not be started. -/
def spawnReason (f : Fault) : String :=
  match f.kind with
  | .notFound => "command not found"
  | .permissionDenied => "Permission denied"
  | _ => "failed to execute: " ++ f.message

/-- The diagnostic as the user sees it. -/
def message : Diagnostic → String
  | wrongArgumentCount builtin => builtin ++ ": wrong number of arguments"
  | invalidExitCode argument fault => "exit: " ++ argument ++ ": " ++ fault.message
  | notADirectory target => target ++ " is not a directory"
  | noSuchDirectory target => "cd: " ++ target ++ ": No such file or directory"
  | commandNotFound verb => verb ++ ": command not found"
  | homeNotSet => "cd: HOME not set"
  | currentDirectory fault => "error getting current directory: " ++ fault.message
  | redirect path fault => path ++ ": " ++ fault.message
  | spawn name fault => name ++ ": " ++ spawnReason fault
  | output fault => "write error: " ++ fault.message

/-- The line that is written for a diagnostic. -/
def line (d : Diagnostic) : Bytes := Text.utf8 (d.message ++ "\n")

/-- The status with which the interpreter has to end after this diagnostic. -/
def exitStatus? : Diagnostic → Option Int
  | invalidExitCode _ _ => some 1
  | _ => none

end Diagnostic

/-! ### Spelling for log records -/

namespace Text.NumberFault

def debugText : NumberFault → String
  | .empty => "Empty"
  | .invalidDigit => "InvalidDigit"
  | .tooLarge => "PosOverflow"
  | .tooSmall => "NegOverflow"

end Text.NumberFault

namespace Errno

/-- The names of the kinds into which error numbers are sorted. -/
def kindNames : List (Int × String) :=
  [(1, "PermissionDenied"), (2, "NotFound"), (4, "Interrupted"), (7, "ArgumentListTooLong"),
   (11, "WouldBlock"), (12, "OutOfMemory"), (13, "PermissionDenied"), (16, "ResourceBusy"),
   (17, "AlreadyExists"), (18, "CrossesDevices"), (20, "NotADirectory"), (21, "IsADirectory"),
   (22, "InvalidInput"), (26, "ExecutableFileBusy"), (27, "FileTooLarge"), (28, "StorageFull"),
   (29, "NotSeekable"), (30, "ReadOnlyFilesystem"), (31, "TooManyLinks"), (32, "BrokenPipe"),
   (35, "Deadlock"), (36, "InvalidFilename"), (38, "Unsupported"), (39, "DirectoryNotEmpty"),
   (40, "FilesystemLoop"), (98, "AddrInUse"), (99, "AddrNotAvailable"), (100, "NetworkDown"),
   (101, "NetworkUnreachable"), (103, "ConnectionAborted"), (104, "ConnectionReset"),
   (107, "NotConnected"), (110, "TimedOut"), (111, "ConnectionRefused"),
   (113, "HostUnreachable"), (116, "StaleNetworkFileHandle"), (122, "QuotaExceeded")]

def kindName (e : Errno) : String := (kindNames.lookup e.number).getD "Uncategorized"

end Errno

namespace Fault

/-- A fault as a log record spells it. -/
def debugText : Fault → String
  | .system e =>
    "Os \x7b code: " ++ toString e.number ++ ", kind: " ++ e.kindName ++ ", message: " ++
      Text.quoted e.description ++ " \x7d"
  | .described .notFound text => "Custom \x7b kind: NotFound, error: " ++ Text.quoted text ++ " \x7d"
  | .described .permissionDenied text =>
    "Custom \x7b kind: PermissionDenied, error: " ++ Text.quoted text ++ " \x7d"
  | .described .invalidInput text =>
    "Error \x7b kind: InvalidInput, message: " ++ Text.quoted text ++ " \x7d"
  | .described .other text => "Custom \x7b kind: Other, error: " ++ Text.quoted text ++ " \x7d"

end Fault

namespace Diagnostic

/-- A diagnostic as a log record spells it. -/
def debugText : Diagnostic → String
  | wrongArgumentCount builtin => "WrongArgCount(" ++ Text.quoted builtin ++ ")"
  | invalidExitCode argument fault =>
    "InvalidExitCode \x7b arg: " ++ Text.quoted argument ++
      ", source: ParseIntError \x7b kind: " ++ fault.debugText ++ " \x7d \x7d"
  | notADirectory target => "NotADirectory(" ++ Text.quoted target ++ ")"
  | noSuchDirectory target => "NoSuchDirectory(" ++ Text.quoted target ++ ")"
  | commandNotFound verb => "CommandNotFound(" ++ Text.quoted verb ++ ")"
  | homeNotSet => "HomeNotSet"
  | currentDirectory fault => "CurrentDir(" ++ fault.debugText ++ ")"
  | redirect path fault =>
    "Redirect \x7b path: " ++ Text.quoted path ++ ", source: " ++ fault.debugText ++ " \x7d"
  | spawn name fault =>
    "Spawn \x7b name: " ++ Text.quoted name ++ ", source: " ++ fault.debugText ++ " \x7d"
  | output fault => "Output(" ++ fault.debugText ++ ")"

end Diagnostic
end LineShell
