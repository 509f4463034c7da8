import LineShell.Program
import LineShell.Script.Installation

/-! # The command line

Runs the program on standard input.  The files that it works on are those of a machine
held in memory, which begins with nothing but the installed programs and is forgotten
at the end; the environment variables that the program asks for are the real ones.
-/
namespace LineShell

/-- The variables that the program and the programs that it starts ask for. -/
def askedVariables : List String := ["HOME", "PATH", Settings.promptVariable, Settings.logVariable]

/-- The directory that the program starts in. -/
def startDirectory : Path := Path.ofString "/root"

/-- The variables of the real environment that are asked for. -/
def readEnvironment : IO Environment :=
  askedVariables.filterMapM fun name => do
    return (← IO.getEnv name).map fun value => (name, Text.utf8 value)

/-- What the program finds when it starts with some input. -/
def surroundings (environment : Environment) (input : Bytes) : Surroundings :=
  { environment, directory := .ok startDirectory, files := Script.Installation.files
    input := { bytes := input }, stamp := ⟨0, "0"⟩ }

/-- Reads all of standard input, runs the program on it, and passes on what it has
written and its status. -/
def runOnInput : IO UInt32 := do
  let input ← (← IO.getStdin).readBinToEnd
  let environment ← readEnvironment
  let launcher := Script.Installation.launcher environment
  let outcome := Program.run launcher (surroundings environment input.toList)
  (← IO.getStdout).write ⟨outcome.out.toArray⟩
  (← IO.getStderr).write ⟨outcome.err.toArray⟩
  return UInt32.ofNat outcome.status

end LineShell

def main : IO UInt32 := LineShell.runOnInput
