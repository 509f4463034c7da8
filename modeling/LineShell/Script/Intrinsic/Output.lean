import LineShell.Script.Condition
import LineShell.Script.Format
import LineShell.Script.Intrinsic.Basic

/-! # Intrinsics that write and answer

`echo`, `printf` and the two names of `test`.
-/
namespace LineShell.Script
namespace Intrinsic
open LineShell.Script.Action

def echo : Intrinsic := fun words => emit (Format.echo words)

/-- The `printf` of the interpreter computes with numbers of 64 bits. -/
def dialect : Format.Dialect :=
  { reals := .double, shown := id, noNumber := ": expected numeric value"
    leftOver := ": not completely converted", rangeFirst := false, moreEscapes := false }

def printf : Intrinsic := fun words => do
  match ← operands words with
  | [] => fault (Octets.ofString "usage: printf format [arg ...]")
  | format :: arguments =>
    let p := Format.printf dialect format arguments
    for c in p.complaints do
      warn c
    let written ← emit p.text
    match p.stop with
    | some (.invalid d) => fault (d ++ Octets.ofString ": invalid directive")
    | some _ => fault (Octets.ofString "missing format character")
    | none => return if p.failed then 1 else written

/-! ## Questions about files -/

/-- Whether something is true of a path. -/
def holds (fs : FileSystem) (start : Place) (question : String) (operand : Octets) : Bool :=
  let path : Path := ⟨operand.bytes⟩
  match question with
  | "-h" | "-L" =>
    match fs.nodeAt start path with
    | .ok (.link _) => true
    | _ => false
  | _ =>
    match fs.locate start path with
    | .error _ => false
    | .ok place =>
      let m := fs.metadataAt place
      match question with
      | "-e" | "-O" | "-G" => true
      | "-f" => m.kind == .regular
      | "-d" => m.kind == .directory
      | "-c" => m.kind == .other
      | "-r" => FileSystem.ownerReads m.mode
      | "-w" => FileSystem.ownerWrites m.mode
      | "-x" => FileSystem.ownerExecutes m.mode
      | "-s" => m.kind == .directory || ((fs.file? place).map fun d => !d.content.isEmpty).getD false
      | "-u" => m.mode &&& 0o4000 != 0
      | "-g" => m.mode &&& 0o2000 != 0
      | "-k" => m.mode &&& 0o1000 != 0
      | _ => false

/-- Whether two paths are related. -/
def relates (fs : FileSystem) (start : Place) (relation : String) (a b : Octets) : Bool :=
  match relation with
  | "-nt" => fs.isNewer start ⟨a.bytes⟩ ⟨b.bytes⟩
  | "-ot" => fs.isNewer start ⟨b.bytes⟩ ⟨a.bytes⟩
  | _ => fs.sameNode start ⟨a.bytes⟩ ⟨b.bytes⟩

/-- Answers a condition with a status. -/
def test : Intrinsic := fun words => do
  let m ← get
  let start := m.current.directory
  match Condition.evaluate (holds m.files start) (relates m.files start) words with
  | .ok true => return 0
  | .ok false => return 1
  | .error text => fault text

def bracket : Intrinsic := fun words => do
  -- the last word has to begin so
  if (words.getLast?.bind List.head?) == some ']' then test words.dropLast
  else fault (Octets.ofString "missing ]")

end Intrinsic
end LineShell.Script
