import LineShell.Script.Tool.Tree

/-! # Listing directories

`ls` writes the names of its operands and those in directories, one on a line and in
order.
-/
namespace LineShell.Script
namespace Tool
open LineShell.Script.Action

/-- A name with the mark of its kind, if marks are wanted. -/
def marked (os : List (Char × Octets)) (path name : Octets) : Action Octets := do
  if !(has os 'F' || has os 'p') then return name
  else
    match ← ask fun fs start => fs.nodeAt start (pathOf path) with
    | .ok (.directory _) => return name ++ ['/']
    | .ok (.link _) => return if has os 'F' then name ++ ['@'] else name
    | .ok (.file _) =>
      let mode ← ask fun fs start => fs.modeAt start (pathOf path)
      let runs := (mode.toOption.getD 0) &&& 0o111 ≠ 0
      return if has os 'F' && runs then name ++ ['*'] else name
    | _ => return name

/-- Names in order. -/
def inOrder (os : List (Char × Octets)) (names : List Octets) : List Octets :=
  let ascending := names.mergeSort fun a b => !(b < a)
  if has os 'r' then ascending.reverse else ascending

/-- Lists a directory, and on demand the directories in it: the status and the sections of
the listing, of which all but a single one have a title. -/
def listing (os : List (Char × Octets)) (titled : Bool) (failure : Nat) :
    Nat → Octets → Action (Nat × List Octets)
  | 0, _ => return (1, [])
  | levels + 1, directory => do
    match ← ask fun fs start => fs.list start (pathOf directory) with
    | .error e =>
      reportOn "cannot open directory" directory e
      return (failure, [])
    | .ok entries =>
      let entries := entries.map Octets.ofBytes
      let entries :=
        match lastOf os "aA" with
        | some 'a' => ['.'] :: ['.', '.'] :: entries
        | some _ => entries
        | none => entries.filter (·.head? != some '.')
      let entries := inOrder os entries
      let mut lines : Octets := []
      for name in entries do
        lines := lines ++ (← marked os (inDirectory directory name) name) ++ ['\n']
      let title : Octets := if titled || has os 'R' then directory ++ [':', '\n'] else []
      let mut status := 0
      let mut sections : List Octets := [title ++ lines]
      if has os 'R' then
        for name in entries do
          if name ≠ ['.'] && name ≠ ['.', '.'] then
            let path := inDirectory directory name
            match ← ask fun fs start => fs.nodeAt start (pathOf path) with
            | .ok (.directory _) =>
              let (worst, more) ← listing os titled 1 levels path
              status := max status worst
              sections := sections ++ more
            | _ => pure ()
      return (status, sections)

def ls : Tool := fun words =>
  let accepted : Accepted :=
    { plain := "1aAdrFpRU"
      long := [("all", 'a'), ("almost-all", 'A'), ("directory", 'd'), ("reverse", 'r'),
        ("recursive", 'R')] }
  withOptions accepted 2 words fun os operands => do
    let operands := if operands.isEmpty then [['.']] else operands
    let mut worst := 0
    let mut names : List Octets := []
    let mut directories : List Octets := []
    for operand in operands do
      match ← ask fun fs start => fs.nodeAt start (pathOf operand) with
      | .error e =>
        reportOn "cannot access" operand e
        worst := 2
      | .ok node =>
        let isLink : Bool :=
          match node with
          | .link _ => true
          | _ => false
        if has os 'd' || !(← isDirectory operand) || (isLink && has os 'F') then
          names := names ++ [operand]
        else directories := directories ++ [operand]
    let mut lines : Octets := []
    for name in inOrder os names do
      lines := lines ++ (← marked os name name) ++ ['\n']
    let mut sections : List Octets := if names.isEmpty then [] else [lines]
    let levels ← depth
    for directory in inOrder os directories do
      let (status, more) ← listing os (1 < operands.length) 2 levels directory
      worst := max worst status
      sections := sections ++ more
    return max worst (← put ((['\n'] : Octets).intercalate sections))

end Tool
end LineShell.Script
