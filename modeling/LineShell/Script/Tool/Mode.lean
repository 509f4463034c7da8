import LineShell.Script.Tool.Tree

/-! # Changing permissions

`chmod` changes the permissions of its operands, and on demand those of everything under
them.
-/
namespace LineShell.Script
namespace Tool
open LineShell.Script.Action

/-- A change of permissions as it is asked for, and whether it was written like an option. -/
structure ModeChange where
  text : Octets
  likeOption : Bool := false
  /-- The permissions of some file, which are taken over. -/
  model : Option Nat := none

/-- The permissions after a change. -/
def ModeChange.apply (c : ModeChange) (mask : Nat) (s : Permissions.Subject) : Option Nat :=
  match c.model with
  | some mode => some mode
  | none => Permissions.change mask s c.text

/-- The letters of options at the beginning of a word that asks for a change although it begins
like an option. -/
def lettersOfMode? : Octets → Option Octets
  | '-' :: cs =>
    let letters := cs.takeWhile "Rcfv".toList.contains
    if (cs.drop letters.length).head?.any "rwxXstugoa,+=01234567".toList.contains then some letters
    else none
  | _ => none

/-- The words before the end of options that are changes, and the other words. -/
def modeWords (words : List Octets) : List Octets × List Octets :=
  let before := words.takeWhile (· ≠ ['-', '-'])
  let others := before.filterMap fun w =>
    match lettersOfMode? w with
    | none => some w
    | some [] => none
    | some letters => some ('-' :: letters)
  (before.filter fun w => (lettersOfMode? w).isSome, others ++ words.drop before.length)

/-- Four octal digits, and the letters. -/
def modeText (mode : Nat) : Octets :=
  let ds := Nat.toDigits 8 mode
  List.replicate (4 - ds.length) '0' ++ ds ++ [' ', '('] ++ Permissions.text mode ++ [')']

/-- Changes the permissions of what a path names, and of what is under it. -/
def changeModes (os : List (Char × Octets)) (c : ModeChange) : Nat → Octets → Action Nat
  | 0, _ => return 1
  | levels + 1, path => do
    let complains := !has os 'f'
    let found ← ask fun fs start => do
      let place ← fs.locate start (pathOf path)
      return fs.metadataAt place
    match found with
    | .error e =>
      let isLink : Bool :=
        match ← ask fun fs start => fs.nodeAt start (pathOf path) with
        | .ok (.link _) => true
        | _ => false
      if complains then
        if isLink && e == .noEntry then
          report (Octets.ofString "cannot operate on dangling symlink " ++ quoted path)
        else reportOn "cannot access" path e
      if has os 'v' then
        let _ ← put (quoted path ++ Octets.ofString " could not be accessed\n")
      return 1
    | .ok m =>
      let mask := (← process).mask
      let subject : Permissions.Subject := ⟨m.mode, m.kind == .directory⟩
      let mode := (c.apply mask subject).getD m.mode
      let refused ← change fun fs start => fs.changeMode start (pathOf path) mode
      let status ←
        match refused with
        | some e =>
          if complains then reportOn "changing permissions of" path e
          pure 1
        | none =>
          let changed := mode ≠ m.mode
          if has os 'v' || (has os 'c' && changed) then
            let _ ← put (Octets.ofString "mode of " ++ quoted path ++
              (if changed then
                Octets.ofString " changed from " ++ modeText m.mode ++ Octets.ofString " to "
              else Octets.ofString " retained as ") ++ modeText mode ++ ['\n'])
          -- what was written like an option may do less than it seems
          let meant := (c.apply 0 subject).getD mode
          if c.likeOption && mode &&& Permissions.allBut meant ≠ 0 then
            if complains then
              report (shown path ++ Octets.ofString ": new permissions are " ++
                Permissions.text mode ++ Octets.ofString ", not " ++ Permissions.text meant)
            pure 1
          else pure 0
      if has os 'R' then
        match ← entriesOf path with
        | .error e =>
          if complains then reportOn "cannot read directory" path e
          return 1
        | .ok none => return status
        | .ok (some names) =>
          return max status (← eachOperand names fun name => do
            -- links under a directory are left alone
            match ← ask fun fs start => fs.nodeAt start (pathOf (inDirectory path name)) with
            | .ok (.link _) => return 0
            | _ => changeModes os c levels (inDirectory path name))
      else return status

def chmod : Tool := fun words =>
  let (modes, words) := modeWords words
  let accepted : Accepted :=
    { plain := "Rvcf", valued := "="
      long := [("recursive", 'R'), ("verbose", 'v'), ("changes", 'c'), ("quiet", 'f'),
        ("silent", 'f'), ("reference", '=')] }
  withOptions accepted 1 words fun os operands => do
    let asked : Option (ModeChange × List Octets) ←
      match valueOf os '=', modes, operands with
      | some model, _, operands =>
        match ← ask fun fs start => fs.modeAt start (pathOf model) with
        | .ok mode => pure (some (⟨[], false, some mode⟩, operands))
        | .error e =>
          reportOn "failed to get attributes of" model e
          return 1
      | none, [], [] => pure none
      | none, [], mode :: operands => pure (some (⟨mode, false, none⟩, operands))
      | none, modes, operands => pure (some (⟨[','].intercalate modes, true, none⟩, operands))
    match asked with
    | none => misused 1 (Octets.ofString "missing operand")
    | some (c, []) =>
      if c.model.isSome || c.likeOption then misused 1 (Octets.ofString "missing operand")
      else misused 1 (Octets.ofString "missing operand after " ++ cited c.text)
    | some (c, operands) =>
      if (c.apply 0 { bits := 0 }).isNone then
        misused 1 (Octets.ofString "invalid mode: " ++ cited c.text)
      else
        let levels ← depth
        eachOperand operands (changeModes os c levels)

end Tool
end LineShell.Script
