import LineShell.Script.Tool.Destination

/-! # Moving, copying and linking

What an operand names gets another name by `mv`, a copy by `cp`, and one more name or a link by
`ln`.  What is in the way is replaced, unless an option or an answer keeps it.
-/
namespace LineShell.Script
namespace Tool
open LineShell.Script.Action

/-! ## Moving -/

/-- Gives a file another name, and says why that is not possible. -/
def renamed (os : List (Char × Octets)) (source target : Octets) (movesDirectory : Bool) :
    Action Nat := do
  let refused ←
    if endsInSlash target && !movesDirectory && !(← isDirectory target) then
      pure (some Errno.notDirectory)
    else change fun fs start => fs.rename start (pathOf source) (pathOf target)
  match refused with
  | none =>
    if has os 'v' then
      let _ ← put (Octets.ofString "renamed " ++ arrow source " -> " target ++ ['\n'])
    return 0
  | some e =>
    report (
      if e = .notDirectory && movesDirectory then
        Octets.ofString "cannot overwrite non-directory " ++ quoted target ++
          Octets.ofString " with directory " ++ quoted source
      else if e = .isDirectory then
        Octets.ofString "cannot overwrite directory " ++ quoted target ++
          Octets.ofString " with non-directory"
      else if e = .notEmpty then
        Octets.ofString "cannot overwrite " ++ quoted target ++ [':', ' '] ++ explain e
      else
        Octets.ofString "cannot move " ++ arrow source " to " target ++ [':', ' '] ++ explain e)
    return 1

def mv : Tool := fun words =>
  let accepted : Accepted :=
    { plain := "fvnTiu", valued := "t"
      long := [("force", 'f'), ("verbose", 'v'), ("no-clobber", 'n'),
        ("no-target-directory", 'T'), ("target-directory", 't'), ("interactive", 'i'),
        ("update", 'u')] }
  withOptions accepted 1 words fun os operands =>
    let takes := takesOperands (os.filter (·.1 == 'T'))
    asking (towardsLast .ofTransfer os operands takes fun source target => do
      match ← ask fun fs start => fs.nodeAt start (pathOf source) with
      | .error e =>
        reportOn "cannot stat" source e
        return 1
      | .ok node =>
        let movesDirectory : Bool :=
          match node with
          | .directory _ => true
          | _ => false
        let places ← ask fun fs start => do
          return (← fs.lastPlace start (pathOf source) .invalidArgument,
            ← fs.lastPlace start (pathOf target) .invalidArgument)
        let taken := (← ask fun fs start => fs.nodeAt start (pathOf target)).toOption.isSome
        let isSame : Bool :=
          match places with
          | .ok (a, b) => a = b
          | .error _ => false
        let manner := if taken then lastOf os "fni" else none
        if manner == some 'n' then
          report (Octets.ofString "not replacing " ++ quoted target)
          return 1
        else if taken && !isSame && (← keepsNewer os source target) then return 0
        else if !(← agreedIf (manner == some 'i' && !isSame) (mayOverwrite true target)) then
          return 1
        else
          match places with
          | .ok (a, b) =>
            if a = b then sameFile source target
            else if movesDirectory && FileSystem.isWithin a b then
              report (Octets.ofString "cannot move " ++ quoted source ++
                Octets.ofString " to a subdirectory of itself, " ++ quoted target)
              return 1
            else renamed os source target movesDirectory
          | .error _ => renamed os source target movesDirectory)

/-! ## Copying -/

/-- Puts contents under a path; a file that is new gets the given permissions. -/
def store (fs : FileSystem) (start : Place) (path : Path) (mode : Nat) (content : Bytes) :
    Except Errno FileSystem := do
  let (handle, fs) ← fs.openAt start mode .overwrite path
  return (fs.write handle content).2.2

/-- Copies the file that a path names. -/
def copyFile (os : List (Char × Octets)) (source target : Octets) (mode : Nat) : Action Nat := do
  let dangling := (← ask fun fs start => fs.nodeAt start (pathOf target)).toOption.isSome &&
    (← ask fun fs start => fs.locate start (pathOf target)).toOption.isNone
  if dangling then
    report (Octets.ofString "not writing through dangling symlink " ++ quoted target)
    return 1
  else
    match ← ask fun fs start => fs.readAt start (pathOf source) with
    | .error e =>
      report (Octets.ofString "cannot open " ++ quoted source ++
        Octets.ofString " for reading: " ++ explain e)
      return 1
    | .ok content =>
      let mask := (← process).mask
      let kept := has os 'p' || has os 'a'
      let given := if kept then mode else mode &&& (0o777 ^^^ mask)
      let write (fs : FileSystem) (start : Place) : Except Errno FileSystem := do
        let fs ← store fs start (pathOf target) given content
        if kept then fs.changeMode start (pathOf target) mode else return fs
      let result ←
        match ← change write with
        | some .accessDenied =>
          -- what cannot be opened may still be replaced
          if has os 'f' then
            change fun fs start => do
              let fs ← fs.unlink start (pathOf target)
              write fs start
          else pure (some .accessDenied)
        | other => pure other
      match result with
      | none => return 0
      | some e =>
        reportOn "cannot create regular file" target
          (if e = .isDirectory && endsInSlash target then .notDirectory else e)
        return 1

/-- Copies what a path names; what is in a directory is copied in turn, but not the copy of
the operand at the `top` itself. -/
def copyTree (os : List (Char × Octets)) (recursive : Bool) (top : Octets × Octets) :
    Nat → Octets → Octets → Action Nat
  | 0, _, _ => return 1
  | levels + 1, source, target => do
    let keepsLinks := lastOf os "PLdra" matches some 'P' | some 'd' | some 'r' | some 'a'
    let found ←
      match ← ask fun fs start => fs.nodeAt start (pathOf source) with
      | .ok (.link path) =>
        if keepsLinks then pure (.ok (.link path))
        else
          ask fun fs start => do
            let place ← fs.locate start (pathOf source)
            return (fs.node? place).getD (.link path)
      | other => pure other
    let sees (p : Octets) : Action (Option FileKind) :=
      return (← ask fun fs start => (fs.locate start (pathOf p)).map fun place =>
        (fs.metadataAt place).kind).toOption
    let same ← ask fun fs start => .ok (fs.sameNode start (pathOf source) (pathOf target))
    let tellArrow : Action Unit := do
      if has os 'v' then
        let _ ← put (arrow source " -> " target ++ ['\n'])
    match found with
    | .error e =>
      reportOn "cannot stat" source e
      return 1
    | .ok (.directory mode) =>
      if !recursive then
        report (Octets.ofString "-r not specified; omitting directory " ++ quoted source)
        return 1
      else
        match ← sees target with
        | some .regular | some .other =>
          report (Octets.ofString "cannot overwrite non-directory " ++ quoted target ++
            Octets.ofString " with directory " ++ quoted source)
          return 1
        | present =>
          let isCopy ← ask fun fs start => do
            return (← fs.locate start (pathOf source)) == (← fs.locate start (pathOf top.2))
          if isCopy matches .ok true then
            report (Octets.ofString "cannot copy a directory, " ++ quoted top.1 ++
              Octets.ofString ", into itself, " ++ quoted top.2)
            return 1
          else
            let mask := (← process).mask
            let given := mode &&& (0o777 ^^^ mask)
            let made ←
              if present.isSome then pure 0
              else
                attempt "cannot create directory" target fun fs start =>
                  fs.makeDirectory start (given ||| 0o700) (pathOf target)
            if made ≠ 0 then return made
            else
              if present.isNone then tellArrow
              match ← ask fun fs start => fs.list start (pathOf source) with
              | .error e =>
                reportOn "cannot access" source e
                return 1
              | .ok names =>
                let status ← eachOperand (names.map Octets.ofBytes) fun name =>
                  copyTree os recursive top levels (inDirectory source name) (inDirectory target name)
                if present.isNone && given ||| 0o700 ≠ given then
                  let _ ← change fun fs start => fs.changeMode start (pathOf target) given
                return status
    | .ok node =>
      if (← sees target).isSome && lastOf os "in" == some 'n' then return 0
      else if same matches .ok true then
        if has os 'f' && has os 'l' then return 0 else sameFile source target
      else if (← sees target).isSome && (← keepsNewer os source target) then return 0
      else if !(← agreedIf ((← sees target).isSome && has os 'i') (mayOverwrite (has os 'f') target))
      then return 1
      else if (← sees target) == some .directory then
        report (Octets.ofString "cannot overwrite directory " ++ quoted target ++
          Octets.ofString " with non-directory " ++ quoted source)
        return 1
      else
        tellArrow
        match node with
        | .link path =>
          let _ ← change fun fs start => fs.unlink start (pathOf target)
          attempt "cannot create symbolic link" target fun fs start =>
            fs.symlink start path (pathOf target)
        | _ =>
          let mode ← ask fun fs start => fs.modeAt start (pathOf source)
          copyFile os source target (mode.toOption.getD 0)

def cp : Tool := fun words =>
  let accepted : Accepted :=
    { plain := "rRafpnvPLdTiu", valued := "t"
      long := [("recursive", 'r'), ("archive", 'a'), ("force", 'f'), ("no-clobber", 'n'),
        ("verbose", 'v'), ("no-dereference", 'P'), ("dereference", 'L'),
        ("no-target-directory", 'T'), ("target-directory", 't'), ("preserve", 'p'),
        ("interactive", 'i'), ("update", 'u')] }
  withOptions accepted 1 words fun os operands => do
    let os := os.map fun (c, v) => (if c == 'R' then 'r' else c, v)
    let takes := takesOperands (os.filter (·.1 == 'T'))
    if has os 'n' then
      report (Octets.ofString ("warning: behavior of -n is non-portable and may change in " ++
        "future; use --update=none instead"))
    asking (towardsLast .ofTransfer os operands takes fun source target => do
      copyTree os (has os 'r' || has os 'a') (source, target) (← depth) source target)

/-! ## Linking -/

def ln : Tool := fun words =>
  let accepted : Accepted :=
    { plain := "sfnvTidF", valued := "t"
      long := [("symbolic", 's'), ("force", 'f'), ("no-dereference", 'n'), ("verbose", 'v'),
        ("no-target-directory", 'T'), ("target-directory", 't'), ("interactive", 'i'),
        ("directory", 'd')] }
  withOptions accepted 1 words fun os operands =>
    let symbolic := has os 's'
    let replaces := lastOf os "fi"
    let operands :=
      match operands with
      | [only] => if has os 'T' || has os 't' then [only] else [only, ['.']]
      | _ => operands
    asking (towardsLast .ofLinking os operands (takesOperands os) fun source target => do
      let accessible ←
        if symbolic then pure none
        else
          match ← ask fun fs start => fs.nodeAt start (pathOf source) with
          | .error e => pure (some e)
          | .ok _ => pure none
      match accessible with
      | some e =>
        reportOn "failed to access" source e
        return 1
      | none =>
        let linksDirectories := symbolic || has os 'd' || has os 'F'
        if !linksDirectories && (← entriesOf source) matches .ok (some _) then
          report (shown source ++ Octets.ofString ": hard link not allowed for directory")
          return 1
        else
          let taken := (← ask fun fs start => fs.nodeAt start (pathOf target)).toOption.isSome
          let same ← ask fun fs start => do
            return (← fs.lastPlace start (pathOf source) .invalidArgument) ==
              (← fs.lastPlace start (pathOf target) .invalidArgument)
          if taken && replaces.isSome && same matches .ok true then sameFile source target
          else if !(← agreedIf (taken && replaces == some 'i')
              (agreed (Octets.ofString "replace " ++ quoted target))) then
            return 1
          else
            if replaces.isSome then
              let _ ← change fun fs start => fs.unlink start (pathOf target)
            let refused ← change fun fs start =>
              if symbolic then
                if source.isEmpty then .error .noEntry
                else fs.symlink start (pathOf source) (pathOf target)
              else fs.hardLink start (pathOf source) (pathOf target)
            match refused with
            | none =>
              if has os 'v' then
                let _ ← put (arrow target (if symbolic then " -> " else " => ") source ++ ['\n'])
              return 0
            | some e =>
              report (
                if symbolic then
                  Octets.ofString "failed to create symbolic link " ++
                    (if source.isEmpty then arrow target " -> " source else quoted target) ++
                    [':', ' '] ++ explain e
                else
                  Octets.ofString "failed to create hard link " ++
                    (if e = .fileExists then quoted target else arrow target " => " source) ++
                    [':', ' '] ++ explain e)
              return 1)

end Tool
end LineShell.Script
