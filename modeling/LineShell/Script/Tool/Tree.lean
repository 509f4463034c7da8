import LineShell.Script.Tool.Question

/-! # Making and removing

Directories are made and removed by `mkdir` and `rmdir`, everything else is removed by
`rm`, and `touch` makes files and gives them dates.
-/
namespace LineShell.Script
namespace Tool
open LineShell.Script.Action

/-- Carries out a change, and reports why it was refused. -/
def attempt (doing : String) (operand : Octets)
    (edit : FileSystem → Place → Except Errno FileSystem) : Action Nat := do
  match ← change edit with
  | none => return 0
  | some e =>
    reportOn doing operand e
    return 1

/-- Runs a tool's work on its operands, of which there has to be one. -/
def withOperands (accepted : Accepted) (words : List Octets)
    (work : List (Char × Octets) → List Octets → Action Nat) : Action Nat :=
  withOptions accepted 1 words fun os operands =>
    if operands.isEmpty then misused 1 (Octets.ofString "missing operand") else work os operands

/-- Works on one thing after the other, and stops where that fails. -/
def untilFailure {α : Type} (work : α → Action Nat) : List α → Action Nat
  | [] => return 0
  | a :: rest => do
    let status ← work a
    if status = 0 then untilFailure work rest else return status

/-- The paths of a path's directories from the first on, and the path itself. -/
def stepsOf (path : Octets) : List Octets :=
  let names := Octets.splitAt '/' path
  ((List.range names.length).map fun n => (['/'] : Octets).intercalate (names.take (n + 1))).filter
    fun p => !p.isEmpty

/-- Says what a tool has done, if it is to tell. -/
def tell (os : List (Char × Octets)) (doing : String) (operand : Octets) : Action Unit := do
  if has os 'v' then
    let _ ← put (Octets.ofString doing ++ quoted operand ++ ['\n'])

def mkdir : Tool := fun words =>
  let accepted : Accepted :=
    { plain := "pv", valued := "m"
      long := [("parents", 'p'), ("verbose", 'v'), ("mode", 'm')] }
  withOperands accepted words fun os operands => do
    let mask := (← process).mask
    let asked : Option (Option Nat) :=
      (valueOf os 'm').map (Permissions.change mask { bits := 0o777, isDirectory := true })
    match asked with
    | some none =>
      report (Octets.ofString "invalid mode " ++ cited ((valueOf os 'm').getD []))
      return 1
    | _ =>
      let meant := (asked.getD none).getD (← permissions 0o777)
      let make (mode : Nat) (path : Octets) : Action Nat := do
        let status ← attempt "cannot create directory" path fun fs start =>
          fs.makeDirectory start mode (pathOf path)
        if status = 0 then tell os "mkdir: created directory " path
        return status
      eachOperand operands fun operand => do
        if has os 'p' then
          let steps := stepsOf operand
          let last := steps.getLast?.getD []
          if steps.isEmpty then make meant operand
          else
            -- a directory on the way has to let its owner in
            let between := (← permissions 0o777) ||| 0o300
            untilFailure (fun path => do
              match ← ask fun fs start => (fs.locate start (pathOf path)).map fs.metadataAt with
              | .ok m =>
                if m.kind == .directory then return 0
                else if path = last then make meant path
                else
                  reportOn "cannot create directory" path .notDirectory
                  return 1
              | .error _ => make (if path = last then meant else between) path) steps
        else make meant operand

def rmdir : Tool := fun words =>
  let accepted : Accepted :=
    { plain := "pvi"
      long := [("parents", 'p'), ("verbose", 'v'), ("ignore-fail-on-non-empty", 'i')] }
  withOperands accepted words fun os operands => do
    let remove (doing : String) (path : Octets) : Action Nat := do
      tell os "rmdir: removing directory, " path
      match ← change fun fs start => fs.removeDirectory start (pathOf path) with
      | none => return 0
      | some e =>
        let bare := (path.reverse.dropWhile (· = '/')).reverse
        let linked : Bool :=
          match ← ask fun fs start => fs.nodeAt start (pathOf bare) with
          | .ok (.link _) => bare.length < path.length
          | _ => false
        if e == .notDirectory && linked && (← isDirectory path) then
          report (Octets.ofString doing ++ [' '] ++ quoted path ++
            Octets.ofString ": Symbolic link not followed")
        else if !(has os 'i' && e == .notEmpty) then reportOn doing path e
        return if has os 'i' && e == .notEmpty then 0 else 1
    eachOperand operands fun operand => do
      let status ← remove "failed to remove" operand
      if status = 0 && has os 'p' then
        let trimmed := (operand.reverse.dropWhile (· = '/')).reverse
        untilFailure (remove "failed to remove directory") (stepsOf trimmed).reverse.tail
      else return status

/-- What is under a path: the names in a directory, and nothing in anything else. -/
def entriesOf (path : Octets) : Action (Except Errno (Option (List Octets))) := do
  match ← ask fun fs start => fs.nodeAt start (pathOf path) with
  | .ok (.directory _) =>
    return (← ask fun fs start => fs.list start (pathOf path)).map fun names =>
      some (names.map Octets.ofBytes)
  | .ok _ => return .ok none
  | .error e => return .error e

/-- How many levels a tree may have. -/
def depth : Action Nat := return (← get).files.nodes.length + 1

/-- Removes a path with everything under it, as far as that is possible and, if asked, agreed
to; it says whether there is nothing left of it. -/
def removeTree (os : List (Char × Octets)) : Nat → Octets → Action (Nat × Bool)
  | 0, _ => return (1, false)
  | levels + 1, path => do
    let manner := lastOf os "fiI"
    let asks := manner == some 'i'
    let carryOut (edit : FileSystem → Place → Except Errno FileSystem) (doing : String) :
        Action (Nat × Bool) := do
      let status ← attempt "cannot remove" path edit
      if status = 0 then tell os doing path
      return (status, status = 0)
    match ← entriesOf path with
    | .error e =>
      if manner == some 'f' && (e == .noEntry || e == .notDirectory) then return (0, true)
      else
        reportOn "cannot remove" path e
        return (1, false)
    | .ok none =>
      if !(← agreedIf asks (mayRemove path)) then return (0, false)
      else carryOut (fun fs start => fs.unlink start (pathOf path)) "removed "
    | .ok (some names) =>
      if !(← agreedIf (asks && !names.isEmpty) (mayDescend path)) then return (0, false)
      else
        let mut worst := 0
        let mut emptied := true
        for name in names do
          let (status, gone) ← removeTree os levels (inDirectory path name)
          worst := max worst status
          emptied := emptied && gone
        if !emptied then return (worst, false)
        else if !(← agreedIf asks (mayRemove path)) then return (worst, false)
        else
          carryOut (fun fs start => fs.removeDirectory start (pathOf path)) "removed directory "

/-- Removes what an operand names, but of directories at most empty ones. -/
def removeOne (os : List (Char × Octets)) (operand : Octets) : Action Nat := do
  let manner := lastOf os "fiI"
  let entries ← entriesOf operand
  let isFolder : Bool :=
    match entries with
    | .ok (some _) => true
    | _ => false
  let isEmptied : Bool :=
    match entries with
    | .ok (some names) => has os 'd' && names.isEmpty
    | _ => false
  let found : Bool := entries.toOption.isSome
  if !(← agreedIf (manner == some 'i' && found && (isEmptied || !isFolder)) (mayRemove operand))
  then return 0
  else
    let edit (fs : FileSystem) (start : Place) : Except Errno FileSystem :=
      if isFolder && has os 'd' then fs.removeDirectory start (pathOf operand)
      else if isFolder then .error .isDirectory
      else fs.unlink start (pathOf operand)
    match ← change edit with
    | none =>
      tell os (if isFolder then "removed directory " else "removed ") operand
      return 0
    | some e =>
      if manner == some 'f' && (e == .noEntry || e == .notDirectory) then return 0
      else
        reportOn "cannot remove" operand e
        return 1

def rm : Tool := fun words =>
  let accepted : Accepted :=
    { plain := "frRvdiI"
      long := [("force", 'f'), ("recursive", 'r'), ("verbose", 'v'), ("dir", 'd'),
        ("interactive", 'i')] }
  withOptions accepted 1 words fun os operands => do
    let manner := lastOf os "fiI"
    let recursive := has os 'r' || has os 'R'
    if operands.isEmpty then
      if manner == some 'f' then return 0 else misused 1 (Octets.ofString "missing operand")
    else
      let count := operands.length
      let question := Octets.ofString "remove " ++ Octets.ofNat count ++
        Octets.ofString ((if count = 1 then " argument" else " arguments") ++
          if recursive then " recursively" else "")
      asking (do
        if !(← agreedIf (manner == some 'I' && (recursive || 3 < count)) (agreed question)) then
          return 0
        eachOperand operands fun operand => do
          if recursive then
            let name := baseName operand
            if name = ['.'] || name = ['.', '.'] then
              report (Octets.ofString "refusing to remove '.' or '..' directory: skipping " ++
                quoted operand)
              return 1
            else return (← removeTree os (← depth) operand).1
          else removeOne os operand)

/-! ## Dates -/

/-- The days from the beginning of 1970 to a day of the calendar. -/
def daysTo (year month day : Int) : Int :=
  -- the year begins in March, so that the day that is sometimes missing is its last
  let y := if month ≤ 2 then year - 1 else year
  let era := y.fdiv 400
  let ofEra := y - era * 400
  let ofYear := (153 * (if 2 < month then month - 3 else month + 9) + 2).fdiv 5 + day - 1
  era * 146097 + ofEra * 365 + ofEra.fdiv 4 - ofEra.fdiv 100 + ofYear - 719468

/-- The seconds from the beginning of 1970 to a moment, if there is such a moment. -/
def moment? : List Int → Option Int
  | [year, month, day, hour, minute, second] =>
    let isLeap : Bool := year % 4 = 0 && (year % 100 ≠ 0 || year % 400 = 0)
    let lengths : List Int :=
      [31, if isLeap then 29 else 28, 31, 30, 31, 30, 31, 31, 30, 31, 30, 31]
    match if month < 1 then none else lengths[(month - 1).toNat]? with
    | none => none
    | some length =>
      if 1 ≤ day && day ≤ length && hour ≤ 23 && minute ≤ 59 && second ≤ 60 then
        some (((daysTo year month day * 24 + hour) * 60 + minute) * 60 + second)
      else none
  | _ => none

/-- Numbers written between separators. -/
def numbersBetween? (separator : Char) (cs : Octets) : Option (List Int) :=
  (Octets.splitAt separator cs).mapM fun part =>
    if part.isEmpty || !part.all Char.isDigit then none else some (Octets.readNat part : Int)

/-- The moment that a date is: a day, perhaps with a time of day, or a number of seconds.  The
present moment is no number. -/
def dateOf? (cs : Octets) : Option (Option Int) :=
  let trimmed := cs.dropWhile (· = ' ')
  match trimmed with
  | '@' :: rest => (Arithmetic.signed? rest).map some
  | _ =>
    if trimmed = "now".toList || trimmed.isEmpty then some none
    else
      let day := trimmed.takeWhile fun c => c.isDigit || c = '-'
      let time := (trimmed.drop day.length).filter fun c => c ≠ ' ' && c ≠ 'T' && c ≠ 'Z'
      match numbersBetween? '-' day,
        if time.isEmpty then some [0, 0] else numbersBetween? ':' time with
      | some [y, m, d], some [hour, minute] => (moment? [y, m, d, hour, minute, 0]).map some
      | some [y, m, d], some [hour, minute, second] =>
        (moment? [y, m, d, hour, minute, second]).map some
      | _, _ => none

/-- The moment that digits stand for: two for each of month, day, hour and minute, the year
before them, and seconds behind a point.  Without a year it counts as present. -/
def stampOf? (cs : Octets) : Option (Option Int) := do
  let (digits, seconds) := Octets.cutAt '.' cs
  let two (cs : Octets) : Option Int :=
    if cs.length = 2 && cs.all Char.isDigit then some (Octets.readNat cs) else none
  let second ← if let some s := seconds then two s else some 0
  let rec pairs : Octets → Option (List Int)
    | [] => some []
    | a :: b :: rest => do return (← two [a, b]) :: (← pairs rest)
    | _ => none
  match ← pairs digits with
  | [century, year, month, day, hour, minute] =>
    (moment? [century * 100 + year, month, day, hour, minute, second]).map some
  | [year, month, day, hour, minute] =>
    let year := if year < 69 then 2000 + year else 1900 + year
    (moment? [year, month, day, hour, minute, second]).map some
  | [month, day, hour, minute] =>
    (moment? [2000, month, day, hour, minute, second]).map fun _ => none
  | _ => none

def touch : Tool := fun words =>
  let accepted : Accepted :=
    { plain := "acmh", valued := "drt"
      long := [("no-create", 'c'), ("date", 'd'), ("reference", 'r'), ("no-dereference", 'h')] }
  withOptions accepted 1 words fun os operands => do
    let date : Except (Action Unit) (Option Int) ←
      match valueOf os 'r', valueOf os 'd', valueOf os 't' with
      | some path, _, _ =>
        match ← ask fun fs start => fs.dateAt start (pathOf path) with
        | .ok date => pure (.ok date)
        | .error e => pure (.error (reportOn "failed to get attributes of" path e))
      | none, some text, _ =>
        match dateOf? text with
        | some date => pure (.ok date)
        | none => pure (.error (report (Octets.ofString "invalid date format " ++ cited text)))
      | none, none, some text =>
        match stampOf? text with
        | some date => pure (.ok date)
        | none => pure (.error (report (Octets.ofString "invalid date format " ++ cited text)))
      | none, none, none => pure (.ok none)
    match date with
    | .error complaint =>
      complaint
      return 1
    | .ok date =>
      if operands.isEmpty then misused 1 (Octets.ofString "missing file operand")
      else
        eachOperand operands fun operand => do
          let found ← ask fun fs start => fs.locate start (pathOf operand)
          let made ←
            match found with
            | .ok _ => pure none
            | .error e =>
              if has os 'c' then pure (some e)
              else
                let mode ← permissions 0o666
                change fun fs start => fs.touch start mode (pathOf operand)
          match made, found with
          | none, _ =>
            let _ ← change fun fs start => fs.setDate start date (pathOf operand)
            return 0
          | some .noEntry, _ =>
            if has os 'c' then return 0
            else
              reportOn "cannot touch" operand .noEntry
              return 1
          | some .isDirectory, .error e =>
            reportOn "setting times of" operand e
            return 1
          | some e, _ =>
            reportOn (if has os 'c' then "setting times of" else "cannot touch") operand e
            return 1

end Tool
end LineShell.Script
