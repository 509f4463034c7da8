import LineShell.Script.Tool.SortKey

/-! # Lines in order

`sort` puts the lines of its operands in order.  The keys decide one after the other; lines whose
keys are equal are told apart by all their octets, unless only the first of them is wanted.
-/
namespace LineShell.Script
namespace Tool
open LineShell.Script.Action

/-- What decides about the order of lines. -/
structure LineOrder where
  keys : List SortKey := []
  separator : Option Char := none
  /-- Whether lines with equal keys are equal. -/
  byKeysOnly : Bool := false
  reverse : Bool := false

namespace LineOrder

/-- The order of the keys of two lines. -/
def compareKeys (o : LineOrder) (a b : Octets) : Ordering :=
  o.keys.foldl (fun ordering k =>
    ordering.then (k.order.compareTexts (k.part o.separator a) (k.part o.separator b))) .eq

/-- The order of two lines. -/
def compareLines (o : LineOrder) (a b : Octets) : Ordering :=
  let whole := if o.reverse then compare b a else compare a b
  if o.keys.isEmpty then whole
  else if o.byKeysOnly then o.compareKeys a b
  else (o.compareKeys a b).then whole

end LineOrder

/-- Of neighbours that count as equal, only the first is kept. -/
def firstOfEach (order : Octets → Octets → Ordering) : List Octets → List Octets
  | [] => []
  | [line] => [line]
  | a :: b :: rest =>
    if order a b = .eq then firstOfEach order (a :: rest)
    else a :: firstOfEach order (b :: rest)
  termination_by l => l.length

/-- The first line that is not in order with the one before it, and its number. -/
def disorder? (order : Octets → Octets → Ordering) (strictly : Bool) :
    Nat → List Octets → Option (Nat × Octets)
  | n, a :: b :: rest =>
    let o := order a b
    if o = .gt || (strictly && o = .eq) then some (n, b)
    else disorder? order strictly (n + 1) (b :: rest)
  | _, _ => none

/-- Merges lists of lines: each time, the least of the first lines is next. -/
def merged (order : Octets → Octets → Ordering) (lists : List (List Octets)) : List Octets :=
  lists.foldl (fun before list => before.merge list fun a b => order a b != .gt) []

/-- The parts of a text between delimiters; the last one may lack its own. -/
def delimited (delimiter : Char) (cs : Octets) : List Octets :=
  let parts := Octets.splitAt delimiter cs
  if parts.getLast? = some [] then parts.dropLast else parts

/-- The separator that the values of an option choose, all alike, or what is wrong with them. -/
def separatorOf (values : List Octets) : Except Octets (Option Char) :=
  values.foldlM (fun before value =>
    let chosen : Except Octets Char :=
      match value with
      | [] => .error (Octets.ofString "empty tab")
      | [c] => .ok c
      | ['\\', '0'] => .ok '\x00'
      | _ => .error (Octets.ofString "multi-character tab " ++ cited value)
    chosen.bind fun c =>
      if before.all (· = c) then .ok (some c) else .error (Octets.ofString "incompatible tabs")) none

/-- The order that options ask for, or what is wrong with them. -/
def lineOrderOf (os : List (Char × Octets)) : Except Octets LineOrder := do
  let separator ← separatorOf ((os.filter (·.1 == 't')).map Prod.snd)
  let forAll : KeyOrder := os.foldl (fun o (c, _) => (o.withLetter? true true c).getD o) {}
  let given := (os.filter (·.1 == 'k')).filterMap fun (_, text) => (SortKey.ofText text).toOption
  let keys := given.map (·.inheriting forAll)
  -- a key that only turns the order round is none
  let keys : List SortKey :=
    if given.isEmpty && { forAll with reverse := false } ≠ {} then [{ order := forAll }] else keys
  for k in keys do
    if let some letters := k.order.contradiction? then
      throw (Octets.ofString "options '-" ++ letters ++ Octets.ofString "' are incompatible")
  return { keys, separator, byKeysOnly := has os 'u' || has os 's', reverse := forAll.reverse }

def sort : Tool := fun words =>
  let accepted : Accepted :=
    { plain := "rnufbscCdhiMmz", valued := "okt"
      long := [("reverse", 'r'), ("numeric-sort", 'n'), ("unique", 'u'), ("ignore-case", 'f'),
        ("ignore-leading-blanks", 'b'), ("stable", 's'), ("check", 'c'), ("output", 'o'),
        ("key", 'k'), ("field-separator", 't'), ("dictionary-order", 'd'),
        ("human-numeric-sort", 'h'), ("ignore-nonprinting", 'i'), ("month-sort", 'M'),
        ("merge", 'm'), ("zero-terminated", 'z')]
      refuses := fun c value =>
        match c, SortKey.ofText value, separatorOf [value] with
        | 'k', .error message, _ | 't', _, .error message => some { message, helps := false }
        | _, _, _ => none }
  withOptions accepted 2 words fun os operands => do
    let refuse (fault : Octets) : Action Nat := do
      report fault
      return 2
    let checks := has os 'c' || has os 'C'
    match lineOrderOf os with
    | .error fault => refuse fault
    | .ok order =>
      if has os 'c' && has os 'C' then
        return ← refuse (Octets.ofString "options '-cC' are incompatible")
      if checks && has os 'o' then
        return ← refuse (Octets.ofString (if has os 'c' then "options '-co' are incompatible"
          else "options '-Co' are incompatible"))
      if let some extra := if checks then operands[1]? else none then
        return ← refuse (Octets.ofString "extra operand " ++ quoted extra ++
          Octets.ofString (if has os 'c' then " not allowed with -c" else " not allowed with -C"))
      let delimiter := if has os 'z' then '\x00' else '\n'
      let mut all : List (List Octets) := []
      for operand in orInput operands do
        match ← reading operand do return .ok (← readAll 0) with
        | .error e =>
          return ← refuse (Octets.ofString (if checks then "open failed: " else "cannot read: ") ++
            shown operand ++ [':', ' '] ++ explain e)
        | .ok (.error e) =>
          return ← refuse (Octets.ofString "read failed: " ++ shown operand ++ [':', ' '] ++ explain e)
        | .ok (.ok cs) => all := all ++ [delimited delimiter cs]
      let compared := order.compareLines
      if checks then
        match disorder? compared (has os 'u') 2 all.flatten with
        | none => return 0
        | some (n, line) =>
          if has os 'c' then
            report ((operands.head?.getD ['-']) ++ [':'] ++ Octets.ofNat n ++
              Octets.ofString ": disorder: " ++ line)
          return 1
      let sorted :=
        if has os 'm' then merged compared all
        else all.flatten.mergeSort fun a b => compared a b != .gt
      let kept := if has os 'u' then firstOfEach compared sorted else sorted
      let text := kept.flatMap (· ++ [delimiter])
      match valueOf os 'o' with
      | none =>
        let written ← put text
        if let some e := (← process).refused then
          report (Octets.ofString "fflush failed: " ++ quoted "standard output".toList ++
            [':', ' '] ++ explain e)
        return written
      | some path =>
        match ← openPath .output path with
        | .error e =>
          refuse (Octets.ofString "open failed: " ++ shown path ++ [':', ' '] ++ explain e)
        | .ok channel =>
          connect 1 (← addChannel channel)
          put text

end Tool
end LineShell.Script
