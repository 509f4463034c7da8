import LineShell.Script.Syntax

/-! # Patterns

`*` stands for any characters, `?` for one, and brackets for one of a set; a quoted
character stands for itself.  The same patterns choose the branches of `case`, cut the
ends of values and name files.
-/
namespace LineShell.Script

/-- A character of a value, and whether it was quoted. -/
structure Glyph where
  char : Char
  quoted : Bool
  deriving DecidableEq, Repr

/-- An element of a pattern. -/
inductive Element where
  | one (c : Char)
  | any
  | many
  | among (negated : Bool) (ranges : List (Char × Char))
  deriving DecidableEq, Repr

namespace Pattern

/-- The characters of the named classes, as ranges. -/
def namedClass : Octets → List (Char × Char)
  | cs =>
    match String.ofList cs with
    | "alpha" => [('a', 'z'), ('A', 'Z')]
    | "digit" => [('0', '9')]
    | "alnum" => [('a', 'z'), ('A', 'Z'), ('0', '9')]
    | "upper" => [('A', 'Z')]
    | "lower" => [('a', 'z')]
    | "space" => [('\t', '\r'), (' ', ' ')]
    | "blank" => [('\t', '\t'), (' ', ' ')]
    | "punct" => [('!', '/'), (':', '@'), ('[', '\x60'), ('\x7b', '~')]
    | "print" => [(' ', '~')]
    | "graph" => [('!', '~')]
    | "cntrl" => [('\x00', '\x1f'), ('\x7f', '\x7f')]
    | "xdigit" => [('0', '9'), ('a', 'f'), ('A', 'F')]
    | _ => []

/-- Reads the ranges of a set up to the closing bracket.  A bracket that comes first is
an ordinary member. -/
def ranges (first : Bool) (fuel : Nat) (gs : List Glyph) :
    Option (List (Char × Char) × List Glyph) :=
  match fuel, gs with
  | 0, _ => none
  | _, [] => none
  | fuel + 1, ⟨c, q⟩ :: rest =>
    if c = ']' ∧ !q ∧ !first then some ([], rest)
    else
      match c, q, rest with
      | '[', false, ⟨':', false⟩ :: more =>
        let name := more.takeWhile fun g => g.char != ':'
        match more.drop name.length with
        | _ :: ⟨']', _⟩ :: more =>
          (ranges false fuel more).map fun (rs, after) =>
            (namedClass (name.map Glyph.char) ++ rs, after)
        | _ => (ranges false fuel rest).map fun (rs, after) => ((c, c) :: rs, after)
      | _, _, ⟨'-', false⟩ :: ⟨d, dq⟩ :: more =>
        if d = ']' ∧ !dq then
          (ranges false fuel rest).map fun (rs, after) => ((c, c) :: rs, after)
        else (ranges false fuel more).map fun (rs, after) => ((c, d) :: rs, after)
      | _, _, _ => (ranges false fuel rest).map fun (rs, after) => ((c, c) :: rs, after)

/-- The elements of a pattern; a bracket that is never closed stands for itself. -/
def elements : Nat → List Glyph → List Element
  | 0, _ => []
  | _, [] => []
  | fuel + 1, ⟨c, true⟩ :: rest => .one c :: elements fuel rest
  | fuel + 1, ⟨c, false⟩ :: rest =>
    match c, rest with
    | '*', _ => .many :: elements fuel rest
    | '?', _ => .any :: elements fuel rest
    | '\\', g :: rest => .one g.char :: elements fuel rest
    | '[', _ =>
      let (negated, body) :=
        match rest with
        | ⟨'!', false⟩ :: more => (true, more)
        | _ => (false, rest)
      match ranges true (body.length + 1) body with
      | some (rs, after) => .among negated rs :: elements fuel after
      | none => .one c :: elements fuel rest
    | _, _ => .one c :: elements fuel rest

/-- The pattern that glyphs spell. -/
def ofGlyphs (gs : List Glyph) : List Element := elements gs.length gs

/-- Whether an element stands for a character. -/
def admits (e : Element) (c : Char) : Bool :=
  match e with
  | .one d => c == d
  | .any => true
  | .many => false
  | .among negated rs => rs.any (fun (low, high) => low ≤ c && c ≤ high) != negated

/-- Whether a pattern describes all of a text. -/
def describes : List Element → Octets → Bool
  | [], cs => cs.isEmpty
  | .many :: es, [] => describes es []
  | .many :: es, c :: cs => describes es (c :: cs) || describes (.many :: es) cs
  | e :: es, c :: cs => admits e c && describes es cs
  | _ :: _, [] => false
termination_by es cs => es.length + cs.length

/-- Whether anything in a pattern stands for more than itself. -/
def isPlain (es : List Element) : Bool :=
  es.all fun
    | .one _ => true
    | _ => false

/-- A text without the part at one end that a pattern describes; nothing is cut if there
is none.  A zero byte ends the part that is compared, and the search that starts at the
front. -/
def trim (side : Side) (longest : Bool) (es : List Element) (cs : Octets) : Octets :=
  let untilZero (part : Octets) : Octets := part.takeWhile (· ≠ '\x00')
  let places :=
    if (side = .front) = longest then (List.range (cs.length + 1)).reverse
    else List.range ((untilZero cs).length + 1)
  let part (n : Nat) : Octets :=
    match side with
    | .front => cs.take n
    | .back => cs.drop n
  match places.find? fun n => describes es (untilZero (part n)), side with
  | some n, .front => cs.drop n
  | some n, .back => cs.take n
  | none, _ => cs

end Pattern
end LineShell.Script
