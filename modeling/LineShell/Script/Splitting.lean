import LineShell.Script.Pattern

/-! # Fields

An expanded word is a row of characters in which regions are marked whose characters may
separate fields.  Blanks among the separators end a field and are passed over at its
beginning; any other separator ends a field that may be empty.  Where only zero bytes
separate, as between arguments in quotes, every field is there, empty or not.
-/
namespace LineShell.Script

/-- A piece of an expanded word. -/
inductive Bit where
  | glyph (g : Glyph)
  /-- There are quotes here: the field is there, though it may be empty. -/
  | present
  /-- From here on separators count; with `zeros`, only zero bytes do. -/
  | opening (zeros : Bool)
  /-- Separators no longer count. -/
  | closing
  deriving DecidableEq, Repr

/-- The fields that have been found, and the state of the search. -/
structure Splitting where
  /-- The characters that separate. -/
  separators : Octets
  /-- How many fields may still end, if there is a limit; the last one takes the rest. -/
  left : Option Nat := none
  /-- The fields that have ended, the last first. -/
  fields : List (List Glyph) := []
  /-- The characters of the field at hand, the last first, and whether it has quotes. -/
  field : List Glyph := []
  quotes : Bool := false
  /-- The last field as it was before separators that may turn out to be at its end. -/
  kept : Option (List Glyph) := none
  /-- Whether the field before was ended by a blank. -/
  blank : Bool := false
  /-- Whether separators count, and whether only zero bytes do: in the region at hand or the
  last one, and in the one before it. -/
  counts : Bool := false
  zeros : Bool := false
  afterZeros : Bool := false
  deriving DecidableEq, Repr

namespace Splitting

/-- Blanks, of which several separate like one; a zero byte counts as one. -/
def isBlank (c : Char) : Bool := c = ' ' || c = '\t' || c = '\n' || c = '\x00'

/-- Takes a character into the field at hand. -/
def keep (s : Splitting) (g : Glyph) : Splitting := { s with field := g :: s.field }

/-- Whether the field at hand has not begun. -/
def isFresh (s : Splitting) : Bool := s.field.isEmpty && !s.quotes

/-- Ends the field at hand. -/
def close (s : Splitting) : Splitting :=
  { s with fields := s.field.reverse :: s.fields, field := [], quotes := false }

/-- Takes a character of the last field, which will lose the separators at its end. -/
def takeLast (s : Splitting) (g : Glyph) (separates : Bool) : Splitting :=
  if separates && isBlank g.char then { s.keep g with kept := some (s.kept.getD s.field) }
  else { s.keep g with kept := if separates && s.blank then s.kept else none, blank := false }

/-- Takes a separator that ends a field, or is passed over at its beginning. -/
def takeSeparator (s : Splitting) (g : Glyph) : Splitting :=
  let s := { s with blank := !(s.zeros || s.afterZeros) && isBlank g.char }
  if s.isFresh && s.blank then { s with blank := false }
  else
    match s.left with
    | some 1 => { s.keep g with left := some 0, kept := some s.field }
    | left => { s.close with left := left.map (· - 1) }

/-- Takes a character of a region. -/
def takeCounted (s : Splitting) (g : Glyph) : Splitting :=
  let separates := g.char = '\x00' || (!s.zeros && s.separators.contains g.char)
  if s.left = some 0 then s.takeLast g separates
  else if s.blank && separates then
    -- the field has ended already; one other separator belongs to the blanks
    if isBlank g.char then s else { s with blank := false }
  else if separates then s.takeSeparator g
  else { s.keep g with blank := false }

/-- Takes a piece. -/
def take (s : Splitting) : Bit → Splitting
  | .present => { s with quotes := true }
  | .opening zeros => { s with counts := true, zeros, afterZeros := s.zeros, blank := false }
  | .closing => { s with counts := false }
  | .glyph g => if s.counts then s.takeCounted g else s.keep g

/-- The fields, when there are no more pieces. -/
def finish (s : Splitting) : List (List Glyph) :=
  let field := s.kept.getD s.field
  let all := if s.zeros || s.quotes || !field.isEmpty then field.reverse :: s.fields else s.fields
  all.reverse

end Splitting

/-- Splits pieces into fields. -/
def split (separators : Octets) (bs : List Bit) : List (List Glyph) :=
  (bs.foldl Splitting.take { separators }).finish

/-- Splits pieces into no more than so many fields. -/
def splitAtMost (limit : Nat) (separators : Octets) (bs : List Bit) : List (List Glyph) :=
  (bs.foldl Splitting.take { separators, left := some limit }).finish

end LineShell.Script
