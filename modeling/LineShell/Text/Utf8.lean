/-! # Bytes and characters

Files, paths and streams hold bytes; command lines hold characters.  `encode` writes
characters as UTF-8.  `pieces` reads bytes back with a machine that takes one byte at
a time: its output is a list of characters and of broken runs, where a broken run is
a longest beginning of a well-formed sequence that the next byte does not continue.
`decodeLossy` shows each broken run as one U+FFFD, and `decode?` refuses them.
-/
namespace LineShell

/-- A sequence of bytes: the contents of a file, of a stream or of a path. -/
abbrev Bytes := List UInt8

namespace Text

/-- The UTF-8 form of a text. -/
def encode (cs : List Char) : Bytes := cs.flatMap String.utf8EncodeChar

/-- The UTF-8 form of a string. -/
def utf8 (s : String) : Bytes := encode s.toList

@[simp] theorem encode_cons (c : Char) (cs : List Char) :
    encode (c :: cs) = String.utf8EncodeChar c ++ encode cs := rfl

/-- What reading bytes yields: a character, or the bytes of a run that is none. -/
inductive Piece where
  | char (c : Char)
  | broken (bytes : Bytes)
  deriving DecidableEq, Repr

/-- A sequence that has begun: the bytes taken, the value of their payload, and the
ranges in which the bytes still missing must lie. -/
structure Begun where
  taken : Bytes
  value : Nat
  missing : List (UInt8 × UInt8)
  deriving DecidableEq, Repr

/-- The range of a byte that continues a sequence. -/
def continuation : UInt8 × UInt8 := (0x80, 0xBF)

/-- The ranges of the bytes that follow a leading byte of a longer sequence.  The
first is narrower where a wider one would admit an overlong form, a surrogate or a
value beyond U+10FFFF; no range is given for a byte that begins no such sequence. -/
def following (b : UInt8) : Option (List (UInt8 × UInt8)) :=
  if b < 0xC2 then none
  else if b < 0xE0 then some [continuation]
  else if b = 0xE0 then some [(0xA0, 0xBF), continuation]
  else if b = 0xED then some [(0x80, 0x9F), continuation]
  else if b < 0xF0 then some [continuation, continuation]
  else if b = 0xF0 then some [(0x90, 0xBF), continuation, continuation]
  else if b < 0xF4 then some [continuation, continuation, continuation]
  else if b = 0xF4 then some [(0x80, 0x8F), continuation, continuation]
  else none

/-- The payload of a leading byte that has `n` followers. -/
def leadValue (b : UInt8) (n : Nat) : Nat := b.toNat % Nat.pow 2 (6 - n)

/-- A byte read outside any sequence. -/
def begin (b : UInt8) : List Piece × Option Begun :=
  if b < 0x80 then ([.char (Char.ofNat b.toNat)], none)
  else match following b with
    | some ranges => ([], some ⟨[b], leadValue b ranges.length, ranges⟩)
    | none => ([.broken [b]], none)

/-- A byte read in the state `s`: the pieces that it completes, and the next state.
A byte that does not continue the sequence begun breaks it off and begins anew. -/
def step (s : Option Begun) (b : UInt8) : List Piece × Option Begun :=
  match s with
  | none => begin b
  | some ⟨taken, value, missing⟩ =>
    match missing with
    | [] => begin b
    | (low, high) :: more =>
      if low ≤ b ∧ b ≤ high then
        let value := value * 64 + b.toNat % 64
        if more.isEmpty then ([.char (Char.ofNat value)], none)
        else ([], some ⟨taken ++ [b], value, more⟩)
      else
        -- the byte is not lost with the run that it breaks off
        let (ps, s) := begin b
        (.broken taken :: ps, s)

/-- The pieces of what follows the state `s`. -/
def piecesFrom : Option Begun → Bytes → List Piece
  | none, [] => []
  | some begun, [] => [.broken begun.taken]
  | s, b :: bs => (step s b).1 ++ piecesFrom (step s b).2 bs

/-- A byte sequence as characters and broken runs. -/
def pieces (bs : Bytes) : List Piece := piecesFrom none bs

/-- The character that stands for a broken run. -/
def replacement : Char := '\uFFFD'

/-- The character shown for a piece. -/
def Piece.shown : Piece → Char
  | .char c => c
  | .broken _ => replacement

/-- The text of a byte sequence, each broken run shown as U+FFFD. -/
def decodeLossy (bs : Bytes) : List Char := (pieces bs).map Piece.shown

/-- The text of a byte sequence that is well-formed UTF-8. -/
def decode? (bs : Bytes) : Option (List Char) :=
  (pieces bs).mapM fun
    | .char c => some c
    | .broken _ => none

/-- The lossy text of a byte sequence, as a string. -/
def lossyString (bs : Bytes) : String := String.ofList (decodeLossy bs)

@[simp] theorem decodeLossy_nil : decodeLossy [] = [] := rfl

end Text
end LineShell
