import LineShell.FileSystem.Access

/-! # Writers

The interpreter writes to two streams of which it knows only that they take bytes, may
refuse them, and may refuse to be flushed.  `Sink` is a stream that keeps what it takes
and has room for a given number of bytes.  `LineBuffered` holds back what stands after
the last newline, as a terminal program does with its standard output.  `Stored` is such
a stream whose bytes go to an open file, if there is one.
-/
namespace LineShell

/-- A stream that takes bytes.  A write that is refused may have taken a part. -/
class Writer (ω : Type) where
  /-- Writes all of the bytes, or says why not. -/
  write : ω → Bytes → Option Fault × ω
  /-- Passes on what is held back. -/
  flush : ω → Option Fault × ω
  /-- The number of bytes taken so far. -/
  accepted : ω → Nat
  /-- Brings a file tree up to date with what has been taken; a stream that goes to no file
  leaves the tree alone. -/
  settle : ω → FileSystem → ω × FileSystem := fun w files => (w, files)

/-- A stream that keeps the bytes it takes.  `room` is the number of bytes that it will
still take, if there is a limit. -/
structure Sink where
  taken : Bytes := []
  room : Option Nat := none
  /-- What a write is refused with that does not fit. -/
  refusal : Fault := .described .other "sink full"
  /-- What every flush is refused with, if it is. -/
  flushRefusal : Option Fault := none
  deriving DecidableEq, Repr

namespace Sink

/-- A write takes what fits, and is refused if anything is left over. -/
def write (s : Sink) (bytes : Bytes) : Option Fault × Sink :=
  match s.room with
  | none => (none, { s with taken := s.taken ++ bytes })
  | some n =>
    (if bytes.length ≤ n then none else some s.refusal,
      { s with taken := s.taken ++ bytes.take n, room := some (n - bytes.length) })

/-- What has been taken only grows, by a beginning of what is written. -/
theorem taken_write (s : Sink) (bytes : Bytes) :
    (s.write bytes).2.taken = s.taken ++ bytes.take (s.room.getD bytes.length) := by
  unfold write
  cases h : s.room <;> simp

/-- A write is refused exactly if it does not fit. -/
theorem write_eq_none_iff (s : Sink) (bytes : Bytes) :
    (s.write bytes).1 = none ↔ ∀ n, s.room = some n → bytes.length ≤ n := by
  unfold write
  cases h : s.room <;> simp

/-- Writing nothing changes nothing. -/
@[simp] theorem write_nil (s : Sink) : s.write [] = (none, s) := by
  obtain ⟨taken, room, refusal, flushRefusal⟩ := s
  cases room <;> simp [write]

instance : Writer Sink where
  write := write
  flush s := (s.flushRefusal, s)
  accepted s := s.taken.length

end Sink

/-- A stream over a sink that holds back an incomplete line. -/
structure LineBuffered where
  sink : Sink
  held : Bytes := []
  deriving DecidableEq, Repr

namespace LineBuffered

/-- The number of bytes that can be held back. -/
def capacity : Nat := 1024

/-- Passes on what is held back; it is held on if the sink refuses. -/
def flush (w : LineBuffered) : Option Fault × LineBuffered :=
  if w.held = [] then (none, w)
  else
    match w.sink.write w.held with
    | (none, sink) => (none, ⟨sink, []⟩)
    | (some fault, sink) => (some fault, ⟨sink, w.held.drop (sink.taken.length - w.sink.taken.length)⟩)

/-- Holds bytes back, or passes them on at once if there are too many. -/
def hold (w : LineBuffered) (bytes : Bytes) : Option Fault × LineBuffered :=
  if w.held.length + bytes.length < capacity then (none, { w with held := w.held ++ bytes })
  else
    -- bytes that fill the room exactly are still held
    match if w.held.length + bytes.length = capacity then (none, w) else w.flush with
    | (some fault, w) => (some fault, w)
    | (none, w) =>
      if bytes.length < capacity then (none, { w with held := w.held ++ bytes })
      else
        let (fault, sink) := w.sink.write bytes
        (fault, { w with sink })

/-- The bytes up to the last newline, and those after it. -/
def splitLastLine (bytes : Bytes) : Bytes × Bytes :=
  let tail := (bytes.reverse.takeWhile (· ≠ 10)).reverse
  (bytes.take (bytes.length - tail.length), tail)

/-- The two parts are the whole. -/
theorem splitLastLine_append (bytes : Bytes) :
    (splitLastLine bytes).1 ++ (splitLastLine bytes).2 = bytes := by
  have h := List.takeWhile_append_dropWhile (p := (· ≠ 10)) (l := bytes.reverse)
  have h : bytes = (bytes.reverse.dropWhile (· ≠ 10)).reverse ++
      (bytes.reverse.takeWhile (· ≠ 10)).reverse := by
    rw [← List.reverse_append, h, List.reverse_reverse]
  generalize hd : (bytes.reverse.dropWhile (· ≠ 10)).reverse = before at h
  generalize ht : (bytes.reverse.takeWhile (· ≠ 10)).reverse = tail at h
  simp only [splitLastLine]
  rw [ht, h]
  simp

/-- Complete lines are passed on, behind what was held back; the rest is held. -/
def write (w : LineBuffered) (bytes : Bytes) : Option Fault × LineBuffered :=
  match splitLastLine bytes with
  | ([], tail) =>
    -- a complete line that the sink refused earlier goes first
    match if w.held.getLast? = some 10 then w.flush else (none, w) with
    | (some fault, w) => (some fault, w)
    | (none, w) => w.hold tail
  | (lines, tail) =>
    let written :=
      if w.held = [] then
        let (fault, sink) := w.sink.write lines
        (fault, { w with sink })
      else
        match w.hold lines with
        | (some fault, w) => (some fault, w)
        | (none, w) => w.flush
    match written with
    | (some fault, w) => (some fault, w)
    | (none, w) => w.hold tail

instance : Writer LineBuffered where
  write := write
  flush := flush
  accepted w := w.sink.taken.length + w.held.length

end LineBuffered

/-- A stream whose bytes go to an open file, if there is one.  The file belongs to a tree
that others change too, so what has been taken is put there step by step. -/
structure Stored where
  stream : LineBuffered := { sink := {} }
  handle : Option Handle := none
  /-- The number of bytes that have arrived in the file. -/
  arrived : Nat := 0
  deriving DecidableEq, Repr

namespace Stored

/-- Puts into the file what has been taken since the last time. -/
def settle (w : Stored) (files : FileSystem) : Stored × FileSystem :=
  match w.handle with
  | none => (w, files)
  | some handle =>
    let taken := w.stream.sink.taken
    let (_, handle, files) := files.write handle (taken.drop w.arrived)
    ({ w with handle := some handle, arrived := taken.length }, files)

instance : Writer Stored where
  write w bytes :=
    let (fault, stream) := w.stream.write bytes
    (fault, { w with stream })
  flush w :=
    let (fault, stream) := w.stream.flush
    (fault, { w with stream })
  accepted w := Writer.accepted w.stream
  settle := settle

end Stored
end LineShell
