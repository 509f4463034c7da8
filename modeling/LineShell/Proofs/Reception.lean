import LineShell.Writer

/-! # What streams receive

A `Writer` says nothing of what becomes of the bytes it takes.  A `Receiver` is one of which
it is known what it has received, and which in some states takes everything: it refuses no
write, now or later, and what is written is received in full and in order.  Sinks without a
limit are in such a state, and so are the line-buffered streams over them, even while they
hold a part back.
-/
namespace LineShell

/-- A stream of which it is known what it has received. -/
class Receiver (ω : Type) extends Writer ω where
  /-- All that has been taken, also what is held back. -/
  received : ω → Bytes
  /-- Everything that is written from now on is taken, and none of it goes to a file. -/
  Unlimited : ω → Prop
  /-- No flush is refused from now on, as long as everything is taken. -/
  Flushable : ω → Prop
  write_unlimited {w : ω} (h : Unlimited w) (bytes : Bytes) :
    (write w bytes).1 = none ∧ Unlimited (write w bytes).2 ∧
      received (write w bytes).2 = received w ++ bytes
  flushable_write {w : ω} (h : Unlimited w) (hflush : Flushable w) (bytes : Bytes) :
    Flushable (write w bytes).2
  flush_unlimited {w : ω} (h : Unlimited w) (hflush : Flushable w) :
    (flush w).1 = none ∧ Unlimited (flush w).2 ∧ Flushable (flush w).2 ∧
      received (flush w).2 = received w
  settle_unlimited {w : ω} (h : Unlimited w) (files : FileSystem) : settle w files = (w, files)

namespace Sink

/-- A sink without a limit takes everything. -/
theorem write_of_room {s : Sink} (h : s.room = none) (bytes : Bytes) :
    s.write bytes = (none, { s with taken := s.taken ++ bytes }) := by
  simp only [write, h]

instance : Receiver Sink where
  received s := s.taken
  Unlimited s := s.room = none
  Flushable s := s.flushRefusal = none
  write_unlimited := by
    intro s h bytes
    change (s.write bytes).1 = none ∧ (s.write bytes).2.room = none ∧
      (s.write bytes).2.taken = s.taken ++ bytes
    rw [write_of_room h]
    exact ⟨rfl, h, rfl⟩
  flushable_write := by
    intro s h hflush bytes
    change (s.write bytes).2.flushRefusal = none
    rw [write_of_room h]
    exact hflush
  flush_unlimited := by
    intro s h hflush
    exact ⟨hflush, h, hflush, rfl⟩
  settle_unlimited _ _ := rfl

end Sink

namespace LineBuffered

/-- All that has been taken, the sink's part first. -/
def all (w : LineBuffered) : Bytes := w.sink.taken ++ w.held

/-- Flushing hands the rest to the sink. -/
theorem flush_of_room {w : LineBuffered} (h : w.sink.room = none) :
    w.flush = (none, ⟨{ w.sink with taken := w.all }, []⟩) := by
  obtain ⟨sink, held⟩ := w
  unfold flush
  split
  · next hheld =>
    obtain rfl : held = [] := hheld
    simp only [all, List.append_nil]
  · rw [Sink.write_of_room h]
    rfl

/-- Holding back loses nothing. -/
theorem hold_of_room {w : LineBuffered} (h : w.sink.room = none) (bytes : Bytes) :
    ∃ after : LineBuffered, w.hold bytes = (none, after) ∧ after.sink.room = none ∧
      after.all = w.all ++ bytes := by
  unfold hold
  split
  · exact ⟨_, rfl, h, (List.append_assoc ..).symm⟩
  · split
    · next hrefused =>
      split at hrefused
      · cases hrefused
      · rw [flush_of_room h] at hrefused
        cases hrefused
    · next after hmade =>
      split at hmade
      · next hfull =>
        -- bytes that fill the room exactly go past it only if nothing is held
        obtain rfl : w = after := (Prod.mk.inj hmade).2
        split
        · exact ⟨_, rfl, h, (List.append_assoc ..).symm⟩
        · have hheld : w.held = [] := List.length_eq_zero_iff.mp (by omega)
          rw [Sink.write_of_room h]
          refine ⟨_, rfl, h, ?_⟩
          simp only [all, hheld, List.append_nil]
      · rw [flush_of_room h] at hmade
        obtain rfl := (Prod.mk.inj hmade).2
        split
        · exact ⟨_, rfl, h, rfl⟩
        · rw [Sink.write_of_room (s := { w.sink with taken := w.all }) h]
          refine ⟨_, rfl, h, ?_⟩
          simp only [all, List.append_nil]

/-- Nothing is lost on the way to a sink without a limit. -/
theorem write_of_room {w : LineBuffered} (h : w.sink.room = none) (bytes : Bytes) :
    ∃ after : LineBuffered, w.write bytes = (none, after) ∧ after.sink.room = none ∧
      after.all = w.all ++ bytes := by
  have hsplit := splitLastLine_append bytes
  unfold write
  split
  · next tail hlines =>
    rw [hlines, List.nil_append] at hsplit
    obtain rfl : tail = bytes := hsplit
    split
    · next hrefused =>
      split at hrefused
      · rw [flush_of_room h] at hrefused
        cases hrefused
      · cases hrefused
    · next middle hmade =>
      split at hmade
      · rw [flush_of_room h] at hmade
        obtain rfl := (Prod.mk.inj hmade).2
        obtain ⟨after, heq, hroom, hall⟩ :=
          hold_of_room (w := ⟨{ w.sink with taken := w.all }, []⟩) h tail
        refine ⟨after, heq, hroom, hall.trans ?_⟩
        simp only [all, List.append_nil]
      · obtain rfl : w = middle := (Prod.mk.inj hmade).2
        exact hold_of_room h tail
  · next lines tail _ hlines =>
    rw [hlines] at hsplit
    by_cases hheld : w.held = []
    · simp only [hheld, if_true, Sink.write_of_room h]
      obtain ⟨after, heq, hroom, hall⟩ := hold_of_room
        (w := { w with sink := { w.sink with taken := w.sink.taken ++ lines } }) h tail
      refine ⟨after, ?_, hroom, ?_⟩
      · rw [← heq, hheld]
      · rw [hall, ← hsplit]
        simp only [all, hheld, List.append_nil, List.append_assoc]
    · obtain ⟨middle, hmiddle, hroom, hall⟩ := hold_of_room h lines
      simp only [hheld, if_false, hmiddle, flush_of_room hroom]
      obtain ⟨after, heq, hroom', hall'⟩ :=
        hold_of_room (w := ⟨{ middle.sink with taken := middle.all }, []⟩) hroom tail
      refine ⟨after, heq, hroom', ?_⟩
      rw [hall', ← hsplit, ← List.append_assoc, ← hall]
      simp only [all, List.append_nil]

instance : Receiver LineBuffered where
  received := all
  Unlimited w := w.sink.room = none
  Flushable _ := True
  write_unlimited := by
    intro w h bytes
    obtain ⟨after, heq, hroom, hall⟩ := write_of_room h bytes
    change (w.write bytes).1 = none ∧ (w.write bytes).2.sink.room = none ∧ (w.write bytes).2.all = _
    rw [heq]
    exact ⟨rfl, hroom, hall⟩
  flushable_write _ _ _ := trivial
  flush_unlimited := by
    intro w h _
    change w.flush.1 = none ∧ w.flush.2.sink.room = none ∧ True ∧ w.flush.2.all = w.all
    rw [flush_of_room h]
    exact ⟨rfl, h, trivial, List.append_nil _⟩
  settle_unlimited _ _ := rfl

end LineBuffered

/-- A stored stream without a file is its line-buffered stream. -/
instance : Receiver Stored where
  received w := Receiver.received w.stream
  Unlimited w := w.handle = none ∧ Receiver.Unlimited w.stream
  Flushable _ := True
  write_unlimited := by
    intro w h bytes
    obtain ⟨hfault, hafter, hreceived⟩ := Receiver.write_unlimited h.2 bytes
    exact ⟨hfault, ⟨h.1, hafter⟩, hreceived⟩
  flushable_write _ _ _ := trivial
  flush_unlimited := by
    intro w h _
    obtain ⟨hfault, hafter, -, hreceived⟩ := Receiver.flush_unlimited h.2 trivial
    exact ⟨hfault, ⟨h.1, hafter⟩, trivial, hreceived⟩
  settle_unlimited := by
    intro w h files
    change w.settle files = _
    rw [Stored.settle, h.1]

end LineShell
