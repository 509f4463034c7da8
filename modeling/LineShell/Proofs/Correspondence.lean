import LineShell.Proofs.Response

/-! # Sessions that correspond

A command learns nothing of a stream but whether it takes what is written.  So a relation
between streams that no write breaks (`Writer.Keeps`) lifts to sessions that write to such
streams, in one place and over one tree (`Session.Corresponds`), and what a command comes to
keeps it: sessions that correspond go through the same lines with the same flow.
-/
namespace LineShell

section Streams
variable {ω ω' : Type} [Writer ω] [Writer ω']

/-- A relation between streams that no write breaks, and that leaves both with one tree. -/
structure Writer.Keeps (R : ω → ω' → Prop) : Prop where
  related {w : ω} {w' : ω'} (h : R w w') (bytes : Bytes) (files : FileSystem) :
    R (settle (write w bytes).2 files).1 (settle (write w' bytes).2 files).1
  files {w : ω} {w' : ω'} (h : R w w') (bytes : Bytes) (files : FileSystem) :
    (settle (write w bytes).2 files).2 = (settle (write w' bytes).2 files).2

/-- Related streams refuse the same writes, for the same reasons. -/
def Writer.RefuseAlike (R : ω → ω' → Prop) : Prop :=
  ∀ {w w'}, R w w' → ∀ bytes, (write w bytes).1 = (write w' bytes).1

theorem Writer.keeps_eq : Writer.Keeps fun w w' : ω => w = w' where
  related h bytes files := by rw [h]
  files h bytes files := by rw [h]

/-- One stream, in a state that no write ends, be it passed on to a file or not. -/
theorem Writer.keeps_eq_of {P : ω → Prop} (hwrite : ∀ w, P w → ∀ bytes, P (write w bytes).2)
    (hsettle : ∀ w, P w → ∀ files, P (settle w files).1) :
    Writer.Keeps fun w w' : ω => w = w' ∧ P w where
  related := by
    rintro w _ ⟨rfl, h⟩ bytes files
    exact ⟨rfl, hsettle _ (hwrite w h bytes) files⟩
  files := by
    rintro w _ ⟨rfl, -⟩ bytes files
    rfl

theorem Writer.refuseAlike_eq_of {P : ω → Prop} :
    Writer.RefuseAlike fun w w' : ω => w = w' ∧ P w := by
  rintro w _ ⟨rfl, -⟩ bytes
  rfl

theorem Writer.refuseAlike_eq : Writer.RefuseAlike fun w w' : ω => w = w' := by
  rintro w _ rfl bytes
  rfl

end Streams

section Relations
variable {ω ω' ε ε' : Type}

/-- Sessions in one place and over one tree whose streams are related. -/
structure Session.Corresponds (Ro : ω → ω' → Prop) (Re : ε → ε' → Prop) (s : Session ω ε)
    (t : Session ω' ε') : Prop where
  context : s.context = t.context
  files : s.files = t.files
  out : Ro s.out t.out
  err : Re s.err t.err

/-- The same of sessions while one command runs. -/
structure Running.Corresponds (Ro : ω → ω' → Prop) (Re : ε → ε' → Prop) (r : Running ω ε)
    (t : Running ω' ε') : Prop where
  session : r.session.Corresponds Ro Re t.session
  opened : r.opened = t.opened

variable {Ro : ω → ω' → Prop} {Re : ε → ε' → Prop}

/-- Journals play no part. -/
theorem Session.Corresponds.of_agree {s u : Session ω ε} {t v : Session ω' ε'}
    (hs : s.Agree u) (ht : t.Agree v) (h : u.Corresponds Ro Re v) : s.Corresponds Ro Re t := by
  obtain ⟨journal, rfl⟩ := hs.exists_journal
  obtain ⟨journal', rfl⟩ := ht.exists_journal
  exact ⟨h.context, h.files, h.out, h.err⟩

theorem Session.Agree.corresponds {s t : Session ω ε} (h : s.Agree t) :
    s.Corresponds (fun w w' => w = w') (fun w w' => w = w') t :=
  ⟨h.context, h.files, h.out, h.err⟩

theorem Session.Corresponds.agree {s t : Session ω ε}
    (h : s.Corresponds (fun w w' => w = w') (fun w w' => w = w') t) : s.Agree t :=
  ⟨h.context, h.files, h.out, h.err⟩

end Relations

variable {ω ω' ε ε' : Type} [Writer ω] [Writer ω'] [Writer ε] [Writer ε']
variable {Ro : ω → ω' → Prop} {Re : ε → ε' → Prop}

/-! ## Writes -/

namespace Session.Corresponds

omit [Writer ε] [Writer ε'] in
theorem writeOut (hRo : Writer.Keeps Ro) {s : Session ω ε} {t : Session ω' ε'}
    (h : s.Corresponds Ro Re t) (bytes : Bytes) :
    (s.writeOut bytes).2.Corresponds Ro Re (t.writeOut bytes).2 := by
  obtain ⟨context, files, out, err, journal⟩ := s
  obtain ⟨context', files', out', err', journal'⟩ := t
  obtain rfl : files = files' := h.files
  exact ⟨h.context, hRo.files h.out bytes files, hRo.related h.out bytes files, h.err⟩

omit [Writer ω] [Writer ω'] in
theorem writeErr (hRe : Writer.Keeps Re) {s : Session ω ε} {t : Session ω' ε'}
    (h : s.Corresponds Ro Re t) (bytes : Bytes) :
    (s.writeErr bytes).2.Corresponds Ro Re (t.writeErr bytes).2 := by
  obtain ⟨context, files, out, err, journal⟩ := s
  obtain ⟨context', files', out', err', journal'⟩ := t
  obtain rfl : files = files' := h.files
  exact ⟨h.context, hRe.files h.err bytes files, h.out, hRe.related h.err bytes files⟩

end Session.Corresponds

namespace Running.Corresponds

/-- A write to standard output is refused by both or by none. -/
theorem write_stdout (hRo : Writer.Keeps Ro) (hfault : Writer.RefuseAlike Ro)
    {r : Running ω ε} {t : Running ω' ε'} (h : r.Corresponds Ro Re t) (bytes : Bytes) :
    (r.write .stdout bytes).1 = (t.write .stdout bytes).1 ∧
      (r.write .stdout bytes).2.Corresponds Ro Re (t.write .stdout bytes).2 := by
  obtain ⟨s, opened⟩ := r
  obtain ⟨t, opened'⟩ := t
  obtain rfl : opened = opened' := h.opened
  have hst : s.Corresponds Ro Re t := h.session
  by_cases hfile : ∃ handle, opened = some ⟨.stdout, handle⟩
  · obtain ⟨handle, rfl⟩ := hfile
    rw [write_to_file, write_to_file, hst.files]
    exact ⟨rfl, ⟨hst.context, rfl, hst.out, hst.err⟩, rfl⟩
  · have hown : ∀ handle, opened ≠ some ⟨.stdout, handle⟩ := not_exists.mp hfile
    rw [write_own _ _ _ hown, write_own _ _ _ hown]
    exact ⟨hfault hst.out bytes, hst.writeOut hRo bytes, rfl⟩

/-- A write to standard error.  Whether it is refused counts for the two separately, unless
related streams refuse alike or a file stands in for them. -/
theorem write_stderr (hRe : Writer.Keeps Re) {r : Running ω ε} {t : Running ω' ε'}
    (h : r.Corresponds Ro Re t) (bytes : Bytes) :
    ((Writer.RefuseAlike Re ∨ ∃ handle, r.opened = some ⟨.stderr, handle⟩) →
        (r.write .stderr bytes).1 = (t.write .stderr bytes).1) ∧
      (r.write .stderr bytes).2.Corresponds Ro Re (t.write .stderr bytes).2 := by
  obtain ⟨s, opened⟩ := r
  obtain ⟨t, opened'⟩ := t
  obtain rfl : opened = opened' := h.opened
  have hst : s.Corresponds Ro Re t := h.session
  by_cases hfile : ∃ handle, opened = some ⟨.stderr, handle⟩
  · obtain ⟨handle, rfl⟩ := hfile
    rw [write_to_file, write_to_file, hst.files]
    exact ⟨fun _ => rfl, ⟨hst.context, rfl, hst.out, hst.err⟩, rfl⟩
  · have hown : ∀ handle, opened ≠ some ⟨.stderr, handle⟩ := not_exists.mp hfile
    rw [write_own _ _ _ hown, write_own _ _ _ hown]
    refine ⟨?_, hst.writeErr hRe bytes, rfl⟩
    rintro (hfault | hfile')
    · exact hfault hst.err bytes
    · exact absurd hfile' hfile

theorem say (hRo : Writer.Keeps Ro) (hfault : Writer.RefuseAlike Ro) (hRe : Writer.Keeps Re)
    {r : Running ω ε} {t : Running ω' ε'} (h : r.Corresponds Ro Re t) (bytes : Bytes) :
    (r.say bytes).Corresponds Ro Re (t.say bytes) := by
  obtain ⟨heq, hafter⟩ := h.write_stdout hRo hfault bytes
  simp only [Running.say]
  rcases hr : r.write .stdout bytes with ⟨fault, r'⟩
  rcases ht : t.write .stdout bytes with ⟨fault', t'⟩
  rw [hr, ht] at heq hafter
  obtain rfl : fault = fault' := heq
  cases fault with
  | none => exact hafter
  | some fault => exact ⟨hafter.session.writeErr hRe _, hafter.opened⟩

theorem complain (hRe : Writer.Keeps Re) {r : Running ω ε} {t : Running ω' ε'}
    (h : r.Corresponds Ro Re t) (bytes : Bytes) :
    (r.complain bytes).Corresponds Ro Re (t.complain bytes) :=
  (h.write_stderr hRe bytes).2

theorem deliver (hRo : Writer.Keeps Ro) (hfault : Writer.RefuseAlike Ro) (hRe : Writer.Keeps Re)
    {r : Running ω ε} {t : Running ω' ε'} (h : r.Corresponds Ro Re t) (p : Performance) :
    (r.deliver p).Corresponds Ro Re (t.deliver p) := by
  have hsaid : (p.out.elim r r.say).Corresponds Ro Re (p.out.elim t t.say) := by
    cases p.out with
    | none => exact h
    | some bytes => exact h.say hRo hfault hRe bytes
  exact List.foldl_rel hsaid fun bytes _ _ _ hr => hr.complain hRe bytes

end Running.Corresponds

/-! ## Commands and lines -/

namespace Session.Corresponds
variable {s : Session ω ε} {t : Session ω' ε'}

/-- What a command comes to, if it is the same performance for both. -/
theorem respond (hRo : Writer.Keeps Ro) (hfault : Writer.RefuseAlike Ro) (hRe : Writer.Keeps Re)
    (h : s.Corresponds Ro Re t) (launcher : Launcher) (c : Command)
    (hsame : ∀ p, s.context.prepare s.files c = .ok p →
      s.performance launcher c p = t.performance launcher c p) :
    (s.respond launcher c).1 = (t.respond launcher c).1 ∧
      (s.respond launcher c).2.Corresponds Ro Re (t.respond launcher c).2 := by
  by_cases hblank : c.isBlank = true
  · simp only [Session.respond, hblank, if_true]
    exact ⟨trivial, h⟩
  rw [Bool.not_eq_true] at hblank
  simp only [Session.respond, hblank, ← h.context, ← h.files]
  cases hprepared : s.context.prepare s.files c with
  | error d => exact ⟨rfl, h.writeErr hRe d.line⟩
  | ok p =>
    simp only [← hsame p hprepared]
    have hstarted : Running.Corresponds Ro Re
        ⟨{ s with context := (s.performance launcher c p).context,
                  files := (s.performance launcher c p).files }, p.opened⟩
        ⟨{ t with context := (s.performance launcher c p).context,
                  files := (s.performance launcher c p).files }, p.opened⟩ :=
      ⟨⟨rfl, rfl, h.out, h.err⟩, rfl⟩
    exact ⟨rfl, (hstarted.deliver hRo hfault hRe _).session⟩

/-- Streams that refuse alike make for the same performance. -/
theorem performance (hfault : Writer.RefuseAlike Re) (hRe : Writer.Keeps Re)
    (h : s.Corresponds Ro Re t) (launcher : Launcher) (c : Command) (p : Prepared) :
    s.performance launcher c p = t.performance launcher c p := by
  have hopened : Running.Corresponds Ro Re ⟨{ s with files := p.files }, p.opened⟩
      ⟨{ t with files := p.files }, p.opened⟩ := ⟨⟨h.context, rfl, h.out, h.err⟩, rfl⟩
  have hrefusal : s.refusal p = t.refusal p := by
    funext bytes
    exact (hopened.write_stderr hRe bytes).1 (.inl hfault)
  rw [Session.performance, Session.performance, hrefusal, h.context]

end Session.Corresponds

/-- **What a line comes to** is what its command comes to. -/
theorem Session.executeLine_respond (s : Session ω ε) (launcher : Launcher) (line : String) :
    (s.executeLine launcher line).1 = (s.respond launcher (Command.ofLine line)).1 ∧
      (s.executeLine launcher line).2.Agree (s.respond launcher (Command.ofLine line)).2 := by
  have hnoted : Session.Agree
      (if (Scanned.ofLine line).pathMissing then s.note .pathMissing else s) s := by
    split
    · exact s.note_agree _
    · exact .refl s
  obtain ⟨hflow, hagree⟩ := dispatch_respond
    (if (Scanned.ofLine line).pathMissing then s.note .pathMissing else s) launcher
    (Command.ofLine line)
  have hst := hnoted.corresponds
  obtain ⟨hflow', hafter⟩ := hst.respond Writer.keeps_eq Writer.refuseAlike_eq Writer.keeps_eq
    launcher (Command.ofLine line)
    fun p _ => hst.performance Writer.refuseAlike_eq Writer.keeps_eq launcher _ p
  exact ⟨hflow.trans hflow', hagree.trans hafter.agree⟩

/-- Sessions that correspond take a line alike, if its command is the same performance for
both. -/
theorem Session.Corresponds.executeLine (hRo : Writer.Keeps Ro) (hfault : Writer.RefuseAlike Ro)
    (hRe : Writer.Keeps Re) {s : Session ω ε} {t : Session ω' ε'} (h : s.Corresponds Ro Re t)
    (launcher : Launcher) (line : String)
    (hsame : ∀ p, s.context.prepare s.files (Command.ofLine line) = .ok p →
      s.performance launcher (Command.ofLine line) p =
        t.performance launcher (Command.ofLine line) p) :
    (s.executeLine launcher line).1 = (t.executeLine launcher line).1 ∧
      (s.executeLine launcher line).2.Corresponds Ro Re (t.executeLine launcher line).2 := by
  obtain ⟨hs, hsagree⟩ := s.executeLine_respond launcher line
  obtain ⟨ht, htagree⟩ := t.executeLine_respond launcher line
  obtain ⟨hflow, hafter⟩ := h.respond hRo hfault hRe launcher (Command.ofLine line) hsame
  exact ⟨hs.trans (hflow.trans ht.symm), hafter.of_agree hsagree htagree⟩

end LineShell
