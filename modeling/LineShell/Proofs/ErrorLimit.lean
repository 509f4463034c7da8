import LineShell.Proofs.Correspondence

/-! # Sessions whose error stream runs full

What is lost on a full error stream should make no other difference, and with one exception
it makes none: a `cd` that has to warn before it moves stays where it is if the warning is
refused (`Session.Deterred`).  A session shows the same as one whose error stream takes
everything exactly if none of its commands is such a `cd`.
-/
namespace LineShell

/-- What is seen of a session after a command by one who does not read its error stream. -/
structure Shown (ω : Type) where
  flow : Flow
  context : Context
  files : FileSystem
  out : ω
  deriving DecidableEq

/-- Only a home directory that is not known keeps a `~` from being written out. -/
theorem eq_homeNotSet_of_expandTilde {path : String} {home : Option Path} {d : Diagnostic}
    (h : expandTilde path home = .error d) : d = .homeNotSet := by
  unfold expandTilde at h
  split at h
  case h_3 => cases h
  all_goals
    cases home with
    | none => exact (Except.error.inj h).symm
    | some _ => cases h

namespace Builtin

/-- Only `cd` to one target that begins with an unknown home directory has to warn. -/
theorem exists_target_of_warning {b : Builtin} {arguments : List String} {ctx : Context}
    {warning : Diagnostic} (h : b.warning? arguments ctx = some warning) :
    ∃ target, b = .cd ∧ arguments = [target] ∧ warning = .homeNotSet ∧
      expandTilde target ctx.home = .error .homeNotSet := by
  unfold warning? at h
  split at h
  case h_2 => cases h
  case h_1 target =>
    cases hexpanded : expandTilde target ctx.home with
    | ok expanded => simp [hexpanded] at h
    | error d =>
      obtain rfl := eq_homeNotSet_of_expandTilde hexpanded
      have hwarning : Diagnostic.homeNotSet = warning := by simpa [hexpanded] using h
      exact ⟨target, rfl, rfl, hwarning.symm, hexpanded⟩

/-- A `cd` says nothing on standard output and does not end the interpreter. -/
theorem enter_performance (target : String) (ctx : Context) (fs : FileSystem)
    (warned : List Bytes) :
    ∃ err, (enter target ctx fs).performance fs warned =
      { context := (enter target ctx fs).context, files := fs, err } := by
  simp only [enter]
  split
  · split
    · exact ⟨warned, rfl⟩
    · exact ⟨_, rfl⟩
  · exact ⟨_, rfl⟩

/-- What a `cd` comes to that has to warn first. -/
theorem perform_warned {target : String} {ctx : Context}
    (h : expandTilde target ctx.home = .error .homeNotSet) (refusal : Bytes → Option Fault)
    (fs : FileSystem) :
    ∃ err, cd.perform refusal [target] ctx fs =
      { context :=
          if refusal Diagnostic.homeNotSet.line = none then (enter target ctx fs).context else ctx
        files := fs
        err } := by
  have hwarning : cd.warning? [target] ctx = some .homeNotSet := by simp only [warning?, h]
  simp only [perform, hwarning, Option.bind_some, outcome, run, changeDirectory, h]
  cases refusal Diagnostic.homeNotSet.line with
  | none => exact enter_performance target ctx fs _
  | some fault => exact ⟨_, rfl⟩

end Builtin

/-- A sink without a limit gets none by being written to. -/
theorem Sink.room_write {w : Sink} (h : w.room = none) (bytes : Bytes) :
    (w.write bytes).2.room = none := by
  simp only [write, h]

variable {ω : Type} [Writer ω]

namespace Session

/-- What a session shows line by line.  It is given all the lines, also those after an
exit. -/
def history (launcher : Launcher) : Session ω Sink → List String → List (Shown ω)
  | _, [] => []
  | s, line :: rest =>
    let (flow, after) := s.executeLine launcher line
    ⟨flow, after.context, after.files, after.out⟩ :: history launcher after rest

/-- The session that is reached by some lines. -/
def reached (launcher : Launcher) (s : Session ω Sink) (lines : List String) : Session ω Sink :=
  lines.foldl (fun s line => (s.executeLine launcher line).2) s

/-- The same session with an error stream that takes everything. -/
def unlimited (s : Session ω Sink) : Session ω Sink := { s with err := { s.err with room := none } }

/-- The command is a `cd` to a target that begins with `~`, without a home directory; its
warning would go to the session's own error stream, which has no room for it; and the target
as typed is a directory other than the working directory. -/
def Deterred (s : Session ω Sink) (c : Command) : Prop :=
  ∃ target opened files,
    c.verb = Builtin.cd.name ∧ c.arguments = [target] ∧
    expandTilde target s.context.home = .error .homeNotSet ∧
    s.context.openTarget s.files c.redirect = .ok (opened, files) ∧
    (∀ handle, opened ≠ some ⟨.stderr, handle⟩) ∧
    (s.err.write Diagnostic.homeNotSet.line).1 ≠ none ∧
    (Builtin.enter target s.context files).context ≠ s.context

/-- The other session differs in nothing but its error stream, which takes everything, and its
journal. -/
abbrev UpToErrors (s t : Session ω Sink) : Prop :=
  s.Corresponds (fun w w' => w = w') (fun _ err => err.room = none) t

/-- An error stream that takes everything goes on to do so, whatever becomes of the other. -/
theorem keeps_unlimited : Writer.Keeps fun _ err : Sink => err.room = none where
  related h bytes _ := Sink.room_write h bytes
  files _ _ _ := rfl

/-- Complaints on the session's own error stream change nothing else. -/
theorem foldl_complain_own (chunks : List Bytes) (s : Session ω Sink) {opened : Option Opened}
    (hown : ∀ handle, opened ≠ some ⟨.stderr, handle⟩) :
    ∃ err : Sink, (s.err.room = none → err.room = none) ∧
      chunks.foldl Running.complain ⟨s, opened⟩ = ⟨{ s with err }, opened⟩ := by
  induction chunks generalizing s with
  | nil => exact ⟨s.err, id, rfl⟩
  | cons bytes rest ih =>
    have hfirst : Running.complain ⟨s, opened⟩ bytes =
        ⟨{ s with err := (s.err.write bytes).2 }, opened⟩ := by
      rw [Running.complain, Running.write_own _ _ _ hown]
      rfl
    obtain ⟨err, hroom, hrest⟩ := ih { s with err := (s.err.write bytes).2 }
    refine ⟨err, fun h => hroom (Sink.room_write h bytes), ?_⟩
    rw [List.foldl_cons, hfirst, hrest]

/-- What a `cd` comes to that has to warn on the session's own error stream. -/
theorem respond_of_warned (s : Session ω Sink) (launcher : Launcher) {c : Command}
    {target : String} {opened : Option Opened} {files : FileSystem}
    (hverb : c.verb = Builtin.cd.name) (harguments : c.arguments = [target])
    (hhome : expandTilde target s.context.home = .error .homeNotSet)
    (hopen : s.context.openTarget s.files c.redirect = .ok (opened, files))
    (hown : ∀ handle, opened ≠ some ⟨.stderr, handle⟩) :
    ∃ err : Sink, (s.err.room = none → err.room = none) ∧
      s.respond launcher c = (.proceed,
        { s with
          context := if (s.err.write Diagnostic.homeNotSet.line).1 = none then
            (Builtin.enter target s.context files).context else s.context
          files, err }) := by
  have htask : s.context.task? s.files c.verb = some (.builtin .cd) := by
    rw [hverb, Context.task?, Builtin.ofName?_name]
  have hprepared : s.context.prepare s.files c = .ok ⟨.builtin .cd, opened, files⟩ :=
    Context.prepare_eq_ok_iff.mpr ⟨htask, hopen⟩
  have hrefusal : s.refusal ⟨.builtin .cd, opened, files⟩ Diagnostic.homeNotSet.line =
      (s.err.write Diagnostic.homeNotSet.line).1 := by
    rw [refusal, Running.write_own _ _ _ hown]
    rfl
  obtain ⟨chunks, hperformance⟩ := Builtin.perform_warned hhome
    (s.refusal ⟨.builtin .cd, opened, files⟩) files
  obtain ⟨err, hroom, hcomplained⟩ := foldl_complain_own chunks
    { s with
      context := if (s.err.write Diagnostic.homeNotSet.line).1 = none then
        (Builtin.enter target s.context files).context else s.context
      files } hown
  refine ⟨err, hroom, ?_⟩
  simp only [respond, Context.isBlank_of_task htask, hprepared, performance, Task.perform,
    harguments, hperformance, hrefusal, deliver, Running.deliver, Option.elim_none, hcomplained]
  rfl

/-- Where a command is not the same performance for a session and for one with a larger error
stream, it is a `cd` that has to warn there. -/
theorem exists_target_of_performance_ne {s t : Session ω Sink} (h : s.UpToErrors t)
    (launcher : Launcher) {c : Command} {p : Prepared}
    (hprepared : s.context.prepare s.files c = .ok p)
    (hne : s.performance launcher c p ≠ t.performance launcher c p) :
    ∃ target, c.verb = Builtin.cd.name ∧ c.arguments = [target] ∧
      expandTilde target s.context.home = .error .homeNotSet ∧
      ∀ handle, p.opened ≠ some ⟨.stderr, handle⟩ := by
  obtain ⟨task, opened, files⟩ := p
  obtain ⟨htask, -⟩ := Context.prepare_eq_ok_iff.mp hprepared
  simp only [performance, h.context] at hne
  cases task with
  | program path => exact absurd rfl hne
  | builtin b =>
    simp only [Task.perform, Builtin.perform] at hne
    cases hwarning : b.warning? c.arguments t.context with
    | none => simp [hwarning] at hne
    | some warning =>
      obtain ⟨target, rfl, harguments, -, hhome⟩ := Builtin.exists_target_of_warning hwarning
      refine ⟨target, Context.verb_of_task_builtin htask, harguments, h.context ▸ hhome, ?_⟩
      -- a warning that goes to a file is taken or refused alike
      rintro handle rfl
      have hopened : Running.Corresponds (fun w w' => w = w') (fun _ err => err.room = none)
          ⟨{ s with files }, some ⟨.stderr, handle⟩⟩ ⟨{ t with files }, some ⟨.stderr, handle⟩⟩ :=
        ⟨⟨h.context, rfl, h.out, h.err⟩, rfl⟩
      have hrefusal : s.refusal ⟨.builtin .cd, some ⟨.stderr, handle⟩, files⟩ warning.line =
          t.refusal ⟨.builtin .cd, some ⟨.stderr, handle⟩, files⟩ warning.line :=
        (hopened.write_stderr keeps_unlimited warning.line).1 (.inr ⟨handle, rfl⟩)
      simp [hwarning, hrefusal] at hne

/-! ## One command, one line, many lines -/

/-- A command that is not deterred. -/
theorem respond_of_not_deterred {s t : Session ω Sink} (h : s.UpToErrors t) (launcher : Launcher)
    {c : Command} (hc : ¬s.Deterred c) :
    (s.respond launcher c).1 = (t.respond launcher c).1 ∧
      (s.respond launcher c).2.UpToErrors (t.respond launcher c).2 := by
  by_cases hsame : ∀ p, s.context.prepare s.files c = .ok p →
      s.performance launcher c p = t.performance launcher c p
  · exact h.respond Writer.keeps_eq Writer.refuseAlike_eq keeps_unlimited launcher c hsame
  · -- the warning is refused by one of the two, and the target is where the session is already
    obtain ⟨p, hsame⟩ := Classical.not_forall.mp hsame
    obtain ⟨hprepared, hne⟩ := Classical.not_imp.mp hsame
    obtain ⟨target, hverb, harguments, hhome, hown⟩ :=
      exists_target_of_performance_ne h launcher hprepared hne
    obtain ⟨-, hopen⟩ := Context.prepare_eq_ok_iff.mp hprepared
    obtain ⟨err, -, hs⟩ := s.respond_of_warned launcher hverb harguments hhome hopen hown
    obtain ⟨err', hroom, ht⟩ := t.respond_of_warned launcher hverb harguments
      (by rw [← h.context, hhome]) (by rw [← h.context, ← h.files, hopen]) hown
    have hstays : (if (s.err.write Diagnostic.homeNotSet.line).1 = none then
        (Builtin.enter target s.context p.files).context else s.context) =
        (Builtin.enter target s.context p.files).context := by
      split
      · rfl
      · next hrefused =>
        refine Classical.byContradiction fun hmoves => hc ?_
        exact ⟨target, p.opened, p.files, hverb, harguments, hhome, hopen, hown, hrefused,
          Ne.symm hmoves⟩
    have htaken : (t.err.write Diagnostic.homeNotSet.line).1 = none :=
      (t.err.write_eq_none_iff _).mpr fun n hn => by rw [h.err] at hn; cases hn
    rw [hs, ht, hstays, if_pos htaken, h.context]
    exact ⟨rfl, rfl, rfl, h.out, hroom h.err⟩

/-- A command that is deterred. -/
theorem respond_of_deterred {s t : Session ω Sink} (h : s.UpToErrors t) (launcher : Launcher)
    {c : Command} (hc : s.Deterred c) :
    (s.respond launcher c).2.context ≠ (t.respond launcher c).2.context := by
  obtain ⟨target, opened, files, hverb, harguments, hhome, hopen, hown, hrefused, hmoves⟩ := hc
  obtain ⟨err, -, hs⟩ := s.respond_of_warned launcher hverb harguments hhome hopen hown
  obtain ⟨err', -, ht⟩ := t.respond_of_warned launcher hverb harguments
    (by rw [← h.context, hhome]) (by rw [← h.context, ← h.files, hopen]) hown
  have htaken : (t.err.write Diagnostic.homeNotSet.line).1 = none :=
    (t.err.write_eq_none_iff _).mpr fun n hn => by rw [h.err] at hn; cases hn
  rw [hs, ht, if_neg hrefused, if_pos htaken, ← h.context]
  exact hmoves.symm

/-- A line that is not deterred. -/
theorem executeLine_of_not_deterred {s t : Session ω Sink} (h : s.UpToErrors t)
    (launcher : Launcher) {line : String} (hline : ¬s.Deterred (Command.ofLine line)) :
    (s.executeLine launcher line).1 = (t.executeLine launcher line).1 ∧
      (s.executeLine launcher line).2.UpToErrors (t.executeLine launcher line).2 := by
  obtain ⟨hs, hsagree⟩ := s.executeLine_respond launcher line
  obtain ⟨ht, htagree⟩ := t.executeLine_respond launcher line
  obtain ⟨hflow, hafter⟩ := respond_of_not_deterred h launcher hline
  exact ⟨hs.trans (hflow.trans ht.symm), hafter.of_agree hsagree htagree⟩

/-- A line that is deterred. -/
theorem executeLine_of_deterred {s t : Session ω Sink} (h : s.UpToErrors t)
    (launcher : Launcher) {line : String} (hline : s.Deterred (Command.ofLine line)) :
    (s.executeLine launcher line).2.context ≠ (t.executeLine launcher line).2.context := by
  obtain ⟨-, hsagree⟩ := s.executeLine_respond launcher line
  obtain ⟨-, htagree⟩ := t.executeLine_respond launcher line
  rw [hsagree.context, htagree.context]
  exact respond_of_deterred h launcher hline

/-- What is said of every line holds of the first and then of the others. -/
theorem forall_reached_cons (launcher : Launcher) (s : Session ω Sink) (first : String)
    (rest : List String) (P : Session ω Sink → String → Prop) :
    (∀ before line after, first :: rest = before ++ line :: after →
        P (s.reached launcher before) line) ↔
      P s first ∧ ∀ before line after, rest = before ++ line :: after →
        P ((s.executeLine launcher first).2.reached launcher before) line := by
  constructor
  · intro h
    exact ⟨h [] first rest rfl, fun before line after hrest =>
      h (first :: before) line after (by rw [hrest, List.cons_append])⟩
  · rintro ⟨hfirst, hrest⟩ before line after heq
    rcases List.cons_eq_append_iff.mp heq with ⟨rfl, hline⟩ | ⟨before', rfl, hrest'⟩
    · obtain ⟨rfl, -⟩ := List.cons.inj hline
      exact hfirst
    · exact hrest before' line after hrest'

/-- Sessions that differ in nothing but their error streams show the same as long as no line is
deterred. -/
theorem history_eq_iff {s t : Session ω Sink} (h : s.UpToErrors t) (launcher : Launcher)
    (lines : List String) :
    s.history launcher lines = t.history launcher lines ↔
      ∀ before line after, lines = before ++ line :: after →
        ¬(s.reached launcher before).Deterred (Command.ofLine line) := by
  induction lines generalizing s t with
  | nil => simp [history]
  | cons first rest ih =>
    rw [forall_reached_cons launcher s first rest fun s line => ¬s.Deterred (Command.ofLine line)]
    simp only [history, List.cons.injEq, Shown.mk.injEq]
    by_cases hfirst : s.Deterred (Command.ofLine first)
    · have hmoved := executeLine_of_deterred h launcher hfirst
      simp only [hmoved, hfirst, false_and, and_false, not_true]
    · obtain ⟨hflow, hafter⟩ := executeLine_of_not_deterred h launcher hfirst
      rw [ih hafter]
      simp only [hflow, hafter.context, hafter.files, hafter.out, hfirst, true_and,
        not_false_eq_true]

/-- **What a limit on the error stream changes.**  Line by line a session shows the flow, the
context, the files and the output of the session with an unlimited error stream, exactly if
none of its lines is a `cd` that a refused warning keeps where it is. -/
theorem history_unlimited_iff (launcher : Launcher) (s : Session ω Sink) (lines : List String) :
    s.history launcher lines = s.unlimited.history launcher lines ↔
      ∀ before line after, lines = before ++ line :: after →
        ¬(s.reached launcher before).Deterred (Command.ofLine line) := by
  have hunlimited : s.UpToErrors s.unlimited := ⟨rfl, rfl, rfl, rfl⟩
  exact history_eq_iff hunlimited launcher lines

/-- Without room for the warning, `cd ~` does not enter the directory `~`, as it does with an
unlimited error stream. -/
theorem history_unlimited_tilde :
    let files := FileSystem.empty.put [Text.utf8 "~"] (.directory FileSystem.directoryMode)
    let s : Session Sink Sink := ⟨⟨Path.ofString "/", none, []⟩, files, {}, { room := some 0 }, []⟩
    let launcher : Launcher := fun _ _ => .error (.system .noEntry)
    (s.executeLine launcher "cd ~").2.context.cwd = Path.ofString "/" ∧
      (s.unlimited.executeLine launcher "cd ~").2.context.cwd = Path.ofString "/~" ∧
      s.history launcher ["cd ~"] ≠ s.unlimited.history launcher ["cd ~"] := by
  decide +kernel

end Session
end LineShell
