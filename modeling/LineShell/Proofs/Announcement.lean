import LineShell.Proofs.Opening
import LineShell.Proofs.PathText
import LineShell.Proofs.Reports

/-! # What `type` says and what becomes of the command

`type` and the dispatch of a command look a name up by themselves, and at different moments: a
command looks before the file of its redirection is opened, and `type` when its own is already
open.  What `type` says is right all the same, of the session before and of the session after:
opening and writing only make a tree grow, and no search finds anything else in it then.
-/
namespace LineShell

/-! ## Three wordings -/

/-- What is said of a name that stands for a task, or for nothing. -/
def announcement (name : String) : Option Task → String
  | some (.builtin _) => name ++ " is a shell builtin"
  | some (.program p) => name ++ " is " ++ p.display
  | none => name ++ ": not found"

section
variable {name : String} {task : Option Task}

/-- No absolute path reads as the words that are said of a builtin. -/
theorem announcement_program_ne {p : Path} (h : p.isAbsolute = true) :
    announcement name (some (.program p)) ≠ name ++ " is a shell builtin" := by
  intro heq
  have hwords : name ++ (" is " ++ p.display) = name ++ (" is " ++ "a shell builtin") := by
    rw [← String.append_assoc]
    exact heq
  rw [String.append_right_inj, String.append_right_inj] at hwords
  have hslash := Path.head?_display h
  rw [hwords] at hslash
  exact absurd hslash (by decide +kernel)

/-- What stands for nothing is spoken of in words of its own. -/
theorem announcement_missing_ne (rest : String) :
    name ++ ": not found" ≠ name ++ (" is " ++ rest) := by
  rw [ne_eq, String.append_right_inj]
  intro heq
  have hfirst := congrArg (fun text : String => text.toList.head?) heq
  have hspace : " is ".toList.head? = some ' ' := by decide +kernel
  rw [String.toList_append, List.head?_append, hspace, Option.some_or] at hfirst
  exact absurd hfirst (by decide +kernel)

theorem announcement_eq_builtin_iff
    (habsolute : ∀ p, task = some (.program p) → p.isAbsolute = true) :
    announcement name task = name ++ " is a shell builtin" ↔ ∃ b, task = some (.builtin b) := by
  match task with
  | some (.builtin b) => exact ⟨fun _ => ⟨b, rfl⟩, fun _ => rfl⟩
  | some (.program p) =>
    refine ⟨fun heq => absurd heq (announcement_program_ne (habsolute p rfl)), ?_⟩
    rintro ⟨b, hb⟩
    cases hb
  | none =>
    refine ⟨fun heq => absurd heq (announcement_missing_ne "a shell builtin"), ?_⟩
    rintro ⟨b, hb⟩
    cases hb

theorem announcement_eq_program_iff {p : Path} (hp : p.isAbsolute = true) :
    announcement name task = name ++ " is " ++ p.display ↔
      ∃ q, q.display = p.display ∧ task = some (.program q) := by
  match task with
  | some (.builtin b) =>
    refine ⟨fun heq => absurd heq.symm (announcement_program_ne hp), ?_⟩
    rintro ⟨q, -, hq⟩
    cases hq
  | some (.program q) =>
    have hsame : announcement name (some (.program q)) = name ++ " is " ++ p.display ↔
        q.display = p.display := String.append_right_inj _
    rw [hsame]
    refine ⟨fun heq => ⟨q, heq, rfl⟩, ?_⟩
    rintro ⟨q', heq, hq⟩
    cases hq
    exact heq
  | none =>
    rw [String.append_assoc]
    refine ⟨fun heq => absurd heq (announcement_missing_ne p.display), ?_⟩
    rintro ⟨q, -, hq⟩
    cases hq

theorem announcement_eq_missing_iff :
    announcement name task = name ++ ": not found" ↔ task = none := by
  match task with
  | some (.builtin b) =>
    refine ⟨fun heq => absurd heq.symm (announcement_missing_ne "a shell builtin"), ?_⟩
    intro h
    cases h
  | some (.program p) =>
    have hwords : announcement name (some (.program p)) = name ++ (" is " ++ p.display) :=
      String.append_assoc
    rw [hwords]
    refine ⟨fun heq => absurd heq.symm (announcement_missing_ne p.display), ?_⟩
    intro h
    cases h
  | none => exact ⟨fun _ => rfl, fun _ => rfl⟩

end

/-- `type` says of a name what it stands for. -/
theorem Builtin.describe_eq (ctx : Context) (fs : FileSystem) (name : String) :
    (describe ctx fs name).1 = announcement name (ctx.task? fs name) := by
  simp only [describe, Context.task?, Context.findExecutable]
  cases ofName? name with
  | some b => rfl
  | none => rcases ctx.search fs name with ⟨_ | path, events⟩ <;> rfl

/-- A verb stands for the same in a tree that has grown. -/
theorem Context.task?_of_growsTo {fs gs : FileSystem} (h : fs.GrowsTo gs) (ctx : Context)
    (verb : String) : ctx.task? gs verb = ctx.task? fs verb := by
  simp only [task?, ctx.findExecutable_congr h.isProgram verb]

variable {ω ε : Type} [Writer ω] [Writer ε]

/-! ## What a delivery does to the tree -/

/-- Streams of this kind do nothing to a tree but write to files. -/
def Writer.OnlyGrows (ω : Type) [Writer ω] : Prop :=
  ∀ (w : ω) (files : FileSystem), files.GrowsTo (settle w files).2

omit [Writer ε] in
theorem Writer.Detached.onlyGrows (h : Writer.Detached ω) : Writer.OnlyGrows ω := by
  intro w files
  rw [h w files]
  exact .refl files

theorem Stored.onlyGrows : Writer.OnlyGrows Stored := by
  intro w files
  change files.GrowsTo (w.settle files).2
  unfold Stored.settle
  split
  · exact .refl files
  · exact files.growsTo_write _ _

namespace Running

theorem growsTo_write (hout : Writer.OnlyGrows ω) (herr : Writer.OnlyGrows ε) (stream : Stream)
    (r : Running ω ε) (bytes : Bytes) :
    r.session.files.GrowsTo (r.write stream bytes).2.session.files := by
  obtain ⟨s, opened⟩ := r
  by_cases hfile : ∃ handle, opened = some ⟨stream, handle⟩
  · obtain ⟨handle, rfl⟩ := hfile
    rw [write_to_file]
    exact s.files.growsTo_write handle bytes
  · rw [write_own _ _ _ (not_exists.mp hfile)]
    cases stream with
    | stdout => exact hout _ s.files
    | stderr => exact herr _ s.files

theorem growsTo_say (hout : Writer.OnlyGrows ω) (herr : Writer.OnlyGrows ε) (r : Running ω ε)
    (bytes : Bytes) : r.session.files.GrowsTo (r.say bytes).session.files := by
  have hwritten := growsTo_write hout herr .stdout r bytes
  simp only [say]
  rcases hr : r.write .stdout bytes with ⟨_ | fault, r'⟩
  · rw [hr] at hwritten
    exact hwritten
  · rw [hr] at hwritten
    exact hwritten.trans (herr _ r'.session.files)

theorem growsTo_deliver (hout : Writer.OnlyGrows ω) (herr : Writer.OnlyGrows ε)
    (r : Running ω ε) (p : Performance) :
    r.session.files.GrowsTo (r.deliver p).session.files := by
  have hsaid : r.session.files.GrowsTo (p.out.elim r r.say).session.files := by
    cases p.out with
    | none => exact .refl _
    | some bytes => exact growsTo_say hout herr r bytes
  refine hsaid.trans ?_
  rw [deliver]
  generalize p.out.elim r r.say = t
  induction p.err generalizing t with
  | nil => exact .refl _
  | cons bytes rest ih => exact (growsTo_write hout herr .stderr t bytes).trans (ih _)

end Running

namespace Session

/-! ## What becomes of a command -/

/-- Dispatching the command goes to a builtin. -/
def GoesToBuiltin (s : Session ω ε) (launcher : Launcher) (c : Command) : Prop :=
  ∃ b, Builtin.ofName? c.verb = some b ∧
    s.dispatch launcher c = (s.note (.dispatched c)).runBuiltin b c

/-- Dispatching the command comes upon a program, and starts it, and nothing else, once the
redirection is open. -/
structure ResolvesTo (s : Session ω ε) (launcher : Launcher) (c : Command) (program : Path) :
    Prop where
  builtin : Builtin.ofName? c.verb = none
  found : s.context.findExecutable s.files c.verb = some program
  started {opened : Option Opened} {files : FileSystem} :
    s.context.openTarget s.files c.redirect = .ok (opened, files) →
      (s.dispatch launcher c).2.launches =
        ⟨c.verb, program, c.arguments, s.context.cwd⟩ :: s.launches
  /-- What comes of the command is what the machine makes of this start, -/
  performed {opened : Option Opened} {files : FileSystem} :
    s.context.openTarget s.files c.redirect = .ok (opened, files) →
      (s.dispatch launcher c).2.Agree
        (s.deliver opened (launcher.perform program c s.context files))
  /-- and nothing else is asked of the machine. -/
  asked {opened : Option Opened} {files : FileSystem} {other : Launcher} :
    s.context.openTarget s.files c.redirect = .ok (opened, files) →
      other ⟨c.verb, program, c.arguments, s.context.cwd⟩ files =
        launcher ⟨c.verb, program, c.arguments, s.context.cwd⟩ files →
      s.dispatch other c = s.dispatch launcher c

section
variable {s : Session ω ε} {launcher : Launcher} {c : Command}

theorem goesToBuiltin_iff :
    s.GoesToBuiltin launcher c ↔ ∃ b, s.context.task? s.files c.verb = some (.builtin b) := by
  constructor
  · rintro ⟨b, hname, -⟩
    exact ⟨b, Context.task?_of_builtin hname⟩
  · rintro ⟨b, htask⟩
    have hname : Builtin.ofName? c.verb = some b := by
      rw [Context.verb_of_task_builtin htask, Builtin.ofName?_name]
    refine ⟨b, hname, ?_⟩
    simp only [dispatch, Context.isBlank_of_task htask, hname, Bool.false_eq_true, if_false]

theorem resolvesTo_iff {program : Path} :
    s.ResolvesTo launcher c program ↔
      s.context.task? s.files c.verb = some (.program program) := by
  constructor
  · rintro ⟨hname, hfound, -⟩
    rw [Context.task?_of_not_builtin hname, hfound, Option.map_some]
  · intro htask
    have hname : Builtin.ofName? c.verb = none := by
      cases hname : Builtin.ofName? c.verb with
      | none => rfl
      | some b => cases (Context.task?_of_builtin hname).symm.trans htask
    have hfound : s.context.findExecutable s.files c.verb = some program := by
      rw [Context.task?_of_not_builtin hname] at htask
      obtain ⟨program', hfound, heq⟩ := Option.map_eq_some_iff.mp htask
      cases heq
      exact hfound
    have hprepared {opened : Option Opened} {files : FileSystem}
        (hopen : s.context.openTarget s.files c.redirect = .ok (opened, files)) :
        s.context.prepare s.files c = .ok ⟨.program program, opened, files⟩ :=
      Context.prepare_eq_ok_iff.mpr ⟨htask, hopen⟩
    refine ⟨hname, hfound, fun hopen => ?_, fun hopen => ?_, fun hopen hsame => ?_⟩
    · rw [launches_dispatch, Context.launch?, hprepared hopen]
      rfl
    · exact (dispatch_of_task launcher htask hopen).2
    · refine s.dispatch_congr c fun p hp launch hlaunch => ?_
      obtain rfl := Except.ok.inj ((hprepared hopen).symm.trans hp)
      obtain rfl := Option.some.inj hlaunch
      exact hsame

/-- Only a verb that stands for nothing is reported as such. -/
theorem reports_commandNotFound_iff (hblank : c.isBlank = false) :
    s.Reports launcher c (.commandNotFound c.verb) ↔
      s.context.task? s.files c.verb = none := by
  rw [reports_iff]
  constructor
  · intro h
    cases hprepared : s.context.prepare s.files c with
    | error d =>
      rw [additions_of_error hblank hprepared, List.mem_singleton] at h
      obtain rfl := Event.diagnosed.inj h
      -- what else turns a command down is a file that does not open
      rcases Context.prepare_eq_error_iff.mp hprepared with ⟨htask, -⟩ | ⟨_, _, _, -, -, -, heq⟩
      · exact htask
      · cases heq
    | ok p =>
      rw [additions_of_ok hprepared] at h
      rcases diagnosed_mem_ended h with ⟨fault, -, heq⟩ | hfailure
      · cases heq
      · cases hp : p.task with
        | builtin b =>
          rw [hp] at hfailure
          rcases Builtin.failure?_cases hfailure with
            ⟨_, heq⟩ | ⟨_, _, heq⟩ | ⟨_, heq⟩ | ⟨_, heq⟩ | ⟨_, heq⟩
          all_goals cases heq
        | program path =>
          rw [hp] at hfailure
          simp only [Task.failure?] at hfailure
          split at hfailure
          · cases hfailure
          · cases hfailure
  · intro htask
    rw [additions_of_error hblank (Context.prepare_of_no_task htask)]
    exact List.mem_singleton_self _

end

/-! ## What `type` says is right -/

/-- What is said of a name tells what becomes of the commands that have it as their verb, and
is one of three things. -/
structure Foretells (s : Session ω ε) (launcher : Launcher) (name text : String) : Prop where
  builtin (c : Command) : c.verb = name →
    (text = name ++ " is a shell builtin" ↔ s.GoesToBuiltin launcher c)
  program (c : Command) (p : Path) : c.verb = name → p.isAbsolute = true →
    (text = name ++ " is " ++ p.display ↔
      ∃ q, q.display = p.display ∧ s.ResolvesTo launcher c q)
  missing (c : Command) : c.verb = name →
    (text = name ++ ": not found" ↔ s.Reports launcher c (.commandNotFound name))
  /-- What is reported so is turned down: nothing is asked of the machine. -/
  turnedDown (c : Command) : c.verb = name → s.Reports launcher c (.commandNotFound name) →
    s.TurnsDown launcher c (name ++ ": command not found")
  /-- No other paths come into question. -/
  absolute (c : Command) (q : Path) : c.verb = name → s.ResolvesTo launcher c q →
    q.isAbsolute = true

theorem foretells_announcement (s : Session ω ε) (launcher : Launcher)
    (hcwd : s.context.cwd.isAbsolute = true) {name : String} (hname : name ≠ "") :
    s.Foretells launcher name (announcement name (s.context.task? s.files name)) := by
  have habsolute : ∀ q, s.context.task? s.files name = some (.program q) →
      q.isAbsolute = true := by
    intro q hq
    cases hbuiltin : Builtin.ofName? name with
    | some b => cases (Context.task?_of_builtin hbuiltin).symm.trans hq
    | none =>
      rw [Context.task?_of_not_builtin hbuiltin] at hq
      obtain ⟨q', hfound, heq⟩ := Option.map_eq_some_iff.mp hq
      cases heq
      exact Context.isAbsolute_of_findExecutable hcwd hfound
  have hblank : ∀ {c : Command}, c.verb = name → c.isBlank = false := by
    rintro c rfl
    simpa [Command.isBlank] using hname
  refine ⟨?_, ?_, ?_, ?_, ?_⟩
  · rintro c rfl
    rw [goesToBuiltin_iff, announcement_eq_builtin_iff habsolute]
  · rintro c p rfl hp
    simp only [resolvesTo_iff, announcement_eq_program_iff hp]
  · rintro c rfl
    rw [reports_commandNotFound_iff (hblank rfl), announcement_eq_missing_iff]
  · rintro c rfl hreports
    have htask := (reports_commandNotFound_iff (hblank rfl)).mp hreports
    exact turnsDown_of_prepare (hblank rfl) (Context.prepare_of_no_task htask) launcher
  · rintro c q rfl hq
    exact habsolute q (resolvesTo_iff.mp hq)

/-- What `type` comes to with one argument. -/
theorem dispatch_type (s : Session ω ε) (launcher : Launcher) (name : String)
    {redirect : Option Redirect} {opened : Option Opened} {files : FileSystem}
    (hopen : s.context.openTarget s.files redirect = .ok (opened, files)) :
    let c : Command := ⟨Builtin.type.name, [name], redirect⟩
    let text := (Builtin.describe s.context files name).1
    (s.dispatch launcher c).1 = .proceed ∧
      (s.dispatch launcher c).2.Agree (s.deliver opened
        { context := s.context, files, out := some (Text.utf8 (text ++ "\n")) }) :=
  dispatch_of_task (c := ⟨Builtin.type.name, [name], redirect⟩) launcher
    (Context.task?_of_builtin (Builtin.ofName?_name .type)) hopen

/-- **What `type` says is what happens.**  From an absolute working directory `type` prints one
line of a name, whatever file its redirection has opened; and the line is right of every command
with that verb, be it dispatched where `type` was or where `type` has left the session. -/
theorem type_foretells (hout : Writer.OnlyGrows ω) (herr : Writer.OnlyGrows ε)
    (s : Session ω ε) (launcher : Launcher) (hcwd : s.context.cwd.isAbsolute = true)
    {name : String} (hname : name ≠ "") {redirect : Option Redirect} {opened : Option Opened}
    {files : FileSystem}
    (hopen : s.context.openTarget s.files redirect = .ok (opened, files)) :
    let c : Command := ⟨Builtin.type.name, [name], redirect⟩
    let text := (Builtin.describe s.context files name).1
    let after := (s.dispatch launcher c).2
    (s.dispatch launcher c).1 = .proceed ∧
    after.Agree (s.deliver opened
      { context := s.context, files, out := some (Text.utf8 (text ++ "\n")) }) ∧
    s.Foretells launcher name text ∧ after.Foretells launcher name text := by
  intro c text after
  obtain ⟨hflow, hagree⟩ := s.dispatch_type launcher name hopen
  have htext : text = announcement name (s.context.task? files name) :=
    Builtin.describe_eq s.context files name
  have hopened : s.files.GrowsTo files := by
    cases redirect with
    | none =>
      cases hopen
      exact .refl _
    | some r =>
      obtain ⟨handle, -, hfile⟩ := Context.exists_of_openTarget_ok hopen
      exact FileSystem.growsTo_openFile hfile
  have hcontext : after.context = s.context := hagree.context.trans (s.deliver_context _ _)
  have hwritten : files.GrowsTo after.files := by
    rw [hagree.files]
    exact Running.growsTo_deliver hout herr ⟨{ s with files }, opened⟩ _
  refine ⟨hflow, hagree, ?_, ?_⟩
  · rw [htext, Context.task?_of_growsTo hopened]
    exact s.foretells_announcement launcher hcwd hname
  · rw [htext, ← hcontext, ← Context.task?_of_growsTo hwritten]
    exact after.foretells_announcement launcher (hcontext ▸ hcwd) hname

/-- `type p > p` overwrites the program `p` with what it says of it, and is right: `p` is still
what the verb comes upon. -/
theorem type_foretells_overwritten :
    let files := FileSystem.empty.create [Text.utf8 "p"] { mode := 0o755, content := [33] }
    let s : Session Stored Sink :=
      ⟨⟨Path.ofString "/", none, [Path.ofString ""]⟩, files, {}, {}, []⟩
    let launcher : Launcher := fun _ _ => .error (.system .noEntry)
    let c : Command := ⟨Builtin.type.name, ["p"], some ⟨.stdout, "p", .overwrite⟩⟩
    (s.dispatch launcher c).2.files.file? [Text.utf8 "p"] =
        some ⟨0o755, Text.utf8 "p is /p\n", none⟩ ∧
      ∃ q : Path, q.display = "/p" ∧
        (s.dispatch launcher c).2.ResolvesTo launcher ⟨"p", ["x"], none⟩ q := by
  intro files s launcher c
  let emptied := files.modifyFile 0 fun d => { d with content := [], date := none }
  have hopen : s.context.openTarget s.files c.redirect =
      .ok (some ⟨.stdout, .within 0 0⟩, emptied) := by
    decide +kernel
  have htext : (Builtin.describe s.context emptied "p").1 =
      "p" ++ " is " ++ (Path.ofString "/p").display := by
    decide +kernel
  have hshown : (Path.ofString "/p").display = "/p" := by decide +kernel
  have hname : "p" ≠ "" := by decide
  obtain ⟨-, -, -, hafter⟩ := type_foretells Stored.onlyGrows Sink.detached.onlyGrows s launcher
    (by decide +kernel) hname hopen
  refine ⟨by decide +kernel, ?_⟩
  rw [← hshown]
  exact (hafter.program ⟨"p", ["x"], none⟩ (Path.ofString "/p") rfl (by decide +kernel)).mp htext

end Session
end LineShell
