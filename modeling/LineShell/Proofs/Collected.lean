import LineShell.Proofs.Contents
import LineShell.Proofs.Routing
import LineShell.Proofs.TurnedDown
import LineShell.Proofs.Whereabouts

/-! # What a file has collected

Several commands of a session may send a stream to one file, some in its stead and some behind
what is there.  Each of them opens the file before it runs and closes it when it is done; in
between the file takes all that the command says on that stream, in as many pieces as it comes.
So the file holds in the end what the sends put together make (`Sent.collect`), also where a
command had nothing to say, or failed, or where the other stream was sent there before.
-/
namespace LineShell

/-! ## Sends -/

/-- What a command sends to a file, and how the file is opened for it. -/
structure Sent where
  mode : WriteMode
  bytes : Bytes
  deriving DecidableEq, Repr

namespace Sent

/-- The contents of the file after a send; there may have been no file before. -/
def onto (sent : Sent) (content : Option Bytes) : Bytes :=
  match sent.mode with
  | .overwrite => sent.bytes
  | .append => content.getD [] ++ sent.bytes

/-- The contents after several sends, if there is a file then. -/
def collect (content : Option Bytes) (sends : List Sent) : Option Bytes :=
  sends.foldl (fun content sent => some (sent.onto content)) content

/-- Nothing is lost that is added behind the contents. -/
theorem collect_of_appended (content : Bytes) {sends : List Sent}
    (h : ∀ sent ∈ sends, sent.mode = .append) :
    collect (some content) sends = some (content ++ sends.flatMap Sent.bytes) := by
  induction sends generalizing content with
  | nil => exact congrArg some (List.append_nil content).symm
  | cons sent rest ih =>
    have hmode := h sent List.mem_cons_self
    have honto : sent.onto (some content) = content ++ sent.bytes := by
      simp only [onto, hmode, Option.getD_some]
    have hrest := ih (content ++ sent.bytes) fun later hlater =>
      h later (List.mem_cons_of_mem sent hlater)
    rw [← honto] at hrest
    rw [List.flatMap_cons, ← List.append_assoc, ← honto]
    exact hrest

theorem collect_append (content : Option Bytes) (sends more : List Sent) :
    collect content (sends ++ more) = collect (collect content sends) more :=
  List.foldl_append

end Sent

/-- The part of a product that is said on one stream. -/
def Product.on (made : Product) : Stream → Bytes
  | .stdout => made.out
  | .stderr => made.err

/-- A builtin changes no file by itself. -/
@[simp] theorem Builtin.product_files (b : Builtin) (arguments : List String) (ctx : Context)
    (fs : FileSystem) : (b.product arguments ctx fs).files = fs := by
  simp only [product]
  split <;> rfl

section
variable {ω ε : Type}

/-- What a builtin sends to the path `f` if its redirection goes there: all that it says on the
redirected stream, once the file is open. -/
def Session.sent? (s : Session ω ε) (f : Path) (c : Command) : Option Sent :=
  match c.redirect, Builtin.ofName? c.verb with
  | some r, some b =>
    if s.context.resolve (Path.ofString r.path) = f then
      let files :=
        match s.files.openFile r.mode f with
        | .ok (_, files) => files
        | .error _ => s.files
      some ⟨r.mode, (b.product c.arguments s.context files).on r.stream⟩
    else none
  | _, _ => none

/-- If the redirection of the command goes elsewhere, then not to a file that `f` names as well,
nor to a device that is full. -/
def Session.Spares (s : Session ω ε) (f : Path) (c : Command) : Prop :=
  ∀ r handle files, c.redirect = some r → s.context.resolve (Path.ofString r.path) ≠ f →
    s.files.openFile r.mode (s.context.resolve (Path.ofString r.path)) = .ok (handle, files) →
    handle ≠ .device .full ∧ ¬files.IsOn f handle

/-- A command that writes no file spares every file. -/
theorem Session.spares_of_no_redirect (s : Session ω ε) (f : Path) {c : Command}
    (h : c.redirect = none) : s.Spares f c := by
  intro r handle files hredirect
  rw [h] at hredirect
  cases hredirect

/-- A command whose redirection goes to `f` goes nowhere else. -/
theorem Session.spares_of_redirect {s : Session ω ε} {f : Path} {c : Command} {r : Redirect}
    (h : c.redirect = some r) (hpath : s.context.resolve (Path.ofString r.path) = f) :
    s.Spares f c := by
  intro r' handle files hredirect hne
  rw [h] at hredirect
  cases hredirect
  exact absurd hpath hne

end

/-! ## One command -/

variable {ω ε : Type} [Receiver ω] [Receiver ε]

namespace Session
open Receiver (Unlimited)

/-- What has been routed to a file is in the tree. -/
theorem Routed.files_eq {s after : Session ω ε} {opened : Option Opened} {made : Product}
    (h : s.Routed opened made after) :
    after.files = match opened with
      | none => made.files
      | some o => (made.files.write o.handle (made.on o.stream)).2.2 := by
  rcases opened with _ | ⟨_ | _, handle⟩
  · exact h.2.2
  · exact h.2.2
  · exact h.2.2

/-- Streams that take everything go on to do so. -/
theorem take_unlimited {s : Session ω ε} (hout : Unlimited s.out) (herr : Unlimited s.err)
    (launcher : Launcher) (step : Step) :
    Unlimited (s.take launcher step).2.out ∧ Unlimited (s.take launcher step).2.err := by
  have hs : s.Corresponds (fun w w' => w = w' ∧ Unlimited w) (fun w w' => w = w' ∧ Unlimited w)
      s := ⟨rfl, rfl, ⟨rfl, hout⟩, rfl, herr⟩
  have hkeepsOut : Writer.Keeps fun w w' : ω => w = w' ∧ Unlimited w :=
    Writer.keeps_eq_of (fun _ h bytes => (Receiver.write_unlimited h bytes).2.1)
      fun _ h files => (Receiver.settle_unlimited h files).symm ▸ h
  have hkeepsErr : Writer.Keeps fun w w' : ε => w = w' ∧ Unlimited w :=
    Writer.keeps_eq_of (fun _ h bytes => (Receiver.write_unlimited h bytes).2.1)
      fun _ h files => (Receiver.settle_unlimited h files).symm ▸ h
  obtain ⟨-, hafter⟩ := hs.respond hkeepsOut Writer.refuseAlike_eq_of hkeepsErr launcher
    step.toCommand fun _ _ => rfl
  obtain ⟨-, hagree⟩ := s.take_respond launcher step
  rw [hagree.out, hagree.err]
  exact ⟨hafter.out.2, hafter.err.2⟩

/-- What a builtin says on the stream that goes to a file is written there. -/
theorem files_dispatch {s : Session ω ε} (launcher : Launcher) {c : Command} {b : Builtin}
    {r : Redirect} {handle : Handle} {files : FileSystem} (hout : Unlimited s.out)
    (herr : Unlimited s.err) (hname : Builtin.ofName? c.verb = some b)
    (hredirect : c.redirect = some r)
    (hopen : s.files.openFile r.mode (s.context.resolve (Path.ofString r.path)) =
      .ok (handle, files)) (hfull : handle ≠ .device .full) :
    (s.dispatch launcher c).2.files =
      (files.write handle ((b.product c.arguments s.context files).on r.stream)).2.2 := by
  have htarget : s.context.openTarget s.files c.redirect =
      .ok (some ⟨r.stream, handle⟩, files) := by
    simp only [hredirect, Context.openTarget, hopen]
  have hopened : ∀ o ∈ some (Opened.mk r.stream handle), o.handle ≠ .device .full := by
    rintro o ⟨⟩
    exact hfull
  obtain ⟨hrouted, -⟩ :=
    dispatch_routed launcher hout herr (Context.task?_of_builtin hname) htarget hopened
  have hfiles := hrouted.files_eq
  simp only [Task.product, Builtin.product_files] at hfiles
  exact hfiles

/-- A builtin whose redirection goes to `f`. -/
theorem holds_dispatch_to {s : Session ω ε} (launcher : Launcher) {c : Command} {b : Builtin}
    {r : Redirect} {f : Path} {content : Option Bytes} (hout : Unlimited s.out)
    (herr : Unlimited s.err) (hname : Builtin.ofName? c.verb = some b)
    (hf : s.files.Holds f content) (hredirect : c.redirect = some r)
    (hto : s.context.resolve (Path.ofString r.path) = f) :
    ∃ sent, s.sent? f c = some sent ∧
      (s.dispatch launcher c).2.files.Holds f (some (sent.onto content)) := by
  obtain ⟨n, files, data, hopen, hstores, hdata⟩ := hf.openFile r.mode
  have hfull : FileSystem.handleFor r.mode n ≠ .device .full := by
    cases r.mode <;> exact Handle.noConfusion
  have hempty : r.mode = .overwrite → data.content = [] := by
    intro hmode
    rw [hdata, hmode]
  obtain ⟨data', hstores', hdata'⟩ := hstores.write r.mode hempty
    ((b.product c.arguments s.context files).on r.stream)
  refine ⟨⟨r.mode, (b.product c.arguments s.context files).on r.stream⟩, ?_, ?_⟩
  · simp only [sent?, hredirect, hname, hto, hopen, if_true]
  · have hcontent : Sent.onto ⟨r.mode, (b.product c.arguments s.context files).on r.stream⟩
        content = data'.content := by
      rw [hdata', hdata]
      cases r.mode <;> rfl
    rw [files_dispatch launcher hout herr hname hredirect (hto ▸ hopen) hfull, hcontent]
    exact .file hf.clean hstores'

/-- A builtin whose redirection goes elsewhere. -/
theorem holds_dispatch_elsewhere {s : Session ω ε} (launcher : Launcher) {c : Command}
    {b : Builtin} {r : Redirect} {f : Path} {content : Option Bytes} (hout : Unlimited s.out)
    (herr : Unlimited s.err) (hname : Builtin.ofName? c.verb = some b)
    (hf : s.files.Holds f content) (hspares : s.Spares f c) (hredirect : c.redirect = some r)
    (hto : s.context.resolve (Path.ofString r.path) ≠ f) :
    (s.dispatch launcher c).2.files.Holds f content := by
  rcases hopen : s.files.openFile r.mode (s.context.resolve (Path.ofString r.path)) with
    fault | ⟨handle, files⟩
  · have htask : s.context.task? s.files c.verb = some (.builtin b) :=
      Context.task?_of_builtin hname
    have hturned := turnsDown_of_prepare (Context.isBlank_of_task htask)
      (Context.prepare_of_unopened htask hredirect hopen) launcher
    have hwritten := hturned.written
    rw [Receiver.settle_unlimited (Receiver.write_unlimited herr _).2.1] at hwritten
    rw [(Prod.mk.inj hwritten).2]
    exact hf
  · obtain ⟨hfull, hother⟩ := hspares r handle files hredirect hto hopen
    rw [files_dispatch launcher hout herr hname hredirect hopen hfull]
    exact (hf.openFile_other hopen hother).write_other hother _

/-- **What a builtin leaves in the file** is what it has sent there on top of what there was. -/
theorem holds_dispatch {s : Session ω ε} (launcher : Launcher) {c : Command} {b : Builtin}
    {f : Path} {content : Option Bytes} (hout : Unlimited s.out) (herr : Unlimited s.err)
    (hname : Builtin.ofName? c.verb = some b) (hf : s.files.Holds f content)
    (hspares : s.Spares f c) :
    (s.dispatch launcher c).2.files.Holds f (Sent.collect content (s.sent? f c).toList) := by
  cases hredirect : c.redirect with
  | none =>
    have hopen : s.context.openTarget s.files c.redirect = .ok (none, s.files) := by
      rw [hredirect]
      rfl
    obtain ⟨hrouted, -⟩ := dispatch_routed launcher hout herr (Context.task?_of_builtin hname)
      hopen (by simp)
    have hfiles := hrouted.files_eq
    simp only [Task.product, Builtin.product_files] at hfiles
    rw [hfiles, sent?, hredirect]
    exact hf
  | some r =>
    by_cases hto : s.context.resolve (Path.ofString r.path) = f
    · obtain ⟨sent, hsent, hholds⟩ :=
        holds_dispatch_to launcher hout herr hname hf hredirect hto
      rw [hsent]
      exact hholds
    · have hsent : s.sent? f c = none := by simp only [sent?, hredirect, hname, hto, if_false]
      rw [hsent]
      exact holds_dispatch_elsewhere launcher hout herr hname hf hspares hredirect hto

/-- The same of a step. -/
theorem holds_take {s : Session ω ε} (launcher : Launcher) {step : Step} {b : Builtin} {f : Path}
    {content : Option Bytes} (hout : Unlimited s.out) (herr : Unlimited s.err)
    (hname : Builtin.ofName? step.toCommand.verb = some b) (hf : s.files.Holds f content)
    (hspares : s.Spares f step.toCommand) :
    (s.take launcher step).2.files.Holds f
      (Sent.collect content (s.sent? f step.toCommand).toList) := by
  cases step with
  | command c => exact holds_dispatch launcher hout herr hname hf hspares
  | line text =>
    simp only [take, executeLine]
    split
    · exact holds_dispatch (s := s.note .pathMissing) launcher hout herr hname hf hspares
    · exact holds_dispatch launcher hout herr hname hf hspares

/-! ## Many steps -/

/-- What steps send to the path `f`, one after the other. -/
def sends (launcher : Launcher) (f : Path) : Session ω ε → List Step → List Sent
  | _, [] => []
  | s, step :: rest =>
    (s.sent? f step.toCommand).toList ++ sends launcher f (s.take launcher step).2 rest

/-- None of the steps writes the file at the path `f` on another way. -/
def SparesAll (launcher : Launcher) (f : Path) : Session ω ε → List Step → Prop
  | _, [] => True
  | s, step :: rest =>
    s.Spares f step.toCommand ∧ SparesAll launcher f (s.take launcher step).2 rest

theorem holds_run {s : Session ω ε} (launcher : Launcher) {f : Path} {content : Option Bytes}
    (hout : Unlimited s.out) (herr : Unlimited s.err) (hf : s.files.Holds f content)
    {steps : List Step}
    (hbuiltin : ∀ step ∈ steps, (Builtin.ofName? step.toCommand.verb).isSome = true)
    (hspares : s.SparesAll launcher f steps) :
    (s.run launcher steps).files.Holds f (Sent.collect content (s.sends launcher f steps)) := by
  induction steps generalizing s content with
  | nil => exact hf
  | cons step rest ih =>
    obtain ⟨hfirst, hrest⟩ := hspares
    obtain ⟨b, hname⟩ := Option.isSome_iff_exists.mp (hbuiltin step List.mem_cons_self)
    obtain ⟨hout', herr'⟩ := take_unlimited hout herr launcher step
    have hstep := holds_take launcher hout herr hname hf hfirst
    have hafter := ih hout' herr' hstep
      (fun later hlater => hbuiltin later (List.mem_cons_of_mem step hlater)) hrest
    rw [← Sent.collect_append] at hafter
    exact hafter

/-- **A file holds what was sent to it.**  With streams that take everything, builtins that
send a stream to one path leave in its file, all together and in order, what they say there:
what is sent to overwrite takes the place of the contents, and what is sent behind them is
added.  So what has been added since some send is there in full, behind what that send has
left. -/
theorem run_collects {s : Session ω ε} (launcher : Launcher) {f : Path} {content : Option Bytes}
    (hout : Unlimited s.out) (herr : Unlimited s.err) (hf : s.files.Holds f content)
    {steps : List Step}
    (hbuiltin : ∀ step ∈ steps, (Builtin.ofName? step.toCommand.verb).isSome = true)
    (hspares : s.SparesAll launcher f steps) :
    let sends := s.sends launcher f steps
    let after := (s.run launcher steps).files
    s.files.contents? f = content ∧
    after.Holds f (Sent.collect content sends) ∧
    after.contents? f = Sent.collect content sends ∧
    ∀ before sent added, sends = before ++ sent :: added →
      (∀ later ∈ added, later.mode = .append) →
      after.contents? f =
        some (sent.onto (Sent.collect content before) ++ added.flatMap Sent.bytes) := by
  intro sends after
  have hholds : after.Holds f (Sent.collect content sends) :=
    holds_run launcher hout herr hf hbuiltin hspares
  refine ⟨hf.contents?, hholds, hholds.contents?, fun before sent added hsends hadded => ?_⟩
  have hcollect : Sent.collect content (before ++ sent :: added) =
      Sent.collect (some (sent.onto (Sent.collect content before))) added :=
    Sent.collect_append content before (sent :: added)
  rw [hholds.contents?, hsends, hcollect, Sent.collect_of_appended _ hadded]

/-- A `cd` that fails adds its line, an `exit` that succeeds nothing, and `pwd` goes elsewhere. -/
theorem run_collects_failed :
    let s : Session Sink LineBuffered :=
      ⟨⟨Path.ofString "/", none, []⟩, .empty, {}, { sink := {} }, []⟩
    let launcher : Launcher := fun _ _ => .error (.system .noEntry)
    let f := Path.ofString "/f"
    let steps : List Step :=
      [.line "echo hi > /f", .command ⟨"pwd", [], none⟩,
        .command ⟨"cd", ["/none"], some ⟨.stderr, "f", .append⟩⟩,
        .command ⟨"exit", ["3"], some ⟨.stdout, "/f", .append⟩⟩]
    s.files.contents? f = none ∧
      (s.run launcher steps).files.contents? f =
        some (Text.utf8 "hi\ncd: /none: No such file or directory\n") := by
  intro s launcher f steps
  have hleads : s.files.resolve .making [] f = .ok (.absent [] (Text.utf8 "f")) := by
    decide +kernel
  have hf : s.files.Holds f none := .missing (by decide +kernel) hleads (by decide +kernel)
  have hspares : s.SparesAll launcher f steps :=
    ⟨spares_of_redirect (r := ⟨.stdout, "/f", .overwrite⟩) (by decide +kernel) (by decide +kernel),
      spares_of_no_redirect _ f rfl,
      spares_of_redirect (r := ⟨.stderr, "f", .append⟩) rfl (by decide +kernel),
      spares_of_redirect (r := ⟨.stdout, "/f", .append⟩) rfl (by decide +kernel), trivial⟩
  obtain ⟨hbefore, -, hafter, -⟩ := run_collects launcher rfl rfl hf (by decide +kernel) hspares
  exact ⟨hbefore, hafter.trans (by decide +kernel)⟩

end Session
end LineShell
