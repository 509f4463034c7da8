import LineShell.Proofs.PathText
import LineShell.Proofs.Whereabouts
import Mathlib.Control.Monad.Basic

/-! # Changing the directory

A `cd` enters what its target names, seen from the working directory, if that is a directory, and
is then at its canonical path, or at the path as it is if it has none; anything else is reported,
and nobody moves.  Being at the canonical path of a directory, one stays there with a `cd` to
nothing, to the path itself, or to `.`; the last needs a directory that may be searched, for `.`
is looked up in it.
-/
namespace LineShell
open FileSystem (maxPath ownerExecutes)

/-! ## Targets in the home directory -/

/-- The target is `~` or begins with `~/`. -/
def NeedsHome (target : String) : Prop := target.toList = ['~'] ∨ ['~', '/'] <+: target.toList

instance (target : String) : Decidable (NeedsHome target) :=
  inferInstanceAs (Decidable (_ ∨ _))

/-- Only such a target needs a home directory to be known. -/
theorem expandTilde_eq_error_iff {target : String} {home : Option Path} {d : Diagnostic} :
    expandTilde target home = .error d ↔
      (home = none ∧ NeedsHome target) ∧ d = .homeNotSet := by
  unfold expandTilde NeedsHome
  split
  · next htarget => cases home <;> simp [htarget, eq_comm]
  · next rest htarget => cases home <;> simp [htarget, eq_comm]
  · next halone hbefore =>
    have halone : target.toList ≠ ['~'] := halone
    have hbefore : ¬['~', '/'] <+: target.toList := by
      rintro ⟨rest, hrest⟩
      exact hbefore rest hrest.symm
    simp [halone, hbefore]

/-- Any other target stays as it is. -/
theorem expandTilde_of_not_needsHome {target : String} (h : ¬NeedsHome target)
    (home : Option Path) : expandTilde target home = .ok target := by
  obtain ⟨halone, hbefore⟩ := not_or.mp h
  unfold expandTilde
  split
  · next htarget => exact absurd htarget halone
  · next rest hrest => exact absurd ⟨rest, hrest.symm⟩ hbefore
  · rfl

/-- A target that needs a home directory is not absolute. -/
theorem NeedsHome.isAbsolute {target : String} (h : NeedsHome target) :
    (Path.ofString target).isAbsolute = false := by
  have htilde : target.toList.head? = some '~' := by
    rcases h with halone | ⟨rest, hrest⟩
    · rw [halone]
      rfl
    · rw [← hrest]
      rfl
  rw [Bool.eq_false_iff, ne_eq, Path.isAbsolute_ofString_iff, htilde]
  decide

theorem not_needsHome_of_isAbsolute {target : String}
    (h : (Path.ofString target).isAbsolute = true) : ¬NeedsHome target := by
  intro hneeds
  rw [hneeds.isAbsolute] at h
  cases h

namespace Context

theorem expanded_of_needsHome {ctx : Context} {target : String} (hhome : ctx.home = none)
    (h : NeedsHome target) : ctx.expanded target = target := by
  have hexpanded := expandTilde_eq_error_iff.mpr ⟨⟨hhome, h⟩, rfl⟩
  simp only [expanded, hexpanded]

theorem expandTilde_eq_expanded {ctx : Context} {target : String}
    (h : ¬(ctx.home = none ∧ NeedsHome target)) :
    expandTilde target ctx.home = .ok (ctx.expanded target) := by
  cases hexpanded : expandTilde target ctx.home with
  | ok expanded => simp only [Context.expanded, hexpanded]
  | error d => exact absurd (expandTilde_eq_error_iff.mp hexpanded).1 h

end Context

/-- The warning that there is no home directory. -/
theorem Diagnostic.homeNotSet_line : homeNotSet.line = Text.utf8 "cd: HOME not set\n" := by
  decide +kernel

/-! ## One `cd` -/

namespace Builtin
variable {ctx : Context} {fs : FileSystem} {target : String}

/-- A directory is entered where the path leads. -/
theorem enter_of_directory {m : Metadata}
    (hm : fs.metadata (ctx.resolve (Path.ofString target)) = .ok m) (hkind : m.kind = .directory) :
    enter target ctx fs =
      let directory := fs.destination (ctx.resolve (Path.ofString target))
      { answer := .ok .silent
        context := { ctx with cwd := directory }
        events := [.directoryChanged ctx.cwd directory] } := by
  simp only [enter, hm, hkind, if_true]
  rfl

/-- Anything else is reported. -/
theorem enter_of_not_directory {m : Metadata}
    (hm : fs.metadata (ctx.resolve (Path.ofString target)) = .ok m) (hkind : m.kind ≠ .directory) :
    enter target ctx fs = { answer := .error (.notADirectory target), context := ctx } := by
  simp only [enter, hm, hkind, if_false]

theorem enter_of_error {fault : Fault}
    (hm : fs.metadata (ctx.resolve (Path.ofString target)) = .error fault) :
    enter target ctx fs = { answer := .error (.noSuchDirectory target), context := ctx } := by
  simp only [enter, hm]

variable {δ : Type} {write : δ → Bytes → Option Fault × δ} {diag : δ}

/-- A `cd` whose target can be expanded asks nothing of the stream for warnings. -/
theorem run_cd_of_expanded {expanded : String} (h : expandTilde target ctx.home = .ok expanded) :
    cd.run write [target] ctx fs diag = (enter expanded ctx fs, diag) := by
  simp only [run, changeDirectory, h]

/-- A `cd` enters its target, after a warning if it needs a home directory and there is none. -/
theorem run_cd_eq (hwritable : (write diag (Text.utf8 "cd: HOME not set\n")).1 = none) :
    cd.run write [target] ctx fs diag =
      (enter (ctx.expanded target) ctx fs,
        if ctx.home = none ∧ NeedsHome target then
          (write diag (Text.utf8 "cd: HOME not set\n")).2 else diag) := by
  by_cases hwarns : ctx.home = none ∧ NeedsHome target
  · have hexpanded := expandTilde_eq_error_iff.mpr ⟨hwarns, rfl⟩
    rcases hwrite : write diag (Text.utf8 "cd: HOME not set\n") with ⟨fault, after⟩
    rw [hwrite] at hwritable
    obtain rfl : fault = none := hwritable
    simp only [run, changeDirectory, hexpanded, Diagnostic.homeNotSet_line, hwrite]
    rw [if_pos hwarns, Context.expanded_of_needsHome hwarns.1 hwarns.2]
  · rw [run_cd_of_expanded (Context.expandTilde_eq_expanded hwarns), if_neg hwarns]

end Builtin

/-! ## Staying where one is -/

namespace Context
variable {ctx : Context} {fs : FileSystem}

/-- A `cd` to the target says nothing and leaves everything as it is, whatever stream takes its
warnings. -/
def Stays (ctx : Context) (fs : FileSystem) (target : String) : Prop :=
  ∀ (δ : Type) (write : δ → Bytes → Option Fault × δ) (diag : δ),
    let (result, after) := Builtin.cd.run write [target] ctx fs diag
    result.answer = .ok .silent ∧ result.context = ctx ∧ after = diag

/-- One stays with a target that leads to where one is. -/
theorem stays_of_destination {target expanded : String} {m : Metadata}
    (hexpanded : expandTilde target ctx.home = .ok expanded)
    (hm : fs.metadata (ctx.resolve (Path.ofString expanded)) = .ok m)
    (hkind : m.kind = .directory)
    (hcwd : fs.destination (ctx.resolve (Path.ofString expanded)) = ctx.cwd) :
    ctx.Stays fs target := by
  intro δ write diag
  rw [Builtin.run_cd_of_expanded hexpanded, Builtin.enter_of_directory hm hkind, hcwd]
  exact ⟨rfl, rfl, rfl⟩

/-- The working directory is the canonical path of the directory that `path` names. -/
structure Settled (ctx : Context) (fs : FileSystem) (path : Path) : Prop where
  absolute : ctx.cwd.isAbsolute = true
  /-- The two name the same directory. -/
  same : fs.locate [] ctx.cwd = fs.locate [] path
  canonical : fs.canonical ctx.cwd = .ok ctx.cwd
  directory : ∃ m, fs.metadata ctx.cwd = .ok m ∧ m.kind = .directory
  nothing : ctx.Stays fs ""
  own {text : String} : Text.utf8 text = ctx.cwd.bytes → ctx.Stays fs text
  /-- To look up `.` in a directory one has to search it. -/
  dot {m : Metadata} : fs.metadata ctx.cwd = .ok m → ownerExecutes m.mode = true → ctx.Stays fs "."
  dotRefused {m : Metadata} : fs.metadata ctx.cwd = .ok m → ownerExecutes m.mode = false →
    ∀ (δ : Type) (write : δ → Bytes → Option Fault × δ) (diag : δ),
      Builtin.cd.run write ["."] ctx fs diag =
        ({ answer := .error (.noSuchDirectory "."), context := ctx }, diag)

/-- The working directory is the path of a directory, and there is room behind it. -/
structure Within (ctx : Context) (fs : FileSystem) (place : Place) : Prop where
  entered : fs.Entered place
  cwd : ctx.cwd = place.path
  noZero : place.path.hasZeroByte = false
  length : place.path.bytes.length + 2 ≤ maxPath

namespace Within
variable {place : Place}

theorem locate_cwd (h : ctx.Within fs place) : fs.locate [] ctx.cwd = .ok place := by
  rw [h.cwd]
  exact h.entered.locate_path (Nat.le_trans (Nat.le_add_right _ 2) h.length)

theorem canonical_cwd (h : ctx.Within fs place) : fs.canonical ctx.cwd = .ok ctx.cwd := by
  rw [h.cwd]
  exact h.entered.canonical_path h.noZero (Nat.le_trans (Nat.le_add_right _ 2) h.length)

theorem metadata_cwd (h : ctx.Within fs place) : fs.metadata ctx.cwd = .ok (fs.metadataAt place) :=
  FileSystem.metadata_of_locate (h.cwd ▸ h.noZero) h.locate_cwd

/-- The mode that is asked for decides whether one may search. -/
theorem maySearch (h : ctx.Within fs place) {m : Metadata} (hm : fs.metadata ctx.cwd = .ok m) :
    fs.maySearch place = ownerExecutes m.mode := by
  rw [h.metadata_cwd, Except.ok.injEq] at hm
  rw [← hm, h.entered.maySearch_eq]

/-- One stays with a target that has the working directory for its canonical path. -/
theorem stays {target : String} (h : ctx.Within fs place) (hhome : ¬NeedsHome target)
    (hplace : fs.locate [] (ctx.resolve (Path.ofString target)) = .ok place)
    (hcanonical : fs.canonical (ctx.resolve (Path.ofString target)) = .ok place.path) :
    ctx.Stays fs target := by
  obtain ⟨hzero, -⟩ := FileSystem.canonical_eq_ok_iff.mp hcanonical
  refine stays_of_destination (expandTilde_of_not_needsHome hhome ctx.home)
    (FileSystem.metadata_of_locate hzero hplace) h.entered.metadataAt ?_
  rw [FileSystem.destination_of_canonical hcanonical, h.cwd]

theorem stays_nothing (h : ctx.Within fs place) : ctx.Stays fs "" := by
  have hlength : place.path.bytes.length + 1 ≤ maxPath :=
    Nat.le_trans (Nat.le_add_right _ 1) h.length
  refine h.stays (by decide) ?_ ?_
  · rw [resolve, h.cwd]
    exact h.entered.locate_join_empty hlength
  · rw [resolve, h.cwd]
    exact h.entered.canonical_join_empty h.noZero hlength

theorem stays_own (h : ctx.Within fs place) {text : String}
    (htext : Text.utf8 text = ctx.cwd.bytes) : ctx.Stays fs text := by
  have hsame : Path.ofString text = ctx.cwd := congrArg Path.mk htext
  have habsolute : ctx.cwd.isAbsolute = true := h.cwd ▸ place.isAbsolute_path
  have hresolve : ctx.resolve (Path.ofString text) = ctx.cwd := by
    rw [hsame, resolve_of_isAbsolute _ habsolute]
  refine h.stays (not_needsHome_of_isAbsolute (hsame ▸ habsolute)) ?_ ?_
  · rw [hresolve, h.locate_cwd]
  · rw [hresolve, h.canonical_cwd, h.cwd]

theorem stays_dot (h : ctx.Within fs place) (hsearch : fs.maySearch place = true) :
    ctx.Stays fs "." := by
  refine h.stays (by decide) ?_ ?_
  · rw [resolve, h.cwd, h.entered.locate_join_dot h.length, hsearch, if_pos rfl]
  · rw [resolve, h.cwd]
    exact h.entered.canonical_join_dot hsearch h.noZero h.length

/-- In a directory that may not be searched `.` is not found. -/
theorem run_cd_dot (h : ctx.Within fs place) (hsearch : fs.maySearch place = false) {δ : Type}
    (write : δ → Bytes → Option Fault × δ) (diag : δ) :
    Builtin.cd.run write ["."] ctx fs diag =
      ({ answer := .error (.noSuchDirectory "."), context := ctx }, diag) := by
  have hzero : (ctx.resolve (Path.ofString ".")).hasZeroByte = false := by
    rw [resolve, h.cwd]
    exact Place.hasZeroByte_join h.noZero rfl
  have hdenied : fs.locate [] (ctx.resolve (Path.ofString ".")) = .error .accessDenied := by
    rw [resolve, h.cwd, h.entered.locate_join_dot h.length, hsearch]
    rfl
  have hexpanded := expandTilde_of_not_needsHome (by decide : ¬NeedsHome ".") ctx.home
  rw [Builtin.run_cd_of_expanded hexpanded,
    Builtin.enter_of_error (FileSystem.metadata_of_locate_error hzero hdenied)]

/-- One is settled at the path of a directory. -/
theorem settled (h : ctx.Within fs place) {path : Path} (hpath : fs.locate [] path = .ok place) :
    ctx.Settled fs path where
  absolute := h.cwd ▸ place.isAbsolute_path
  same := h.locate_cwd.trans hpath.symm
  canonical := h.canonical_cwd
  directory := ⟨_, h.metadata_cwd, h.entered.metadataAt⟩
  nothing := h.stays_nothing
  own := h.stays_own
  dot hm hexecutes := h.stays_dot ((h.maySearch hm).trans hexecutes)
  dotRefused hm hexecutes _ := h.run_cd_dot ((h.maySearch hm).trans hexecutes)

end Within

end Context

/-! ## The whole of it -/

namespace Builtin
variable {ctx : Context} {fs : FileSystem} {target : String}

/-- A `cd` that is carried out has found a directory. -/
theorem enter_answer_iff :
    (enter target ctx fs).answer = .ok .silent ↔
      ∃ m, fs.metadata (ctx.resolve (Path.ofString target)) = .ok m ∧ m.kind = .directory := by
  cases hm : fs.metadata (ctx.resolve (Path.ofString target)) with
  | error fault => simp [enter_of_error hm]
  | ok m =>
    by_cases hkind : m.kind = .directory
    · simp [enter_of_directory hm hkind, hkind]
    · simp [enter_of_not_directory hm hkind, hkind]

/-- One that is not stays, and says whether there is anything at all. -/
theorem enter_turned_down (h : (enter target ctx fs).answer ≠ .ok .silent) :
    (enter target ctx fs).context = ctx ∧
      (enter target ctx fs).answer =
        match fs.metadata (ctx.resolve (Path.ofString target)) with
        | .ok _ => .error (.notADirectory target)
        | .error _ => .error (.noSuchDirectory target) := by
  cases hm : fs.metadata (ctx.resolve (Path.ofString target)) with
  | error fault =>
    rw [enter_of_error hm]
    exact ⟨rfl, rfl⟩
  | ok m =>
    have hkind : m.kind ≠ .directory := fun hkind => h (enter_answer_iff.mpr ⟨m, hm, hkind⟩)
    rw [enter_of_not_directory hm hkind]
    exact ⟨rfl, rfl⟩

/-- One that is carried out goes where the path leads. -/
theorem enter_carried_out (h : (enter target ctx fs).answer = .ok .silent) :
    (enter target ctx fs).context =
      { ctx with cwd := fs.destination (ctx.resolve (Path.ofString target)) } := by
  obtain ⟨m, hm, hkind⟩ := enter_answer_iff.mp h
  exact enter_context_of_directory hm hkind

/-- At a canonical path one is settled. -/
theorem enter_settled (h : (enter target ctx fs).answer = .ok .silent) {d d' : Path}
    (hd : fs.canonical (ctx.resolve (Path.ofString target)) = .ok d)
    (hd' : fs.canonical (enter target ctx fs).context.cwd = .ok d')
    (hlength : (enter target ctx fs).context.cwd.bytes.length + 2 ≤ maxPath) :
    (enter target ctx fs).context.Settled fs (ctx.resolve (Path.ofString target)) := by
  obtain ⟨m, hm, hkind⟩ := enter_answer_iff.mp h
  obtain ⟨place, hentered, -, hplace⟩ := FileSystem.exists_entered hm hkind
  obtain ⟨-, -, place', hplace', rfl⟩ := FileSystem.canonical_eq_ok_iff.mp hd
  obtain rfl : place = place' := Except.ok.inj (hplace.symm.trans hplace')
  have hcwd : (enter target ctx fs).context.cwd = place.path := by
    rw [enter_carried_out h, FileSystem.destination_of_canonical hd]
  obtain ⟨hzero, -⟩ := FileSystem.canonical_eq_ok_iff.mp hd'
  rw [hcwd] at hzero hlength
  exact Context.Within.settled ⟨hentered, hcwd, hzero, hlength⟩ hplace

/-- What is absolute once it is written out needs no home directory, or has one. -/
theorem expandTilde_of_isAbsolute (h : (Path.ofString (ctx.expanded target)).isAbsolute = true) :
    expandTilde target ctx.home = .ok (ctx.expanded target) := by
  refine Context.expandTilde_eq_expanded ?_
  rintro ⟨hhome, hneeds⟩
  rw [Context.expanded_of_needsHome hhome hneeds] at h
  exact not_needsHome_of_isAbsolute h hneeds

/-- To repeat a `cd` to an absolute target changes nothing. -/
theorem enter_stays {expanded : String} (hexpanded : expandTilde target ctx.home = .ok expanded)
    (habsolute : (Path.ofString expanded).isAbsolute = true)
    (h : (enter expanded ctx fs).answer = .ok .silent) :
    (enter expanded ctx fs).context.Stays fs target := by
  obtain ⟨m, hm, hkind⟩ := enter_answer_iff.mp h
  have hresolve : ∀ ctx' : Context, ctx'.resolve (Path.ofString expanded) =
      Path.ofString expanded := fun ctx' => ctx'.resolve_of_isAbsolute habsolute
  rw [enter_carried_out h, hresolve]
  rw [hresolve] at hm
  refine Context.stays_of_destination hexpanded ?_ hkind ?_
  · rw [hresolve]
    exact hm
  · rw [hresolve]

/-- **What a `cd` comes to**, if its warning is taken.  Only a target that needs a home directory
makes for a warning, and only if there is none; the target is then used as typed.  It succeeds
exactly if what the target names, seen from the working directory, is a directory, and the working
directory is then the canonical path of that, or the path as it is if it has none; otherwise
nothing is changed and the error says whether there is anything at all.  After a `cd` that has come
to a canonical path, as long as that can be asked about and is not too long, one is settled there;
and after any that has succeeded, to repeat it with an absolute target changes nothing. -/
theorem run_cd {δ : Type} (write : δ → Bytes → Option Fault × δ) (target : String) (ctx : Context)
    (fs : FileSystem) (diag : δ)
    (hwritable : (write diag (Text.utf8 "cd: HOME not set\n")).1 = none) :
    let expanded := ctx.expanded target
    let path := ctx.resolve (Path.ofString expanded)
    let (result, after) := cd.run write [target] ctx fs diag
    (ctx.home = none → NeedsHome target →
      expanded = target ∧ after = (write diag (Text.utf8 "cd: HOME not set\n")).2) ∧
    (¬(ctx.home = none ∧ NeedsHome target) →
      expandTilde target ctx.home = .ok expanded ∧ after = diag) ∧
    (result.answer = .ok .silent ↔ ∃ m, fs.metadata path = .ok m ∧ m.kind = .directory) ∧
    (result.answer = .ok .silent → result.context = { ctx with cwd := fs.destination path }) ∧
    (result.answer ≠ .ok .silent → result.context = ctx ∧
      result.answer =
        match fs.metadata path with
        | .ok _ => .error (.notADirectory expanded)
        | .error _ => .error (.noSuchDirectory expanded)) ∧
    (result.answer = .ok .silent → (∃ d, fs.canonical path = .ok d) →
      (∃ d, fs.canonical result.context.cwd = .ok d) →
      result.context.cwd.bytes.length + 2 ≤ maxPath → result.context.Settled fs path) ∧
    (result.answer = .ok .silent → (Path.ofString expanded).isAbsolute = true →
      result.context.Stays fs target) := by
  rw [run_cd_eq hwritable]
  refine ⟨fun hhome hneeds => ⟨Context.expanded_of_needsHome hhome hneeds, if_pos ⟨hhome, hneeds⟩⟩,
    fun hnot => ⟨Context.expandTilde_eq_expanded hnot, if_neg hnot⟩, enter_answer_iff,
    enter_carried_out, enter_turned_down, ?_, ?_⟩
  · rintro hsucceeds ⟨d, hd⟩ ⟨d', hd'⟩ hlength
    exact enter_settled hsucceeds hd hd' hlength
  · intro hsucceeds habsolute
    exact enter_stays (expandTilde_of_isAbsolute habsolute) habsolute hsucceeds

/-- Without a home directory `~/l` is the link `l` in the directory `~`, which leads to `a` beside
it. -/
theorem run_cd_link :
    let files := ((FileSystem.empty.put [Text.utf8 "a"] (.directory FileSystem.directoryMode)).put
      [Text.utf8 "~"] (.directory FileSystem.directoryMode)).put
      [Text.utf8 "l", Text.utf8 "~"] (.link (Path.ofString "../a/."))
    let ctx : Context := ⟨Path.ofString "/", none, []⟩
    let write : Bytes → Bytes → Option Fault × Bytes :=
      fun gathered bytes => (none, gathered ++ bytes)
    let (result, after) := cd.run write ["~/l"] ctx files []
    (write [] (Text.utf8 "cd: HOME not set\n")).1 = none ∧
      result.answer = .ok .silent ∧ result.context = { ctx with cwd := Path.ofString "/a" } ∧
      after = Text.utf8 "cd: HOME not set\n" ∧
      result.context.Stays files "" ∧ result.context.Stays files "/a" ∧
      result.context.Stays files "." := by
  intro files ctx write
  have hwritable : (write [] (Text.utf8 "cd: HOME not set\n")).1 = none := rfl
  obtain ⟨hwarned, -, hsucceeds, -, -, hsettled, -⟩ := run_cd write "~/l" ctx files [] hwritable
  have hanswer := hsucceeds.mpr ⟨⟨.directory, FileSystem.directoryMode⟩, by decide +kernel, rfl⟩
  have hcontext : (cd.run write ["~/l"] ctx files []).1.context =
      { ctx with cwd := Path.ofString "/a" } := by decide +kernel
  have hsettled := hsettled hanswer ⟨Path.ofString "/a", by decide +kernel⟩
    ⟨Path.ofString "/a", by decide +kernel⟩ (by decide +kernel)
  obtain ⟨m, hm, -⟩ := hsettled.directory
  have hmode : m = ⟨.directory, FileSystem.directoryMode⟩ :=
    Except.ok.inj (hm.symm.trans (by decide +kernel))
  exact ⟨hwritable, hanswer, hcontext, (hwarned rfl (by decide)).2.trans (by decide +kernel),
    hsettled.nothing, hsettled.own (by decide +kernel), hsettled.dot hm (by rw [hmode]; rfl)⟩

end Builtin

/-- A tree with one directory, which may not be searched. -/
def FileSystem.unsearchable : FileSystem := empty.put [Text.utf8 "d"] (.directory 0o600)

/-- Every directory of it has a canonical path, absolute, of the same directory, and its own
canonical path. -/
theorem FileSystem.unsearchable_canonical {p : Path} {m : Metadata}
    (hm : unsearchable.metadata p = .ok m) (hkind : m.kind = .directory) :
    ∃ d, unsearchable.canonical p = .ok d ∧ d.isAbsolute = true ∧
      unsearchable.locate [] d = unsearchable.locate [] p ∧ unsearchable.canonical d = .ok d := by
  have honly : ∀ place node, unsearchable.node? place = some node →
      place = [] ∨ place = [Text.utf8 "d"] := by
    intro place node hnode
    by_cases hd : place = [Text.utf8 "d"]
    · exact .inr hd
    · rw [unsearchable, node?_put_of_ne _ _ hd] at hnode
      cases place with
      | nil => exact .inl rfl
      | cons name parent => cases hnode
  have hshort : ∀ place node, unsearchable.node? place = some node →
      place.path.bytes.length + 1 ≤ maxPath := by
    intro place node hnode
    rcases honly place node hnode with rfl | rfl <;> decide +kernel
  obtain ⟨place, hentered, hzero, hplace⟩ := exists_entered hm hkind
  have hcanonical := canonical_of_short hzero hplace hshort
  refine ⟨place.path, hcanonical, canonical_canonical hm hkind hcanonical ?_⟩
  obtain ⟨node, hnode⟩ : ∃ node, unsearchable.node? place = some node := by
    cases hentered with
    | root => exact ⟨_, rfl⟩
    | child _ _ _ hnode => exact ⟨_, hnode⟩
  rcases honly place node hnode with rfl | rfl <;> decide +kernel

/-- Two `cd` that succeed.  A directory that may not be searched is entered all the same, and `.`
is not found there: a `cd` to `.` fails behind one that has succeeded, though every directory has
its canonical path.  And a directory without a canonical path is entered at the path that led
there, which is not that of its place. -/
theorem Builtin.run_cd_unsearchable_and_deep :
    let write : Bytes → Bytes → Option Fault × Bytes :=
      fun gathered bytes => (none, gathered ++ bytes)
    let moved := (cd.run write ["d"] ⟨Path.ofString "/", none, []⟩ .unsearchable []).1
    let deep : Context := ⟨FileSystem.deepDetour, none, []⟩
    let q := FileSystem.deepDetour.join (Path.ofString "z")
    let down := (cd.run write ["z"] deep .deepTree []).1
    ((∀ p m, FileSystem.unsearchable.metadata p = .ok m → m.kind = .directory →
        ∃ d, FileSystem.unsearchable.canonical p = .ok d ∧ d.isAbsolute = true ∧
          FileSystem.unsearchable.locate [] d = FileSystem.unsearchable.locate [] p ∧
          FileSystem.unsearchable.canonical d = .ok d) ∧
      moved.answer = .ok .silent ∧ moved.context.cwd = Path.ofString "/d" ∧
      (cd.run write ["."] moved.context .unsearchable []).1.answer =
        .error (.noSuchDirectory ".")) ∧
    down.answer = .ok .silent ∧ FileSystem.deepTree.locate [] q = .ok FileSystem.deepPlace ∧
      (∀ d, FileSystem.deepTree.canonical q ≠ .ok d) ∧ down.context.cwd = q ∧
      q ≠ FileSystem.deepPlace.path := by
  intro write moved deep q down
  refine ⟨⟨fun p m => FileSystem.unsearchable_canonical, by decide +kernel, by decide +kernel,
    by decide +kernel⟩, ?_⟩
  obtain ⟨hplace, hm, hcanonical⟩ := FileSystem.deepTree_z
  have hexpanded : expandTilde "z" deep.home = .ok "z" := by decide +kernel
  have hrun : cd.run write ["z"] deep .deepTree [] = (enter "z" deep .deepTree, []) :=
    run_cd_of_expanded hexpanded
  have hanswer : (enter "z" deep .deepTree).answer = .ok .silent :=
    enter_answer_iff.mpr ⟨_, hm, rfl⟩
  have hcwd : (enter "z" deep .deepTree).context.cwd = q := by
    have hresolve : deep.resolve (Path.ofString "z") = q := rfl
    rw [enter_carried_out hanswer, hresolve, FileSystem.destination_of_no_canonical hcanonical]
  simp only [down, hrun]
  exact ⟨hanswer, hplace, hcanonical, hcwd, by decide +kernel⟩

end LineShell
