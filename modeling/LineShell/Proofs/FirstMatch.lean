import LineShell.Proofs.Opening
import LineShell.Proofs.PathText
import LineShell.Proofs.Whereabouts
import Mathlib.Control.Monad.Basic

/-! # The first program on the search path

A verb without a slash is looked for behind every entry of the search path, and the program
found is the one behind the first entry that has one.  What is behind the entries before it
makes no difference, be it that nothing can be learned of it, that it is no regular file, or
that nobody may execute it.  So an entry without a program may as well be missing, and entries
that are added at the end change nothing that was found.

Of the context the lookup reads the search path and the working directory, and of these only
the working directory ever changes.  An entry that is not absolute is seen from there, and the
empty one is the working directory itself.
-/
namespace LineShell

/-! ## Relative paths -/

namespace Path

/-- Behind a directory and the empty path stands what stands behind the directory. -/
theorem join_join_empty (base : Path) {p : Path} (h : p.isAbsolute = false) :
    (base.join ⟨[]⟩).join p = base.join p := by
  have hempty : (⟨[]⟩ : Path).isAbsolute = false := rfl
  simp only [join, h, hempty]
  by_cases hends : (base.bytes.isEmpty || base.bytes.getLast? == some slash) = true
  · simp [hends]
  · simp [hends]

end Path

/-! ## The candidates -/

namespace FileSystem

/-- The path leads, links followed, to a regular file that someone may execute. -/
def NamesProgram (fs : FileSystem) (p : Path) : Prop :=
  p.hasZeroByte = false ∧ ∃ place data,
    fs.locate [] p = .ok place ∧ fs.file? place = some data ∧ data.mode &&& 0o111 ≠ 0

/-- What can be learned of a place tells whether a program is there. -/
theorem isExecutable_metadataAt_iff (fs : FileSystem) (place : Place) :
    (fs.metadataAt place).isExecutable = true ↔
      ∃ data, fs.file? place = some data ∧ data.mode &&& 0o111 ≠ 0 := by
  simp only [metadataAt, file?]
  cases fs.node? place with
  | none => simp [Metadata.isExecutable]
  | some node =>
    cases node with
    | directory mode => simp [Metadata.isExecutable]
    | link target => simp [Metadata.isExecutable]
    | device kind => simp [Metadata.isExecutable]
    | file n => cases hdata : fs.store[n]? <;> simp [Metadata.isExecutable, hdata]

theorem isProgram_iff (fs : FileSystem) (p : Path) :
    fs.isProgram p = true ↔ fs.NamesProgram p := by
  simp only [isProgram, NamesProgram, metadata, checked]
  cases hzero : p.hasZeroByte with
  | true => simp
  | false =>
    cases hplace : fs.locate [] p with
    | error e => simp [Except.map]
    | ok place => simp [Except.map, isExecutable_metadataAt_iff]

/-- Nothing can be learned of the path, or it leads to something else than a regular file, or to
one that nobody may execute. -/
def Lacks (fs : FileSystem) (p : Path) : Prop :=
  (∃ fault, fs.metadata p = .error fault) ∨
    ∃ m, fs.metadata p = .ok m ∧ (m.kind ≠ .regular ∨ m.mode &&& 0o111 = 0)

theorem Lacks.isProgram_eq_false {fs : FileSystem} {p : Path} (h : fs.Lacks p) :
    fs.isProgram p = false := by
  rcases h with ⟨fault, hfault⟩ | ⟨m, hm, hkind | hmode⟩
  · simp [isProgram, hfault]
  · simp [isProgram, hm, Metadata.isExecutable, hkind]
  · simp [isProgram, hm, Metadata.isExecutable, hmode]

end FileSystem

namespace Context
variable {ctx : Context} {fs : FileSystem} {name : String}

/-- Where a name is looked for behind an entry of the search path. -/
def candidate (ctx : Context) (entry : Path) (name : String) : Path :=
  (ctx.resolve entry).join (Path.ofString name)

/-- Behind the empty entry a name is looked for in the working directory itself. -/
theorem candidate_empty (ctx : Context) (hslash : '/' ∉ name.toList) :
    ctx.candidate ⟨[]⟩ name = ctx.cwd.join (Path.ofString name) :=
  ctx.cwd.join_join_empty (Path.isAbsolute_ofString hslash)

/-- A name is looked for on the search path if it has no slash and is not empty. -/
def IsBare (name : String) : Prop := name ≠ "" ∧ '/' ∉ name.toList

theorem findExecutable_of_isBare (ctx : Context) (fs : FileSystem) (h : IsBare name) :
    ctx.findExecutable fs name =
      (ctx.searchPath.map (ctx.candidate · name)).find? fs.isProgram := by
  rw [findExecutable_eq, if_neg h.1, if_neg h.2, List.map_map]
  rfl

/-- For other names the search path plays no part. -/
theorem findExecutable_of_not_isBare (ctx : Context) (fs : FileSystem) (h : ¬IsBare name)
    (searchPath : List Path) :
    { ctx with searchPath }.findExecutable fs name = ctx.findExecutable fs name := by
  rw [findExecutable_eq, findExecutable_eq]
  by_cases hname : name = ""
  · rw [if_pos hname, if_pos hname]
  · have hslash : '/' ∈ name.toList := Classical.not_not.mp fun hslash => h ⟨hname, hslash⟩
    simp only [hname, hslash, if_true, if_false]
    rfl

/-! ## The first candidate that is a program -/

/-- There is a program behind the entry number `i` of the search path, at `p`, and none behind
the entries before. -/
def FirstAt (ctx : Context) (fs : FileSystem) (name : String) (i : Nat) (p : Path) : Prop :=
  ∃ entry, ctx.searchPath[i]? = some entry ∧ p = ctx.candidate entry name ∧ fs.NamesProgram p ∧
    ∀ j < i, ∀ earlier, ctx.searchPath[j]? = some earlier →
      ¬fs.NamesProgram (ctx.candidate earlier name)

theorem find?_candidate_eq_some_iff {p : Path} :
    (ctx.searchPath.map (ctx.candidate · name)).find? fs.isProgram = some p ↔
      ∃ i, ctx.FirstAt fs name i p := by
  rw [List.find?_eq_some_iff_getElem]
  constructor
  · rintro ⟨hp, i, hi, rfl, hbefore⟩
    rw [List.length_map] at hi
    rw [List.getElem_map] at hp
    refine ⟨i, ctx.searchPath[i], List.getElem?_eq_getElem hi, List.getElem_map _,
      ?_, fun j hj earlier hearlier hprogram => ?_⟩
    · rwa [List.getElem_map, ← fs.isProgram_iff]
    · obtain ⟨hlt, rfl⟩ := List.getElem?_eq_some_iff.mp hearlier
      have hnot := hbefore j hj
      rw [List.getElem_map, (fs.isProgram_iff _).mpr hprogram] at hnot
      exact absurd hnot (by decide)
  · rintro ⟨i, entry, hentry, rfl, hp, hbefore⟩
    obtain ⟨hi, rfl⟩ := List.getElem?_eq_some_iff.mp hentry
    refine ⟨(fs.isProgram_iff _).mpr hp, i, by rwa [List.length_map], List.getElem_map _,
      fun j hj => ?_⟩
    have hlt : j < ctx.searchPath.length := Nat.lt_trans hj hi
    have hnot := hbefore j hj _ (List.getElem?_eq_getElem hlt)
    rw [← fs.isProgram_iff, Bool.not_eq_true] at hnot
    rw [List.getElem_map, hnot, Bool.not_false]

/-- What is found, for names of any kind. -/
theorem findExecutable_eq_some_iff {p : Path} :
    ctx.findExecutable fs name = some p ↔
      name ≠ "" ∧
        ('/' ∈ name.toList ∧ p = ctx.resolve (Path.ofString name) ∧ fs.NamesProgram p ∨
          '/' ∉ name.toList ∧ ∃ i, ctx.FirstAt fs name i p) := by
  by_cases hbare : IsBare name
  · rw [findExecutable_of_isBare ctx fs hbare, find?_candidate_eq_some_iff]
    constructor
    · exact fun h => ⟨hbare.1, .inr ⟨hbare.2, h⟩⟩
    · rintro ⟨-, ⟨hslash, -⟩ | ⟨-, h⟩⟩
      · exact absurd hslash hbare.2
      · exact h
  · rw [findExecutable_eq]
    by_cases hname : name = ""
    · simp [hname]
    have hslash : '/' ∈ name.toList := Classical.not_not.mp fun hslash => hbare ⟨hname, hslash⟩
    rw [if_neg hname, if_pos hslash, List.find?_singleton]
    constructor
    · intro h
      split at h
      · next hprogram =>
        obtain rfl := Option.some.inj h
        exact ⟨hname, .inl ⟨hslash, rfl, (fs.isProgram_iff _).mp hprogram⟩⟩
      · cases h
    · rintro ⟨-, ⟨-, rfl, hp⟩ | ⟨hnot, -⟩⟩
      · rw [if_pos ((fs.isProgram_iff _).mpr hp)]
      · exact absurd hslash hnot

/-- An entry behind which there is no program may as well be missing. -/
theorem findExecutable_of_lacks {before after : List Path} {entry : Path}
    (hpath : ctx.searchPath = before ++ entry :: after)
    (hentry : fs.Lacks (ctx.candidate entry name)) :
    ctx.findExecutable fs name =
      { ctx with searchPath := before ++ after }.findExecutable fs name := by
  by_cases hbare : IsBare name
  · have hnot : ¬fs.isProgram (ctx.candidate entry name) = true := by
      rw [hentry.isProgram_eq_false]
      decide
    rw [findExecutable_of_isBare _ _ hbare, findExecutable_of_isBare _ _ hbare, hpath,
      List.map_append, List.map_cons, List.find?_append, List.find?_cons_of_neg hnot,
      ← List.find?_append, ← List.map_append]
    rfl
  · exact (findExecutable_of_not_isBare ctx fs hbare _).symm

/-- Entries at the end change nothing that was found. -/
theorem findExecutable_append {p : Path} (h : ctx.findExecutable fs name = some p)
    (more : List Path) :
    { ctx with searchPath := ctx.searchPath ++ more }.findExecutable fs name = some p := by
  by_cases hbare : IsBare name
  · rw [findExecutable_of_isBare _ _ hbare] at h ⊢
    rw [List.map_append, List.find?_append]
    exact Option.or_eq_some_iff.mpr (.inl h)
  · rwa [findExecutable_of_not_isBare ctx fs hbare]

/-- The lookup reads the working directory and the search path, and nothing else. -/
theorem findExecutable_congr_home (ctx : Context) (fs : FileSystem) (name : String)
    (home : Option Path) :
    { ctx with home }.findExecutable fs name = ctx.findExecutable fs name := rfl

end Context

/-- **The search path is searched for the first match.**  A name with a slash is a path of its
own; any other is found behind the first entry behind which there is a program, the empty entry
standing for the working directory.  Entries of which nothing can be learned, or behind which
there is no regular file or one that nobody may execute, are passed over, wherever they stand;
and what was found is found again if entries are added at the end.  After any steps of a session
the search finds what it finds in a context made afresh for the working directory of then. -/
theorem Context.findExecutable_first (ctx : Context) (fs : FileSystem) (name : String) :
    (∀ p, ctx.findExecutable fs name = some p ↔
      name ≠ "" ∧
        ('/' ∈ name.toList ∧ p = ctx.resolve (Path.ofString name) ∧ fs.NamesProgram p ∨
          '/' ∉ name.toList ∧ ∃ i, ctx.FirstAt fs name i p)) ∧
    ('/' ∉ name.toList → ctx.candidate ⟨[]⟩ name = ctx.cwd.join (Path.ofString name)) ∧
    (∀ before entry after, ctx.searchPath = before ++ entry :: after →
      fs.Lacks (ctx.candidate entry name) →
      ctx.findExecutable fs name =
        { ctx with searchPath := before ++ after }.findExecutable fs name) ∧
    (∀ p, ctx.findExecutable fs name = some p → ∀ more,
      { ctx with searchPath := ctx.searchPath ++ more }.findExecutable fs name = some p) ∧
    ∀ {ω ε : Type} [Writer ω] [Writer ε] (s : Session ω ε) (launcher : Launcher)
      (steps : List Step) (home : Option Path),
      let there := (s.run launcher steps).context
      there.findExecutable fs name =
        (Context.mk there.cwd home s.context.searchPath).findExecutable fs name := by
  refine ⟨fun p => findExecutable_eq_some_iff, candidate_empty ctx,
    fun before entry after hpath hentry => findExecutable_of_lacks hpath hentry,
    fun p h more => findExecutable_append h more, ?_⟩
  intro ω ε _ _ s launcher steps home there
  rw [← (s.retains_run launcher steps).searchPath]
  exact there.findExecutable_congr_home fs name home

/-- From `/w` a directory `tool` and a file `f` stand in the way, and `bin/tool`, a link to a
program, is found; from `/` nothing is. -/
theorem Context.findExecutable_first_link :
    let directory := Node.directory FileSystem.directoryMode
    let files := ((((((FileSystem.empty.put [Text.utf8 "w"] directory).put
      [Text.utf8 "tool", Text.utf8 "w"] directory).put
      [Text.utf8 "bin", Text.utf8 "w"] directory).create
      [Text.utf8 "f", Text.utf8 "w"] { mode := 0o755, content := [] }).create
      [Text.utf8 "real", Text.utf8 "w"] { mode := 0o001, content := [] }).put
      [Text.utf8 "tool", Text.utf8 "bin", Text.utf8 "w"] (.link (Path.ofString "../real")))
    let s : Session Sink Sink := ⟨⟨Path.ofString "/", none,
      [Path.ofString "", Path.ofString "f", Path.ofString "bin"]⟩, files, {}, {}, []⟩
    let launcher : Launcher := fun _ _ => .error (.system .noEntry)
    let there := (s.run launcher [.command ⟨"cd", ["w"], none⟩]).context
    let program := Path.ofString "/w/bin/tool"
    s.context.findExecutable files "tool" = none ∧
      there.findExecutable files "tool" = some program ∧
      (∃ i, there.FirstAt files "tool" i program) ∧
      { there with searchPath := [Path.ofString "", Path.ofString "bin"] }.findExecutable files
        "tool" = some program ∧
      { there with searchPath := there.searchPath ++ [Path.ofString "/"] }.findExecutable files
        "tool" = some program ∧
      (Context.mk (Path.ofString "/w") none s.context.searchPath).findExecutable files "tool" =
        some program := by
  intro directory files s launcher there program
  obtain ⟨hiff, -, hlacks, happend, -⟩ := Context.findExecutable_first there files "tool"
  obtain ⟨-, -, -, -, hfresh⟩ := Context.findExecutable_first s.context files "tool"
  have hfound : there.findExecutable files "tool" = some program := by decide +kernel
  have hcwd : there.cwd = Path.ofString "/w" := by decide +kernel
  have hslash : '/' ∉ "tool".toList := by decide +kernel
  have hfile : files.metadata (there.candidate (Path.ofString "f") "tool") =
      .error (.system .notDirectory) := by decide +kernel
  refine ⟨by decide +kernel, hfound, ?_, ?_, happend program hfound _, ?_⟩
  · obtain ⟨-, ⟨habsurd, -⟩ | ⟨-, hfirst⟩⟩ := (hiff program).mp hfound
    · exact absurd habsurd hslash
    · exact hfirst
  · exact (hlacks [Path.ofString ""] (Path.ofString "f") [Path.ofString "bin"]
      (by decide +kernel) (.inl ⟨_, hfile⟩)).symm.trans hfound
  · rw [← hcwd]
    exact (hfresh s launcher _ none).symm.trans hfound

end LineShell
