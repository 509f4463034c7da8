import LineShell.Proofs.FileWriting
import LineShell.Search

/-! # What a tree keeps when its files are opened and written

Opening a file for writing empties it or makes it; writing changes what is in it.  Neither
removes anything, puts anything else in its place, or makes a program of what was none: the
tree only grows (`FileSystem.GrowsTo`).  In a tree that has grown a path leads where it led
before, but that a name that was missing may be there now, and the search for a program finds
the same as before.
-/
namespace LineShell
namespace FileSystem

/-! ## What the search asks of a tree -/

/-- Whether a path names a program, that is an executable file. -/
def isProgram (fs : FileSystem) (p : Path) : Bool :=
  match fs.metadata p with
  | .ok m => m.isExecutable
  | .error _ => false

/-- What goes wrong in a directory makes no difference to the search. -/
theorem findAmong_eq_find? (fs : FileSystem) (name : String) (directories : List Path) :
    (fs.findAmong name directories).1 =
      (directories.map (·.join (Path.ofString name))).find? fs.isProgram := by
  induction directories with
  | nil => rfl
  | cons directory rest ih =>
    rw [List.map_cons, List.find?_cons]
    cases hcandidate : fs.metadata (directory.join (Path.ofString name)) with
    | ok m =>
      cases hexecutable : m.isExecutable with
      | true => simp only [findAmong, findIn, isProgram, hcandidate, hexecutable, if_true]
      | false =>
        simp only [findAmong, findIn, isProgram, hcandidate, hexecutable, Bool.false_eq_true,
          if_false, ih]
    | error fault =>
      by_cases hkind : fault.kind = .notFound
      · simp only [findAmong, findIn, isProgram, hcandidate, hkind, if_true, ih]
      · simp only [findAmong, findIn, isProgram, hcandidate, hkind, if_false, ih]

end FileSystem

/-- A verb names a path itself, or else the first program behind the search path. -/
theorem Context.findExecutable_eq (ctx : Context) (fs : FileSystem) (name : String) :
    ctx.findExecutable fs name =
      if name = "" then none
      else (if '/' ∈ name.toList then [ctx.resolve (Path.ofString name)]
        else (ctx.searchPath.map ctx.resolve).map (·.join (Path.ofString name))).find?
          fs.isProgram := by
  simp only [findExecutable, search]
  split
  · rfl
  · split
    · rw [List.find?_cons, List.find?_nil]
      cases hpath : fs.metadata (ctx.resolve (Path.ofString name)) with
      | ok m =>
        cases hexecutable : m.isExecutable with
        | true => simp only [FileSystem.isProgram, hpath, hexecutable, if_true]
        | false =>
          simp only [FileSystem.isProgram, hpath, hexecutable, Bool.false_eq_true, if_false]
      | error fault => simp only [FileSystem.isProgram, hpath]
    · exact fs.findAmong_eq_find? name _

/-- Trees with the same programs are the same to the search. -/
theorem Context.findExecutable_congr {fs gs : FileSystem} (h : fs.isProgram = gs.isProgram)
    (ctx : Context) (name : String) : ctx.findExecutable fs name = ctx.findExecutable gs name := by
  rw [findExecutable_eq, findExecutable_eq, h]

/-- Seen from an absolute working directory every program has an absolute path. -/
theorem Context.isAbsolute_of_findExecutable {ctx : Context} {fs : FileSystem} {name : String}
    {p : Path} (hcwd : ctx.cwd.isAbsolute = true) (h : ctx.findExecutable fs name = some p) :
    p.isAbsolute = true := by
  have hresolve : ∀ q, (ctx.resolve q).isAbsolute = true := by
    intro q
    rw [resolve, Path.isAbsolute_join, hcwd, Bool.or_true]
  rw [findExecutable_eq] at h
  split at h
  · cases h
  · have hmem := List.mem_of_find?_eq_some h
    split at hmem
    · obtain rfl := List.mem_singleton.mp hmem
      exact hresolve _
    · rw [List.map_map, List.mem_map] at hmem
      obtain ⟨directory, -, rfl⟩ := hmem
      rw [Function.comp_apply, Path.isAbsolute_join, hresolve, Bool.or_true]

namespace FileSystem

/-! ## One name on the way -/

/-- What becomes of a name on the way before anything is looked up under it. -/
inductive Stride where
  /-- It does not lead away. -/
  | stay
  /-- It leads to the parent. -/
  | up
  | refused (e : Errno)
  /-- It is looked up. -/
  | enter

/-- The stride for a name that stands before `rest`, in a directory that can be searched or
not. -/
def stride (searchable : Bool) (purpose : Purpose) (name : Name) (rest : List Name) : Stride :=
  if name = [] then .stay
  else if !searchable then .refused .accessDenied
  else if name = Path.dot then .stay
  else if name = Path.dotDot then .up
  else if purpose = .making ∧ onlySlashes rest then .refused .isDirectory
  else if maxName < name.length then .refused .nameTooLong
  else .enter

theorem walkWith_cons (fs : FileSystem) (purpose : Purpose)
    (jump : Place → List Name → Except Errno Target) (here : Place) (name : Name)
    (rest : List Name) :
    fs.walkWith purpose jump here (name :: rest) =
      match stride (fs.maySearch here) purpose name rest with
      | .stay => fs.walkWith purpose jump here rest
      | .up => fs.walkWith purpose jump here.tail rest
      | .refused e => .error e
      | .enter =>
        match fs.node? (name :: here) with
        | none => if rest = [] then .ok (.absent here name) else .error .noEntry
        | some (.directory _) => fs.walkWith purpose jump (name :: here) rest
        | some (.link target) => jump (target.origin here) (target.names ++ rest)
        | some _ => if rest = [] then .ok (.found (name :: here)) else .error .notDirectory := by
  simp only [walkWith, stride]
  repeat' (first | rfl | split)

/-! ## Trees that grow -/

/-- Everything is kept where it is, and what is new are regular files that are no programs; a
file that was no program has not become one either, nor the other way round. -/
structure GrowsTo (fs gs : FileSystem) : Prop where
  kept {place : Place} {node : Node} : fs.node? place = some node → gs.node? place = some node
  fresh {place : Place} :
    fs.node? place = none → gs.node? place = none ∨ ∃ n, gs.node? place = some (.file n)
  programs (place : Place) : (gs.metadataAt place).isExecutable = (fs.metadataAt place).isExecutable

namespace GrowsTo
variable {fs gs hs : FileSystem}

theorem refl (fs : FileSystem) : fs.GrowsTo fs := ⟨id, .inl, fun _ => rfl⟩

theorem trans (h : fs.GrowsTo gs) (h' : gs.GrowsTo hs) : fs.GrowsTo hs where
  kept hnode := h'.kept (h.kept hnode)
  fresh hnone := by
    rcases h.fresh hnone with hstill | ⟨n, hfile⟩
    · exact h'.fresh hstill
    · exact .inr ⟨n, h'.kept hfile⟩
  programs place := (h'.programs place).trans (h.programs place)

/-- A new file is no directory, so nothing can be looked up in it. -/
theorem maySearch (h : fs.GrowsTo gs) (place : Place) : gs.maySearch place = fs.maySearch place := by
  simp only [FileSystem.maySearch]
  cases hnode : fs.node? place with
  | some node => rw [h.kept hnode]
  | none =>
    rcases h.fresh hnode with hstill | ⟨n, hfile⟩
    · rw [hstill]
    · rw [hfile]

/-- A directory that can be changed stays so. -/
theorem mayChange (h : fs.GrowsTo gs) {place : Place} (hchange : fs.mayChange place = true) :
    gs.mayChange place = true := by
  simp only [FileSystem.mayChange] at hchange ⊢
  cases hnode : fs.node? place with
  | none =>
    rw [hnode] at hchange
    cases hchange
  | some node =>
    rw [hnode] at hchange
    rw [h.kept hnode]
    exact hchange

end GrowsTo

/-- How the answer changes to the question where a path leads, in a tree that is now `gs`: what
was found is found again, and a name that was missing may have been made. -/
def Regrown (gs : FileSystem) : Except Errno Target → Except Errno Target → Prop
  | .ok (.found place), after => after = .ok (.found place)
  | .ok (.absent parent name), after =>
    after = .ok (.absent parent name) ∨
      after = .ok (.found (name :: parent)) ∧ ∃ n, gs.node? (name :: parent) = some (.file n)
  | .error _, after => ∃ e, after = .error e

theorem regrown_error (gs : FileSystem) (e e' : Errno) : gs.Regrown (.error e) (.error e') :=
  ⟨e', rfl⟩

namespace GrowsTo
variable {fs gs : FileSystem}

theorem walkWith (h : fs.GrowsTo gs) (purpose : Purpose)
    {jump jump' : Place → List Name → Except Errno Target}
    (hjump : ∀ here names, gs.Regrown (jump here names) (jump' here names)) (here : Place)
    (names : List Name) :
    gs.Regrown (fs.walkWith purpose jump here names) (gs.walkWith purpose jump' here names) := by
  induction names generalizing here with
  | nil => rfl
  | cons name rest ih =>
    rw [walkWith_cons, walkWith_cons, h.maySearch here]
    cases stride (fs.maySearch here) purpose name rest with
    | stay => exact ih here
    | up => exact ih here.tail
    | refused e => exact gs.regrown_error e e
    | enter =>
      cases hnode : fs.node? (name :: here) with
      | none =>
        -- a file that has been made there ends the way as a missing name did
        rcases h.fresh hnode with hstill | ⟨n, hfile⟩
        · simp only [hstill]
          split
          · exact .inl rfl
          · exact regrown_error _ _ _
        · simp only [hfile]
          split
          · exact .inr ⟨rfl, n, hfile⟩
          · exact regrown_error _ _ _
      | some node =>
        simp only [h.kept hnode]
        cases node with
        | directory mode => exact ih (name :: here)
        | link target => exact hjump _ _
        | file n =>
          dsimp only
          split
          · rfl
          · exact regrown_error _ _ _
        | device kind =>
          dsimp only
          split
          · rfl
          · exact regrown_error _ _ _

theorem walk (h : fs.GrowsTo gs) (purpose : Purpose) (links : Nat) (here : Place)
    (names : List Name) :
    gs.Regrown (fs.walk purpose links here names) (gs.walk purpose links here names) := by
  induction links generalizing here names with
  | zero => exact h.walkWith purpose (fun _ _ => regrown_error _ _ _) here names
  | succ links ih => exact h.walkWith purpose ih here names

/-- **Where a path leads** in a tree that has grown. -/
theorem resolve (h : fs.GrowsTo gs) (purpose : Purpose) (start : Place) (p : Path) :
    gs.Regrown (fs.resolve purpose start p) (gs.resolve purpose start p) := by
  simp only [FileSystem.resolve]
  split
  · exact regrown_error _ _ _
  · split
    · exact regrown_error _ _ _
    · exact h.walk purpose maxLinks _ _

end GrowsTo

/-! ## Missing names -/

/-- Nothing is there where a name is missing. -/
theorem node?_of_walkWith_absent {fs : FileSystem} {purpose : Purpose}
    {jump : Place → List Name → Except Errno Target} {parent : Place} {name : Name}
    (hjump : ∀ here names, jump here names = .ok (.absent parent name) →
      fs.node? (name :: parent) = none) {here : Place} {names : List Name}
    (h : fs.walkWith purpose jump here names = .ok (.absent parent name)) :
    fs.node? (name :: parent) = none := by
  induction names generalizing here with
  | nil => cases h
  | cons next rest ih =>
    rw [walkWith_cons] at h
    cases hstride : stride (fs.maySearch here) purpose next rest with
    | stay => exact ih (by simpa only [hstride] using h)
    | up => exact ih (by simpa only [hstride] using h)
    | refused e => simp [hstride] at h
    | enter =>
      simp only [hstride] at h
      split at h
      · next hnode =>
        split at h
        · cases h
          exact hnode
        · cases h
      · exact ih h
      · exact hjump _ _ h
      · split at h
        · cases h
        · cases h

theorem node?_of_walk_absent {fs : FileSystem} {purpose : Purpose} {links : Nat} {here : Place}
    {names : List Name} {parent : Place} {name : Name}
    (h : fs.walk purpose links here names = .ok (.absent parent name)) :
    fs.node? (name :: parent) = none := by
  induction links generalizing here names with
  | zero => exact node?_of_walkWith_absent (fun _ _ hjump => by cases hjump) h
  | succ links ih => exact node?_of_walkWith_absent (fun _ _ hjump => ih hjump) h

theorem node?_of_resolve_absent {fs : FileSystem} {purpose : Purpose} {start : Place} {p : Path}
    {parent : Place} {name : Name} (h : fs.resolve purpose start p = .ok (.absent parent name)) :
    fs.node? (name :: parent) = none := by
  simp only [resolve] at h
  split at h
  · cases h
  · split at h
    · cases h
    · exact node?_of_walk_absent h

/-- **No search is changed** by what only makes a tree grow. -/
theorem GrowsTo.isProgram {fs gs : FileSystem} (h : fs.GrowsTo gs) :
    gs.isProgram = fs.isProgram := by
  funext p
  have hregrown := h.resolve .finding [] p
  simp only [FileSystem.isProgram, metadata, checked, locate]
  cases p.hasZeroByte with
  | true => rfl
  | false =>
    cases hresolve : fs.resolve .finding [] p with
    | error e =>
      rw [hresolve] at hregrown
      obtain ⟨e', he'⟩ := hregrown
      rw [he']
      rfl
    | ok target =>
      rw [hresolve] at hregrown
      cases target with
      | found place =>
        have hfound : gs.resolve .finding [] p = .ok (.found place) := hregrown
        rw [hfound]
        exact h.programs place
      | absent parent name =>
        rcases hregrown with hstill | ⟨hmade, -⟩
        · rw [hstill]
          rfl
        · have hnone : fs.metadataAt (name :: parent) = ⟨.other, 0⟩ := by
            simp only [metadataAt, node?_of_resolve_absent hresolve]
          rw [hmade]
          exact (h.programs (name :: parent)).trans (by rw [hnone]; rfl)

/-! ## Opening and writing -/

/-- A change that leaves the permissions of a file alone. -/
theorem growsTo_modifyFile (fs : FileSystem) (n : Nat) {f : FileData → FileData}
    (hmode : ∀ d, (f d).mode = d.mode) : fs.GrowsTo (fs.modifyFile n f) := by
  have hmodes : ∀ m : Nat, ((fs.modifyFile n f).store[m]?).map FileData.mode =
      (fs.store[m]?).map FileData.mode := by
    intro m
    rw [modifyFile, List.getElem?_modify]
    cases fs.store[m]? with
    | none => rfl
    | some d =>
      refine congrArg some ?_
      dsimp only
      split
      · exact hmode d
      · rfl
  have hmetadata : (fs.modifyFile n f).metadataAt = fs.metadataAt := by
    funext place
    simp only [metadataAt, node?_modifyFile, hmodes]
  refine ⟨?_, ?_, fun place => by rw [hmetadata]⟩
  · intro place node h
    rw [node?_modifyFile]
    exact h
  · intro place h
    rw [node?_modifyFile]
    exact .inl h

/-- Writing makes a tree grow. -/
theorem growsTo_write (fs : FileSystem) (h : Handle) (bytes : Bytes) :
    fs.GrowsTo (fs.write h bytes).2.2 := by
  match h with
  | .within n position => exact fs.growsTo_modifyFile n fun _ => rfl
  | .atEnd n => exact fs.growsTo_modifyFile n fun _ => rfl
  | .device .null | .device .full => exact .refl fs

/-- A new file without the right to be executed. -/
theorem growsTo_create {fs : FileSystem} {place : Place} (h : fs.node? place = none)
    {data : FileData} (hdata : (⟨.regular, data.mode⟩ : Metadata).isExecutable = false) :
    fs.GrowsTo (fs.create place data) := by
  have hplace : place ≠ [] := by
    rintro rfl
    cases h
  have hself : (fs.create place data).node? place = some (.file fs.store.length) :=
    fs.node?_put_self _ hplace
  have hother : ∀ other, other ≠ place → (fs.create place data).node? other = fs.node? other :=
    fun other hne => fs.node?_put_of_ne _ hne
  have hnew : (⟨.regular, ((fs.store ++ [data])[fs.store.length]?.map FileData.mode).getD 0⟩ :
      Metadata).isExecutable = false := by
    rw [List.getElem?_concat_length]
    exact hdata
  refine ⟨?_, ?_, ?_⟩
  · intro other node hnode
    have hne : other ≠ place := by
      rintro rfl
      rw [h] at hnode
      cases hnode
    rw [hother other hne, hnode]
  · intro other hnone
    by_cases hother' : other = place
    · rw [hother']
      exact .inr ⟨_, hself⟩
    · rw [hother other hother']
      exact .inl hnone
  · intro other
    by_cases hother' : other = place
    · rw [hother']
      simp only [metadataAt, hself, h]
      exact hnew
    · simp only [metadataAt, hother other hother']
      split
      · rfl
      · next n _ =>
        -- a number that no file had so far may be that of the new one, which is no program
        rcases Nat.lt_trichotomy n fs.store.length with hlt | rfl | hgt
        · simp only [create, put, List.getElem?_append_left hlt]
        · refine hnew.trans ?_
          rw [List.getElem?_eq_none (Nat.le_refl _)]
          rfl
        · simp only [create, put]
          rw [List.getElem?_eq_none (by simp; omega), List.getElem?_eq_none (by omega)]
      · rfl
      · rfl
      · rfl

/-- The tree once the file with number `n` is open. -/
def afterOpening (fs : FileSystem) (mode : WriteMode) (n : Nat) : FileSystem :=
  match mode with
  | .overwrite => fs.modifyFile n fun d => { d with content := [], date := none }
  | .append => fs

theorem growsTo_afterOpening (fs : FileSystem) (mode : WriteMode) (n : Nat) :
    fs.GrowsTo (fs.afterOpening mode n) := by
  cases mode with
  | overwrite => exact fs.growsTo_modifyFile n fun _ => rfl
  | append => exact .refl fs

/-- How a place is opened. -/
theorem openPlace_cases {fs files : FileSystem} {mode : WriteMode} {place : Place}
    {handle : Handle} (h : fs.openPlace mode place = .ok (handle, files)) :
    (∃ n, fs.node? place = some (.file n) ∧
      ownerWrites ((fs.store[n]?.map FileData.mode).getD 0) = true ∧ handle = handleFor mode n ∧
      files = fs.afterOpening mode n) ∨
    ∃ kind, fs.node? place = some (.device kind) ∧ handle = .device kind ∧ files = fs := by
  unfold openPlace at h
  split at h
  · next n hnode =>
    split at h
    · next hwrites =>
      cases mode with
      | overwrite =>
        cases h
        exact .inl ⟨n, hnode, hwrites, rfl, rfl⟩
      | append =>
        cases h
        exact .inl ⟨n, hnode, hwrites, rfl, rfl⟩
    · cases h
  · next kind hnode =>
    cases h
    exact .inr ⟨kind, hnode, rfl, rfl⟩
  · cases h
  · cases h
  · cases h

/-- How a path is opened: it leads to what can be opened, or to a missing name of a directory
that can be changed. -/
theorem openFile_cases {fs files : FileSystem} {mode : WriteMode} {p : Path} {handle : Handle}
    (h : fs.openFile mode p = .ok (handle, files)) :
    p.hasZeroByte = false ∧
    ((∃ place, fs.resolve .making [] p = .ok (.found place) ∧
      fs.openPlace mode place = .ok (handle, files)) ∨
    ∃ parent name, fs.resolve .making [] p = .ok (.absent parent name) ∧
      fs.mayChange parent = true ∧ handle = handleFor mode fs.store.length ∧
      files = fs.create (name :: parent) { mode := fileMode, content := [] }) := by
  simp only [openFile, checked] at h
  split at h
  · cases h
  · next hzero =>
    refine ⟨Bool.eq_false_iff.mpr hzero, ?_⟩
    split at h
    · next answer hopen =>
      obtain rfl := Except.ok.inj h
      simp only [openAt] at hopen
      split at hopen
      · cases hopen
      · next place hfound => exact .inl ⟨place, hfound, hopen⟩
      · next parent name habsent =>
        split at hopen
        · next hchange =>
          obtain ⟨rfl, rfl⟩ := Prod.mk.inj (Except.ok.inj hopen)
          exact .inr ⟨parent, name, habsent, hchange, rfl, rfl⟩
        · cases hopen
    · cases h

/-- Opening a file makes a tree grow. -/
theorem growsTo_openFile {fs files : FileSystem} {mode : WriteMode} {p : Path} {handle : Handle}
    (h : fs.openFile mode p = .ok (handle, files)) : fs.GrowsTo files := by
  obtain ⟨-, ⟨place, -, hopen⟩ | ⟨parent, name, habsent, -, -, rfl⟩⟩ := openFile_cases h
  · rcases openPlace_cases hopen with ⟨n, -, -, -, rfl⟩ | ⟨kind, -, -, rfl⟩
    · exact fs.growsTo_afterOpening mode n
    · exact .refl _
  · exact growsTo_create (node?_of_resolve_absent habsent) (by decide)

end FileSystem
end LineShell
