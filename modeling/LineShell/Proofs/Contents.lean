import LineShell.Proofs.Opening

/-! # What is in a file

A file can be written at a path that leads to a missing name in a directory that can be changed,
or to a regular file that its owner may write.  `FileSystem.Holds` says which, and what is in
the file.  It can always be opened there, and then takes what is written to it; opening and
writing another file leaves it as it is.
-/
namespace LineShell

/-- The number of an open file that is kept in the tree. -/
def Handle.number? : Handle → Option Nat
  | .within n _ => some n
  | .atEnd n => some n
  | .device _ => none

@[simp] theorem FileSystem.number?_handleFor (mode : WriteMode) (n : Nat) :
    (handleFor mode n).number? = some n := by
  cases mode <;> rfl

namespace FileSystem

/-- The contents of the regular file that a path names. -/
def contents? (fs : FileSystem) (p : Path) : Option Bytes :=
  match fs.locate [] p with
  | .ok place => (fs.file? place).map FileData.content
  | .error _ => none

/-- A path leads to a regular file that its owner may write; `n` is its number. -/
structure Stores (fs : FileSystem) (p : Path) (n : Nat) (data : FileData) : Prop where
  leads : ∃ place, fs.resolve .making [] p = .ok (.found place) ∧ fs.node? place = some (.file n)
  stored : fs.store[n]? = some data
  writable : ownerWrites data.mode = true

/-- What a path holds at which a file can be written: nothing so far, or the contents of the
file. -/
inductive Holds (fs : FileSystem) (p : Path) : Option Bytes → Prop where
  | missing {parent : Place} {name : Name} (clean : p.hasZeroByte = false)
      (leads : fs.resolve .making [] p = .ok (.absent parent name))
      (changes : fs.mayChange parent = true) : fs.Holds p none
  | file {n : Nat} {data : FileData} (clean : p.hasZeroByte = false)
      (stores : fs.Stores p n data) : fs.Holds p (some data.content)

/-- The open file is the one that a path names. -/
def IsOn (fs : FileSystem) (p : Path) (h : Handle) : Prop :=
  ∃ place n, fs.locate [] p = .ok place ∧ fs.node? place = some (.file n) ∧ h.number? = some n

/-! ## Paths that are followed to open a file -/

/-- A name is refused on the way to a file to open, or it leads where it leads anyway. -/
theorem stride_making (searchable : Bool) (name : Name) (rest : List Name) :
    (∃ e, stride searchable .making name rest = .refused e) ∨
      stride searchable .making name rest = stride searchable .finding name rest := by
  by_cases hslashes : onlySlashes rest = true
  · simp only [stride, hslashes, reduceCtorEq, and_self, false_and, if_true, if_false]
    repeat' split
    all_goals simp
  · refine .inr ?_
    simp only [stride, hslashes, Bool.false_eq_true, and_false]

theorem walkWith_finding {fs : FileSystem} {jump jump' : Place → List Name → Except Errno Target}
    (hjump : ∀ {here names t}, jump here names = .ok t → jump' here names = .ok t)
    {here : Place} {names : List Name} {t : Target}
    (h : fs.walkWith .making jump here names = .ok t) :
    fs.walkWith .finding jump' here names = .ok t := by
  induction names generalizing here with
  | nil => exact h
  | cons name rest ih =>
    rw [walkWith_cons] at h ⊢
    rcases stride_making (fs.maySearch here) name rest with ⟨e, hrefused⟩ | hsame
    · simp [hrefused] at h
    rw [hsame] at h
    cases hstride : stride (fs.maySearch here) .finding name rest with
    | stay => exact ih (by simpa only [hstride] using h)
    | up => exact ih (by simpa only [hstride] using h)
    | refused e => simp [hstride] at h
    | enter =>
      simp only [hstride] at h ⊢
      cases hnode : fs.node? (name :: here) with
      | none => simpa only [hnode] using h
      | some node =>
        rw [hnode] at h
        cases node with
        | directory mode => exact ih h
        | link target => exact hjump h
        | file n => exact h
        | device kind => exact h

/-- What can be opened or made can be found. -/
theorem resolve_finding {fs : FileSystem} {start : Place} {p : Path} {t : Target}
    (h : fs.resolve .making start p = .ok t) : fs.resolve .finding start p = .ok t := by
  have hwalk : ∀ {links here names t}, fs.walk .making links here names = .ok t →
      fs.walk .finding links here names = .ok t := by
    intro links
    induction links with
    | zero => exact walkWith_finding fun hjump => by cases hjump
    | succ links ih => exact walkWith_finding ih
  simp only [resolve] at h ⊢
  split at h
  · cases h
  · next hnil =>
    rw [if_neg hnil]
    split at h
    · cases h
    · next hlength =>
      rw [if_neg hlength]
      exact hwalk h

theorem walkWith_congr {fs gs : FileSystem} (h : fs.node? = gs.node?) (purpose : Purpose)
    (jump : Place → List Name → Except Errno Target) (here : Place) (names : List Name) :
    fs.walkWith purpose jump here names = gs.walkWith purpose jump here names := by
  have hsearch : fs.maySearch = gs.maySearch := by
    funext place
    rw [maySearch, maySearch, h]
  induction names generalizing here with
  | nil => rfl
  | cons name rest ih => simp only [walkWith_cons, hsearch, h, ih]

/-- Where paths lead is a matter of the nodes alone. -/
theorem resolve_congr {fs gs : FileSystem} (h : fs.node? = gs.node?) :
    fs.resolve = gs.resolve := by
  have hwalk : fs.walk = gs.walk := by
    funext purpose links
    induction links with
    | zero =>
      funext here names
      exact walkWith_congr h purpose _ here names
    | succ links ih =>
      funext here names
      rw [walk, walk, ih]
      exact walkWith_congr h purpose _ here names
  funext purpose start p
  simp only [resolve, hwalk]

namespace Stores
variable {fs gs : FileSystem} {p : Path} {n : Nat} {data data' : FileData}

theorem locate (h : fs.Stores p n data) :
    ∃ place, fs.locate [] p = .ok place ∧ fs.node? place = some (.file n) := by
  obtain ⟨place, hleads, hnode⟩ := h.leads
  refine ⟨place, ?_, hnode⟩
  simp only [FileSystem.locate, resolve_finding hleads]

/-- The path still leads there in a tree that has grown. -/
theorem grow (h : fs.Stores p n data) (hg : fs.GrowsTo gs) (hstored : gs.store[n]? = some data')
    (hwritable : ownerWrites data'.mode = true) : gs.Stores p n data' := by
  obtain ⟨place, hleads, hnode⟩ := h.leads
  have hregrown := hg.resolve .making [] p
  rw [hleads] at hregrown
  exact ⟨⟨place, hregrown, hg.kept hnode⟩, hstored, hwritable⟩

end Stores

theorem Holds.clean {fs : FileSystem} {p : Path} {content : Option Bytes}
    (h : fs.Holds p content) : p.hasZeroByte = false := by
  cases h with
  | missing clean _ _ => exact clean
  | file clean _ => exact clean

/-- The contents can be read off the tree. -/
theorem Holds.contents? {fs : FileSystem} {p : Path} {content : Option Bytes}
    (h : fs.Holds p content) : fs.contents? p = content := by
  cases h with
  | missing clean leads changes =>
    simp only [FileSystem.contents?, locate, resolve_finding leads]
  | file clean stores =>
    obtain ⟨place, hlocate, hnode⟩ := stores.locate
    simp only [FileSystem.contents?, hlocate, file?, hnode, stores.stored, Option.map_some]

/-! ## Writing -/

@[simp] theorem node?_write (fs : FileSystem) (h : Handle) (bytes : Bytes) :
    (fs.write h bytes).2.2.node? = fs.node? := by
  match h with
  | .within n position | .atEnd n => exact node?_modifyFile _ _ _
  | .device .null | .device .full => rfl

/-- Other files are left alone. -/
theorem store_modifyFile_of_ne (fs : FileSystem) {n m : Nat} (h : m ≠ n)
    (f : FileData → FileData) : (fs.modifyFile m f).store[n]? = fs.store[n]? := by
  exact List.getElem?_modify_ne f fs.store h

theorem store_modifyFile_self {fs : FileSystem} {n : Nat} {data : FileData}
    (h : fs.store[n]? = some data) (f : FileData → FileData) :
    (fs.modifyFile n f).store[n]? = some (f data) := by
  have hself : (fs.modifyFile n f).store[n]? = f <$> fs.store[n]? := List.getElem?_modify_eq f n _
  rw [hself, h]
  rfl

theorem store_write_of_ne (fs : FileSystem) {h : Handle} {n : Nat} (hne : h.number? ≠ some n)
    (bytes : Bytes) : (fs.write h bytes).2.2.store[n]? = fs.store[n]? := by
  match h with
  | .within m position | .atEnd m =>
    exact fs.store_modifyFile_of_ne (fun heq => hne (congrArg some heq)) _
  | .device .null | .device .full => rfl

/-- What a path holds is a matter of the nodes and of its file. -/
theorem Holds.of_node?_eq {fs gs : FileSystem} {p : Path} {content : Option Bytes}
    (h : fs.Holds p content) (hnodes : gs.node? = fs.node?) {handle : Handle}
    (hne : ¬gs.IsOn p handle)
    (hstore : ∀ n, handle.number? ≠ some n → gs.store[n]? = fs.store[n]?) :
    gs.Holds p content := by
  have hresolve : gs.resolve = fs.resolve := resolve_congr hnodes
  cases h with
  | missing clean leads changes =>
    refine .missing clean (by rw [hresolve, leads]) ?_
    simpa only [mayChange, hnodes] using changes
  | file clean stores =>
    obtain ⟨place, hlocate, hnode⟩ := stores.locate
    have hother : handle.number? ≠ some _ := fun hnumber =>
      hne ⟨place, _, by rw [locate, hresolve]; exact hlocate, by rw [hnodes, hnode], hnumber⟩
    refine .file clean ⟨?_, (hstore _ hother).trans stores.stored, stores.writable⟩
    rw [hresolve, hnodes]
    exact stores.leads

/-- Writing to another file leaves what a path holds as it is. -/
theorem Holds.write_other {fs : FileSystem} {p : Path} {content : Option Bytes}
    (h : fs.Holds p content) {handle : Handle} (hne : ¬fs.IsOn p handle) (bytes : Bytes) :
    (fs.write handle bytes).2.2.Holds p content := by
  have hnodes := fs.node?_write handle bytes
  refine h.of_node?_eq hnodes ?_ fun n hother => fs.store_write_of_ne hother bytes
  rwa [IsOn, locate, resolve_congr hnodes, hnodes]

/-- A file that is open where its contents end takes what is written. -/
theorem Stores.write {fs : FileSystem} {p : Path} {n : Nat} {data : FileData}
    (h : fs.Stores p n data) (mode : WriteMode) (hend : mode = .overwrite → data.content = [])
    (bytes : Bytes) :
    ∃ data', (fs.write (handleFor mode n) bytes).2.2.Stores p n data' ∧
      data'.content = data.content ++ bytes := by
  have hgrown := fs.growsTo_write (handleFor mode n) bytes
  cases mode with
  | overwrite =>
    refine ⟨_, h.grow hgrown (store_modifyFile_self h.stored _) h.writable, ?_⟩
    rw [hend rfl]
    exact overlay_length [] bytes
  | append => exact ⟨_, h.grow hgrown (store_modifyFile_self h.stored _) h.writable, rfl⟩

/-! ## Opening -/

/-- Nothing but the file itself changes when one is opened that is there. -/
theorem openPlace_other {fs files : FileSystem} {mode : WriteMode} {place : Place}
    {handle : Handle} (h : fs.openPlace mode place = .ok (handle, files)) :
    files.node? = fs.node? ∧
      ∀ n, handle.number? ≠ some n → files.store[n]? = fs.store[n]? := by
  rcases openPlace_cases h with ⟨m, -, -, rfl, rfl⟩ | ⟨kind, -, rfl, rfl⟩
  · cases mode with
    | overwrite =>
      refine ⟨node?_modifyFile _ _ _, fun n hne => fs.store_modifyFile_of_ne ?_ _⟩
      exact fun heq => hne (congrArg some heq)
    | append => exact ⟨rfl, fun _ _ => rfl⟩
  · exact ⟨rfl, fun _ _ => rfl⟩

/-- Opening another file leaves what a path holds as it is. -/
theorem Holds.openFile_other {fs files : FileSystem} {p q : Path} {content : Option Bytes}
    {mode : WriteMode} {handle : Handle} (h : fs.Holds p content)
    (hopen : fs.openFile mode q = .ok (handle, files)) (hne : ¬files.IsOn p handle) :
    files.Holds p content := by
  have hgrown := growsTo_openFile hopen
  obtain ⟨-, ⟨place, -, hplace⟩ | ⟨parent', name', -, -, rfl, rfl⟩⟩ := openFile_cases hopen
  · obtain ⟨hnodes, hstore⟩ := openPlace_other hplace
    exact h.of_node?_eq hnodes hne hstore
  cases h with
  | file clean stores =>
    obtain ⟨hlt, -⟩ := List.getElem?_eq_some_iff.mp stores.stored
    refine .file clean (stores.grow hgrown ?_ stores.writable)
    exact (List.getElem?_append_left hlt).trans stores.stored
  | @missing parent name clean leads changes =>
    have hregrown := hgrown.resolve .making [] p
    rw [leads] at hregrown
    rcases hregrown with hstill | ⟨hmade, n, hnode⟩
    · exact .missing clean hstill (hgrown.mayChange changes)
    -- the file that has been made would be the one that `p` names
    refine absurd ⟨name :: parent, n, ?_, hnode, ?_⟩ hne
    · simp only [locate, resolve_finding hmade]
    · by_cases hsame : name :: parent = name' :: parent'
      · rw [hsame] at hnode
        have hnumber := hnode.symm.trans (fs.node?_put_self _ (List.cons_ne_nil name' parent'))
        cases hnumber
        exact number?_handleFor mode _
      · have hnone := (fs.node?_put_of_ne _ hsame).symm.trans hnode
        rw [node?_of_resolve_absent leads] at hnone
        cases hnone

/-- A path at which a file can be written can be opened; the file is empty then if it is to be
overwritten, and else it is what it was. -/
theorem Holds.openFile {fs : FileSystem} {p : Path} {content : Option Bytes}
    (h : fs.Holds p content) (mode : WriteMode) :
    ∃ n files data, fs.openFile mode p = .ok (handleFor mode n, files) ∧
      files.Stores p n data ∧
      data.content = match mode with
        | .overwrite => []
        | .append => content.getD [] := by
  cases h with
  | @missing parent name clean leads changes =>
    have hopen : fs.openFile mode p = .ok (handleFor mode fs.store.length,
        fs.create (name :: parent) { mode := fileMode, content := [] }) := by
      simp only [FileSystem.openFile, checked, clean, openAt, leads, changes, if_true,
        Bool.false_eq_true, if_false]
    have hnode := fs.node?_put_self (.file fs.store.length) (List.cons_ne_nil name parent)
    refine ⟨_, _, _, hopen, ⟨⟨name :: parent, ?_, hnode⟩, List.getElem?_concat_length, by decide⟩,
      by cases mode <;> rfl⟩
    have hregrown := (growsTo_openFile hopen).resolve .making [] p
    rw [leads] at hregrown
    rcases hregrown with hstill | ⟨hmade, -⟩
    · cases (node?_of_resolve_absent hstill).symm.trans hnode
    · exact hmade
  | @file n data clean stores =>
    obtain ⟨place, hleads, hnode⟩ := stores.leads
    have hwrites : ownerWrites ((fs.store[n]?.map FileData.mode).getD 0) = true := by
      rw [stores.stored]
      exact stores.writable
    have hopen : fs.openFile mode p = .ok (handleFor mode n, fs.afterOpening mode n) := by
      simp only [FileSystem.openFile, checked, clean, openAt, hleads, openPlace, hnode, hwrites,
        if_true, Bool.false_eq_true, if_false]
      cases mode <;> rfl
    have hgrown := fs.growsTo_afterOpening mode n
    cases mode with
    | overwrite =>
      exact ⟨_, _, _, hopen, stores.grow hgrown (store_modifyFile_self stores.stored _)
        stores.writable, rfl⟩
    | append => exact ⟨_, _, _, hopen, stores, rfl⟩

end FileSystem
end LineShell
