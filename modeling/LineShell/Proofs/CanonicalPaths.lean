import LineShell.FileSystem.Setup
import LineShell.Proofs.Opening
import Mathlib.Control.Monad.Basic

/-! # Canonical paths

A path to a directory may go through links, `..` and directories that are left again
(`FileSystem.Leads`).  The way from the root straight down to the directory (`FileSystem.Entered`)
can be gone whenever the path could be followed, for the path has entered each directory on it.
So a canonical path leads where it comes from and is its own canonical path.

Not every path of a directory has one: behind a link a path can name what no path names that
goes straight down and is short enough to be asked about.
-/
namespace LineShell

/-! ## The names of a path -/

namespace Path

/-- No part holds the separator. -/
theorem notMem_of_mem_splitAt {sep : UInt8} {bs part : Bytes} (h : part ∈ splitAt sep bs) :
    sep ∉ part := by
  induction bs generalizing part with
  | nil =>
    obtain rfl : part = [] := by simpa [splitAt] using h
    exact List.not_mem_nil
  | cons b bs ih =>
    obtain ⟨first, rest, hsplit⟩ := List.exists_cons_of_ne_nil (splitAt_ne_nil sep bs)
    by_cases hb : b = sep
    · simp only [splitAt, hb, if_true, List.mem_cons] at h
      rcases h with rfl | h
      · exact List.not_mem_nil
      · exact ih h
    · simp only [splitAt, hb, if_false, hsplit, List.mem_cons] at h
      rcases h with rfl | h
      · have hfirst := ih (hsplit ▸ List.mem_cons_self)
        simp [hfirst, Ne.symm hb]
      · exact ih (hsplit ▸ List.mem_cons_of_mem _ h)

/-- What stands before the first separator belongs to the first part. -/
theorem splitAt_append {sep : UInt8} {part bs first : Bytes} {rest : List Bytes}
    (hpart : sep ∉ part) (h : splitAt sep bs = first :: rest) :
    splitAt sep (part ++ bs) = (part ++ first) :: rest := by
  induction part with
  | nil => exact h
  | cons b part ih =>
    obtain ⟨hb, hpart⟩ := List.ne_and_not_mem_of_not_mem_cons hpart
    simp only [List.cons_append, splitAt, Ne.symm hb, if_false, ih hpart]

/-- Names behind slashes are found again. -/
theorem splitAt_flatMap {names : List Name} (hnames : ∀ name ∈ names, slash ∉ name)
    {bs : Bytes} {rest : List Bytes} (h : splitAt slash bs = [] :: rest) :
    splitAt slash (names.flatMap (slash :: ·) ++ bs) = [] :: (names ++ rest) := by
  induction names with
  | nil => exact h
  | cons name names ih =>
    have ih := ih fun later hlater => hnames later (List.mem_cons_of_mem _ hlater)
    have hname := splitAt_append (hnames name List.mem_cons_self) ih
    simp only [List.flatMap_cons, List.cons_append, List.append_assoc, splitAt, if_true, hname,
      List.append_nil]

end Path

namespace FileSystem
open LineShell.Path

/-! ## The way of a path -/

/-- A name that is looked up in a directory. -/
structure EntryName (name : Name) : Prop where
  nonempty : name ≠ []
  ne_dot : name ≠ dot
  ne_dotDot : name ≠ dotDot
  length : name.length ≤ maxName
  noSlash : slash ∉ name

section
variable {searchable : Bool} {purpose : Purpose} {name : Name} {rest : List Name}

theorem of_stride_stay (h : stride searchable purpose name rest = .stay) :
    name = [] ∨ name = dot := by
  unfold stride at h
  grind

theorem of_stride_up (h : stride searchable purpose name rest = .up) : name = dotDot := by
  unfold stride at h
  grind

/-- Only such a name is looked up. -/
theorem of_stride_enter (h : stride searchable purpose name rest = .enter) (hslash : slash ∉ name) :
    searchable = true ∧ EntryName name := by
  have hname : searchable = true ∧ name ≠ [] ∧ name ≠ dot ∧ name ≠ dotDot ∧
      name.length ≤ maxName := by
    unfold stride at h
    grind
  obtain ⟨hsearchable, hnonempty, hdot, hdotDot, hlength⟩ := hname
  exact ⟨hsearchable, hnonempty, hdot, hdotDot, hlength, hslash⟩

end

/-- And where one may search it is. -/
theorem EntryName.stride {name : Name} (h : EntryName name) (rest : List Name) :
    FileSystem.stride true .finding name rest = .enter := by
  have hlength : ¬maxName < name.length := Nat.not_lt.mpr h.length
  simp [FileSystem.stride, h.nonempty, h.ne_dot, h.ne_dotDot, hlength]

/-- From a directory some names lead to the node at `place`, with no more than so many links on
the way. -/
inductive Leads (fs : FileSystem) (place : Place) : Nat → Place → List Name → Prop
  | arrived {links : Nat} : Leads fs place links place []
  | stay {links : Nat} {here : Place} {name : Name} {rest : List Name}
      (hname : name = [] ∨ name = dot) (hrest : Leads fs place links here rest) :
      Leads fs place links here (name :: rest)
  | up {links : Nat} {here : Place} {rest : List Name}
      (hrest : Leads fs place links here.tail rest) : Leads fs place links here (dotDot :: rest)
  | directory {links : Nat} {here : Place} {name : Name} {rest : List Name} {mode : Nat}
      (hsearch : fs.maySearch here = true) (hname : EntryName name)
      (hnode : fs.node? (name :: here) = some (.directory mode))
      (hrest : Leads fs place links (name :: here) rest) : Leads fs place links here (name :: rest)
  | link {links : Nat} {here : Place} {name : Name} {rest : List Name} {target : Path}
      (hname : EntryName name) (hnode : fs.node? (name :: here) = some (.link target))
      (hrest : Leads fs place links (target.origin here) (target.names ++ rest)) :
      Leads fs place (links + 1) here (name :: rest)
  /-- What is neither a directory nor a link is the end of the way. -/
  | last {links : Nat} {here : Place} {name : Name} {node : Node} (hname : EntryName name)
      (hplace : place = name :: here) (hnode : fs.node? place = some node)
      (hdirectory : ∀ mode, node ≠ .directory mode) (hlink : ∀ target, node ≠ .link target) :
      Leads fs place links here [name]

variable {fs : FileSystem}

namespace Leads

/-- The names are followed one by one up to the first link, where `hjump` takes over. -/
theorem of_walkWith {links : Nat} {jump : Place → List Name → Except Errno Target} {place : Place}
    (hjump : ∀ {here name rest target}, EntryName name →
      fs.node? (name :: here) = some (.link target) → (∀ name ∈ rest, slash ∉ name) →
      jump (target.origin here) (target.names ++ rest) = .ok (.found place) →
      fs.Leads place links here (name :: rest))
    {here : Place} {names : List Name} (hnames : ∀ name ∈ names, slash ∉ name)
    (h : fs.walkWith .finding jump here names = .ok (.found place)) :
    fs.Leads place links here names := by
  induction names generalizing here with
  | nil =>
    cases h
    exact .arrived
  | cons name rest ih =>
    obtain ⟨hname, hrest⟩ := List.forall_mem_cons.mp hnames
    rw [walkWith_cons] at h
    cases hstride : stride (fs.maySearch here) .finding name rest with
    | stay => exact .stay (of_stride_stay hstride) (ih hrest (by simpa only [hstride] using h))
    | up => exact of_stride_up hstride ▸ .up (ih hrest (by simpa only [hstride] using h))
    | refused e => simp [hstride] at h
    | enter =>
      obtain ⟨hsearch, hentry⟩ := of_stride_enter hstride hname
      simp only [hstride] at h
      split at h
      · split at h <;> cases h
      · next hdirectory => exact .directory hsearch hentry hdirectory (ih hrest h)
      · next target hlink => exact hjump hentry hlink hrest h
      · next node hother hlink hnode =>
        split at h
        · next hlast =>
          cases h
          exact hlast ▸
            .last hentry rfl hnode (fun mode => hother mode) (fun target => hlink target)
        · cases h

/-- A walk that finds something goes such a way. -/
theorem of_walk {links : Nat} {place here : Place} {names : List Name}
    (hnames : ∀ name ∈ names, slash ∉ name)
    (h : fs.walk .finding links here names = .ok (.found place)) :
    fs.Leads place links here names := by
  induction links generalizing here names with
  | zero => exact of_walkWith (fun _ _ _ hjump => by cases hjump) hnames h
  | succ links ih =>
    refine of_walkWith (fun hname hlink hrest hjump => .link hname hlink (ih ?_ hjump)) hnames h
    intro later hlater
    rcases List.mem_append.mp hlater with htarget | hlater
    · exact notMem_of_mem_splitAt htarget
    · exact hrest later hlater

/-- So does a path that names something. -/
theorem of_locate {p : Path} {place : Place} (h : fs.locate [] p = .ok place) :
    fs.Leads place maxLinks [] p.names := by
  have hfound : fs.resolve .finding [] p = .ok (.found place) := by
    simp only [locate] at h
    split at h
    · next hresolve => rw [hresolve, Except.ok.inj h]
    · cases h
    · cases h
  simp only [resolve] at hfound
  split at hfound
  · cases hfound
  · split at hfound
    · cases hfound
    · have horigin : p.origin [] = [] := by simp [Path.origin]
      rw [horigin] at hfound
      exact of_walk (fun name hname => notMem_of_mem_splitAt hname) hfound

end Leads

/-! ## The way straight down -/

/-- The place is a directory, and one may go straight down to it from the root. -/
inductive Entered (fs : FileSystem) : Place → Prop
  | root : Entered fs []
  | child {parent : Place} {name : Name} {mode : Nat} (hparent : Entered fs parent)
      (hsearch : fs.maySearch parent = true) (hname : EntryName name)
      (hnode : fs.node? (name :: parent) = some (.directory mode)) : Entered fs (name :: parent)

namespace Entered

theorem tail {place : Place} (h : fs.Entered place) : fs.Entered place.tail := by
  cases h with
  | root => exact .root
  | child hparent _ _ _ => exact hparent

theorem entryName {place : Place} (h : fs.Entered place) : ∀ name ∈ place, EntryName name := by
  induction h with
  | root => exact fun name hname => absurd hname List.not_mem_nil
  | child hparent _ hname _ ih => exact List.forall_mem_cons.mpr ⟨hname, ih⟩

theorem metadataAt {place : Place} (h : fs.Entered place) :
    (fs.metadataAt place).kind = .directory := by
  cases h with
  | root => rfl
  | child _ _ _ hnode => simp only [FileSystem.metadataAt, hnode]

theorem maySearch_eq {place : Place} (h : fs.Entered place) :
    fs.maySearch place = ownerExecutes (fs.metadataAt place).mode := by
  cases h with
  | root => rfl
  | child _ _ _ hnode => simp only [maySearch, FileSystem.metadataAt, hnode]

/-- A link is followed from the root or from the directory that holds it. -/
theorem origin {here : Place} (h : fs.Entered here) (target : Path) :
    fs.Entered (target.origin here) := by
  rw [Path.origin]
  split
  · exact .root
  · exact h

/-- **Whatever way one takes** to a directory, one may go there straight down. -/
theorem of_leads {links : Nat} {here place : Place} {names : List Name} {mode : Nat}
    (h : fs.Leads place links here names) (hnode : fs.node? place = some (.directory mode))
    (hhere : fs.Entered here) : fs.Entered place := by
  induction h with
  | arrived => exact hhere
  | stay _ _ ih => exact ih hhere
  | up _ ih => exact ih hhere.tail
  | directory hsearch hname hdirectory _ ih => exact ih (.child hhere hsearch hname hdirectory)
  | link _ _ _ ih => exact ih (hhere.origin _)
  | last _ _ hother hdirectory _ =>
    exact absurd (Option.some.inj (hother.symm.trans hnode)) (hdirectory mode)

/-- A directory that a path names can be gone to straight down. -/
theorem of_locate {p : Path} {place : Place} {mode : Nat} (h : fs.locate [] p = .ok place)
    (hnode : fs.node? place = some (.directory mode)) : fs.Entered place :=
  of_leads (.of_locate h) hnode .root

/-- Going straight down. -/
theorem walkWith {place : Place} (h : fs.Entered place)
    (jump : Place → List Name → Except Errno Target) (rest : List Name) :
    fs.walkWith .finding jump [] (place.reverse ++ rest) =
      fs.walkWith .finding jump place rest := by
  induction h generalizing rest with
  | root => rfl
  | @child parent name mode _ hsearch hname hnode ih =>
    rw [List.reverse_cons, List.append_assoc, List.singleton_append, ih, walkWith_cons, hsearch,
      hname.stride]
    simp only [hnode]

/-- Where a path leads whose names go straight down and then on. -/
theorem resolve_of_names {place : Place} (h : fs.Entered place) {p : Path} {rest : List Name}
    (hslash : p.isAbsolute = true) (hlength : p.bytes.length ≤ maxPath)
    (hnames : p.names = [] :: (place.reverse ++ rest)) :
    ∃ jump, fs.resolve .finding [] p = fs.walkWith .finding jump place rest := by
  have hnonempty : p.bytes ≠ [] := by
    intro hempty
    simp [Path.isAbsolute, hempty] at hslash
  have horigin : p.origin [] = [] := by simp [Path.origin]
  refine ⟨fs.walk .finding (maxLinks - 1), ?_⟩
  have hwalk : fs.walk .finding maxLinks [] p.names =
      fs.walkWith .finding (fs.walk .finding (maxLinks - 1)) [] p.names := rfl
  rw [resolve, if_neg hnonempty, if_neg (Nat.not_lt.mpr hlength), horigin, hwalk, hnames,
    ← h.walkWith]
  rfl

end Entered

end FileSystem

/-! ## The path of a place -/

namespace Place
open LineShell.Path

/-- The path of a place that is not the root. -/
theorem path_of_ne_nil {place : Place} (h : place ≠ []) :
    (path place).bytes = place.reverse.flatMap (slash :: ·) := by
  cases place with
  | nil => exact absurd rfl h
  | cons name parent => rfl

/-- It begins at the root. -/
theorem isAbsolute_path (place : Place) : (path place).isAbsolute = true := by
  cases place with
  | nil => rfl
  | cons name parent =>
    obtain ⟨outermost, rest, h⟩ := List.exists_cons_of_ne_nil
      (List.reverse_ne_nil_iff.mpr (List.cons_ne_nil name parent))
    simp only [path, h, List.flatMap_cons, Path.isAbsolute, List.cons_append, List.head?_cons,
      beq_self_eq_true]

/-- It does not end in a slash. -/
theorem getLast?_path {place : Place} (h : place ≠ [])
    (hnames : ∀ name ∈ place, FileSystem.EntryName name) :
    (path place).bytes.getLast? ≠ some slash := by
  obtain ⟨name, parent, rfl⟩ := List.exists_cons_of_ne_nil h
  have hname := hnames name List.mem_cons_self
  obtain ⟨init, last, hlast⟩ := (List.eq_nil_or_concat name).resolve_left hname.nonempty
  have hne : last ≠ slash := by
    rintro rfl
    exact hname.noSlash (by simp [hlast])
  have hbytes : (path (name :: parent)).bytes =
      (parent.reverse.flatMap (slash :: ·) ++ slash :: init) ++ [last] := by
    rw [path_of_ne_nil h]
    simp [hlast]
  rw [hbytes, List.getLast?_concat]
  exact fun heq => hne (Option.some.inj heq)

/-- The names of a path behind the path of a place. -/
theorem names_join {place : Place} (hnames : ∀ name ∈ place, FileSystem.EntryName name) {p : Path}
    (hp : p.isAbsolute = false) :
    ((path place).join p).names = [] :: (place.reverse ++ p.names) := by
  have hrest : splitAt slash (slash :: p.bytes) = [] :: p.names := by
    simp only [splitAt, if_true, names]
  by_cases hroot : place = []
  · subst hroot
    have hjoin : ((path []).join p).bytes = slash :: p.bytes := by simp [join, hp, path]
    rw [names, hjoin, hrest]
    rfl
  · have hjoin : ((path place).join p).bytes =
        place.reverse.flatMap (slash :: ·) ++ slash :: p.bytes := by
      have hempty : (path place).bytes ≠ [] := by
        obtain ⟨name, parent, rfl⟩ := List.exists_cons_of_ne_nil hroot
        simp [path_of_ne_nil hroot]
      have hbehind :
          ((path place).bytes.isEmpty || (path place).bytes.getLast? == some slash) = false := by
        simp [hempty, getLast?_path hroot hnames]
      simp only [join, hp, hbehind, Bool.false_eq_true, if_false]
      rw [path_of_ne_nil hroot]
    have hslash : ∀ name ∈ place.reverse, slash ∉ name := fun name hname =>
      (hnames name (List.mem_reverse.mp hname)).noSlash
    rw [names, hjoin, splitAt_flatMap hslash hrest]

/-- The names of the path of a place; that of the root ends in a slash. -/
theorem names_path {place : Place} (hnames : ∀ name ∈ place, FileSystem.EntryName name) :
    (path place).names = [] :: (place.reverse ++ if place = [] then [[]] else []) := by
  by_cases hroot : place = []
  · subst hroot
    rfl
  · have hslash : ∀ name ∈ place.reverse, slash ∉ name := fun name hname =>
      (hnames name (List.mem_reverse.mp hname)).noSlash
    have hsplit := splitAt_flatMap hslash (rfl : splitAt slash [] = [[]])
    rw [List.append_nil] at hsplit
    rw [names, path_of_ne_nil hroot, hsplit, if_neg hroot]

/-- A path behind the path of a place is longer by a slash at most. -/
theorem length_join_le (place : Place) (p : Path) (hp : p.isAbsolute = false) :
    ((path place).join p).bytes.length ≤ (path place).bytes.length + 1 + p.bytes.length := by
  simp only [join, hp, Bool.false_eq_true, if_false]
  split
  · simp only [List.length_append]
    omega
  · simp only [List.length_append, List.length_cons]
    omega

/-- The path of a directory is no longer than those of what is in it. -/
theorem length_path_tail_le (place : Place) :
    (path place.tail).bytes.length ≤ (path place).bytes.length := by
  match place with
  | [] => exact Nat.le_refl _
  | [name] => simp [path]
  | name :: outer :: parent =>
    have hlonger : (path (name :: outer :: parent)).bytes =
        (path (outer :: parent)).bytes ++ slash :: name := by
      simp [path]
    rw [List.tail_cons, hlonger, List.length_append]
    exact Nat.le_add_right _ _

/-- No zero byte comes in by a join. -/
theorem hasZeroByte_join {place : Place} {p : Path} (h : (path place).hasZeroByte = false)
    (hp : p.hasZeroByte = false) : ((path place).join p).hasZeroByte = false := by
  have hslash : (0 : UInt8) ≠ slash := by decide
  simp only [hasZeroByte, List.contains_eq_mem, decide_eq_false_iff_not] at h hp ⊢
  simp only [join]
  split
  · exact hp
  · split <;> simp [h, hp, hslash]

end Place

/-! ## Ways that can be traced -/

namespace FileSystem
open LineShell.Path
variable {fs : FileSystem} {links : Nat} {here place : Place} {name : Name} {rest : List Name}

/-- Before a name that is looked up nothing has to be shown to be a directory. -/
theorem EntryName.needsDirectory (h : EntryName name) (rest : List Name) :
    FileSystem.needsDirectory (name :: rest) = false := by
  simp [FileSystem.needsDirectory, h.nonempty, h.ne_dot, h.ne_dotDot]

theorem takes_eq_true_iff :
    takes place rest = true ↔
      place.path.bytes.length + (needsDirectory rest).toNat ≤ maxPath :=
  decide_eq_true_iff

theorem length_le_of_takes (h : takes place rest = true) : place.path.bytes.length ≤ maxPath :=
  Nat.le_trans (Nat.le_add_right _ _) (takes_eq_true_iff.mp h)

/-- With room for a slash behind it a path is taken, whatever follows. -/
theorem takes_of_length (h : place.path.bytes.length + 1 ≤ maxPath) (rest : List Name) :
    takes place rest = true :=
  takes_eq_true_iff.mpr (Nat.le_trans (Nat.add_le_add_left (Bool.toNat_le _) _) h)

theorem traceable_stay (hname : name = [] ∨ name = dot) :
    fs.traceable links here (name :: rest) = fs.traceable links here rest := by
  cases links <;> simp only [traceable, traceableWith, hname, if_true]

theorem traceable_up :
    fs.traceable links here (dotDot :: rest) = fs.traceable links here.tail rest := by
  have hleaves : ¬(dotDot = [] ∨ dotDot = dot) := by decide
  cases links <;> simp only [traceable, traceableWith, hleaves, if_true, if_false]

theorem traceable_link {target : Path} (hname : EntryName name)
    (hnode : fs.node? (name :: here) = some (.link target)) :
    fs.traceable (links + 1) here (name :: rest) =
      (takes (name :: here) [] &&
        fs.traceable links (target.origin here) (target.names ++ rest)) := by
  have hleaves : ¬(name = [] ∨ name = dot) := not_or.mpr ⟨hname.nonempty, hname.ne_dot⟩
  simp only [traceable, traceableWith, hleaves, hname.ne_dotDot, if_false, hnode]

/-- What is no link is asked about, and the way goes on. -/
theorem traceable_enter {node : Node} (hname : EntryName name)
    (hnode : fs.node? (name :: here) = some node) (hlink : ∀ target, node ≠ .link target) :
    fs.traceable links here (name :: rest) =
      (takes (name :: here) rest && fs.traceable links (name :: here) rest) := by
  have hleaves : ¬(name = [] ∨ name = dot) := not_or.mpr ⟨hname.nonempty, hname.ne_dot⟩
  cases node with
  | link target => exact absurd rfl (hlink target)
  | _ => cases links <;>
      simp only [traceable, traceableWith, hleaves, hname.ne_dotDot, if_false, hnode]

/-- Names that stay are not asked about. -/
theorem traceable_of_stays (hrest : ∀ name ∈ rest, name = [] ∨ name = dot) :
    fs.traceable links here rest = true := by
  induction rest with
  | nil => cases links <;> rfl
  | cons name rest ih =>
    obtain ⟨hname, hrest⟩ := List.forall_mem_cons.mp hrest
    rw [traceable_stay hname, ih hrest]

namespace Leads

/-- **The path of what a traced way leads to can be asked about.** -/
theorem length_le {names : List Name} (h : fs.Leads place links here names)
    (htraceable : fs.traceable links here names = true)
    (hhere : here.path.bytes.length ≤ maxPath) : place.path.bytes.length ≤ maxPath := by
  induction h with
  | arrived => exact hhere
  | stay hname _ ih => exact ih (traceable_stay hname ▸ htraceable) hhere
  | up _ ih =>
    exact ih (traceable_up ▸ htraceable) (Nat.le_trans (Place.length_path_tail_le _) hhere)
  | directory _ hname hnode _ ih =>
    rw [traceable_enter hname hnode (by simp), Bool.and_eq_true] at htraceable
    exact ih htraceable.2 (length_le_of_takes htraceable.1)
  | link hname hnode _ ih =>
    rw [traceable_link hname hnode, Bool.and_eq_true] at htraceable
    refine ih htraceable.2 ?_
    rw [Path.origin]
    split
    · decide
    · exact hhere
  | last hname hplace hnode _ hlink =>
    rw [traceable_enter hname (hplace ▸ hnode) hlink, Bool.and_eq_true] at htraceable
    exact hplace ▸ length_le_of_takes htraceable.1

/-- Where every path has room for a slash behind it, every way can be traced. -/
theorem traceable_of_short {names : List Name} (h : fs.Leads place links here names)
    (hshort : ∀ place node, fs.node? place = some node → place.path.bytes.length + 1 ≤ maxPath) :
    fs.traceable links here names = true := by
  induction h with
  | arrived => exact traceable_of_stays (by simp)
  | stay hname _ ih => rw [traceable_stay hname, ih]
  | up _ ih => rw [traceable_up, ih]
  | directory _ hname hnode _ ih =>
    rw [traceable_enter hname hnode (by simp), ih, takes_of_length (hshort _ _ hnode),
      Bool.and_true]
  | link hname hnode _ ih =>
    rw [traceable_link hname hnode, ih, takes_of_length (hshort _ _ hnode), Bool.and_true]
  | last hname hplace hnode _ hlink =>
    rw [traceable_enter hname (hplace ▸ hnode) hlink, traceable_of_stays (by simp),
      takes_of_length (hplace ▸ hshort _ _ hnode), Bool.and_true]

end Leads

namespace Entered

/-- Going straight down, one asks about shorter paths before the longest. -/
theorem traceable (h : fs.Entered place) (htakes : takes place rest = true) :
    fs.traceable links [] (place.reverse ++ rest) = fs.traceable links place rest := by
  induction h generalizing rest with
  | root => rfl
  | @child parent name mode _ _ hname hnode ih =>
    -- no slash is asked about behind the parent, since a name is looked up in it
    have hparent : takes parent (name :: rest) = true := by
      rw [takes_eq_true_iff, hname.needsDirectory]
      exact Nat.le_trans (Place.length_path_tail_le (name :: parent)) (length_le_of_takes htakes)
    rw [List.reverse_cons, List.append_assoc, List.singleton_append, ih hparent,
      traceable_enter hname hnode (by simp), htakes, Bool.true_and]

/-- So the way straight down can be traced if the path at its end is taken. -/
theorem traceable_of_names (h : fs.Entered place) (htakes : takes place rest = true)
    (hrest : ∀ name ∈ rest, name = [] ∨ name = dot) {names : List Name}
    (hnames : names = [] :: (place.reverse ++ rest)) : fs.traceable links [] names = true := by
  rw [hnames, traceable_stay (.inl rfl), h.traceable htakes, traceable_of_stays hrest]

end Entered

end FileSystem

/-! ## Asking about directories -/

namespace FileSystem
open LineShell.Path
variable {fs : FileSystem} {p : Path} {place : Place}

theorem metadata_of_locate (hzero : p.hasZeroByte = false) (h : fs.locate [] p = .ok place) :
    fs.metadata p = .ok (fs.metadataAt place) := by
  simp [metadata, checked, hzero, h, Except.map]

theorem metadata_of_locate_error {e : Errno} (hzero : p.hasZeroByte = false)
    (h : fs.locate [] p = .error e) : fs.metadata p = .error (.system e) := by
  simp [metadata, checked, hzero, h, Except.map]

theorem canonical_of_locate (hzero : p.hasZeroByte = false) (h : fs.locate [] p = .ok place)
    (htraceable : fs.traceable maxLinks [] p.names = true) : fs.canonical p = .ok place.path :=
  canonical_eq_ok_iff.mpr ⟨hzero, htraceable, place, h, rfl⟩

/-- Only a path that can be asked about is canonical. -/
theorem length_le_of_canonical {d : Path} (h : fs.canonical p = .ok d) :
    d.bytes.length ≤ maxPath := by
  obtain ⟨-, htraceable, place, hplace, rfl⟩ := canonical_eq_ok_iff.mp h
  exact (Leads.of_locate hplace).length_le htraceable (by decide)

/-- Nothing has a canonical path where no path that goes straight down can be asked about. -/
theorem canonical_ne_ok (h : fs.locate [] p = .ok place)
    (hlength : maxPath < place.path.bytes.length) (d : Path) : fs.canonical p ≠ .ok d := by
  intro hd
  obtain ⟨-, -, place', hplace', rfl⟩ := canonical_eq_ok_iff.mp hd
  obtain rfl : place = place' := Except.ok.inj (h.symm.trans hplace')
  exact absurd (length_le_of_canonical hd) (Nat.not_le.mpr hlength)

/-- In a tree of short paths whatever a path names has a canonical path. -/
theorem canonical_of_short (hzero : p.hasZeroByte = false) (h : fs.locate [] p = .ok place)
    (hshort : ∀ place node, fs.node? place = some node → place.path.bytes.length + 1 ≤ maxPath) :
    fs.canonical p = .ok place.path :=
  canonical_of_locate hzero h ((Leads.of_locate h).traceable_of_short hshort)

/-- What is a directory is found to be one straight down. -/
theorem exists_entered {m : Metadata} (h : fs.metadata p = .ok m) (hkind : m.kind = .directory) :
    ∃ place, fs.Entered place ∧ p.hasZeroByte = false ∧ fs.locate [] p = .ok place := by
  cases hzero : p.hasZeroByte with
  | true => simp [metadata, checked, hzero] at h
  | false =>
    cases hplace : fs.locate [] p with
    | error e => simp [metadata, checked, hzero, hplace, Except.map] at h
    | ok place =>
      rw [metadata_of_locate hzero hplace, Except.ok.injEq] at h
      obtain ⟨mode, hnode⟩ : ∃ mode, fs.node? place = some (.directory mode) := by
        rw [← h, metadataAt] at hkind
        split at hkind
        · next mode hnode => exact ⟨mode, hnode⟩
        all_goals cases hkind
      exact ⟨place, .of_locate hplace hnode, rfl, rfl⟩

namespace Entered

/-- **The path of a directory leads there.** -/
theorem locate_path (h : fs.Entered place) (hlength : place.path.bytes.length ≤ maxPath) :
    fs.locate [] place.path = .ok place := by
  obtain ⟨jump, hresolve⟩ :=
    h.resolve_of_names place.isAbsolute_path hlength (Place.names_path h.entryName)
  have hfound : fs.walkWith .finding jump place (if place = [] then [[]] else []) =
      .ok (.found place) := by
    split <;> rfl
  simp only [locate, hresolve, hfound]

/-- Behind it a relative path goes on from there. -/
theorem resolve_join (h : fs.Entered place) (hp : p.isAbsolute = false)
    (hlength : place.path.bytes.length + 1 + p.bytes.length ≤ maxPath) :
    ∃ jump, fs.resolve .finding [] (place.path.join p) =
      fs.walkWith .finding jump place p.names := by
  have habsolute : (place.path.join p).isAbsolute = true := by
    rw [isAbsolute_join, place.isAbsolute_path, Bool.or_true]
  exact h.resolve_of_names habsolute (Nat.le_trans (Place.length_join_le place p hp) hlength)
    (Place.names_join h.entryName hp)

/-- Nothing behind it stays there. -/
theorem locate_join_empty (h : fs.Entered place)
    (hlength : place.path.bytes.length + 1 ≤ maxPath) :
    fs.locate [] (place.path.join (ofString "")) = .ok place := by
  obtain ⟨jump, hresolve⟩ := h.resolve_join (p := ofString "") rfl hlength
  have hfound : fs.walkWith .finding jump place (ofString "").names = .ok (.found place) := rfl
  simp only [locate, hresolve, hfound]

/-- So does `.`, if the directory may be searched. -/
theorem locate_join_dot (h : fs.Entered place)
    (hlength : place.path.bytes.length + 2 ≤ maxPath) :
    fs.locate [] (place.path.join (ofString ".")) =
      if fs.maySearch place then .ok place else .error .accessDenied := by
  obtain ⟨jump, hresolve⟩ := h.resolve_join (p := ofString ".") rfl hlength
  have hdot : fs.walkWith .finding jump place (ofString ".").names =
      if fs.maySearch place then .ok (.found place) else .error .accessDenied := by
    have hstride : stride (fs.maySearch place) .finding dot [] =
        if fs.maySearch place then .stay else .refused .accessDenied := by
      cases fs.maySearch place <;> rfl
    change fs.walkWith .finding jump place [dot] = _
    rw [walkWith_cons, hstride]
    cases fs.maySearch place <;> rfl
  simp only [locate, hresolve, hdot]
  cases fs.maySearch place <;> rfl

/-- The path of a directory is its canonical path, as long as it can be asked about. -/
theorem canonical_path (h : fs.Entered place) (hzero : place.path.hasZeroByte = false)
    (hlength : place.path.bytes.length ≤ maxPath) : fs.canonical place.path = .ok place.path := by
  refine canonical_of_locate hzero (h.locate_path hlength) ?_
  refine h.traceable_of_names ?_ ?_ (Place.names_path h.entryName)
  · by_cases hroot : place = []
    · subst hroot
      decide
    · rw [if_neg hroot]
      exact takes_eq_true_iff.mpr hlength
  · split <;> simp

/-- So it is with nothing behind it. -/
theorem canonical_join_empty (h : fs.Entered place) (hzero : place.path.hasZeroByte = false)
    (hlength : place.path.bytes.length + 1 ≤ maxPath) :
    fs.canonical (place.path.join (ofString "")) = .ok place.path := by
  have hnames := Place.names_join h.entryName (p := ofString "") rfl
  refine canonical_of_locate (Place.hasZeroByte_join hzero rfl) (h.locate_join_empty hlength)
    (h.traceable_of_names (takes_of_length hlength _) ?_ hnames)
  exact fun name hname => .inl (List.mem_singleton.mp hname)

/-- And with `.` behind it, if the directory may be searched. -/
theorem canonical_join_dot (h : fs.Entered place) (hsearch : fs.maySearch place = true)
    (hzero : place.path.hasZeroByte = false) (hlength : place.path.bytes.length + 2 ≤ maxPath) :
    fs.canonical (place.path.join (ofString ".")) = .ok place.path := by
  have hnames := Place.names_join h.entryName (p := ofString ".") rfl
  have hlocate : fs.locate [] (place.path.join (ofString ".")) = .ok place := by
    rw [h.locate_join_dot hlength, hsearch, if_pos rfl]
  refine canonical_of_locate (Place.hasZeroByte_join hzero rfl) hlocate
    (h.traceable_of_names (takes_of_length (by omega) _) ?_ hnames)
  exact fun name hname => .inr (List.mem_singleton.mp hname)

end Entered

/-- **A canonical path is its own**, absolute, and names the directory that it comes from. -/
theorem canonical_canonical {d : Path} {m : Metadata} (hm : fs.metadata p = .ok m)
    (hkind : m.kind = .directory) (hd : fs.canonical p = .ok d) (hzero : d.hasZeroByte = false) :
    d.isAbsolute = true ∧ fs.locate [] d = fs.locate [] p ∧ fs.canonical d = .ok d := by
  have hlength := length_le_of_canonical hd
  obtain ⟨place, hentered, hpzero, hplace⟩ := exists_entered hm hkind
  obtain ⟨-, -, place', hplace', rfl⟩ := canonical_eq_ok_iff.mp hd
  obtain rfl : place = place' := Except.ok.inj (hplace.symm.trans hplace')
  exact ⟨place.isAbsolute_path, (hentered.locate_path hlength).trans hplace.symm,
    hentered.canonical_path hzero hlength⟩

theorem isAbsolute_of_canonical {d : Path} (h : fs.canonical p = .ok d) : d.isAbsolute = true := by
  obtain ⟨-, -, place, -, rfl⟩ := canonical_eq_ok_iff.mp h
  exact place.isAbsolute_path

/-! ## Where one is in a directory -/

/-- Where one is that has entered the directory that a path names: at its canonical path, or
at the path as it is if it has none. -/
def destination (fs : FileSystem) (p : Path) : Path :=
  match fs.canonical p with
  | .ok directory => directory
  | .error _ => p

theorem destination_of_canonical {d : Path} (h : fs.canonical p = .ok d) :
    fs.destination p = d := by
  simp only [destination, h]

theorem destination_of_no_canonical (h : ∀ d, fs.canonical p ≠ .ok d) :
    fs.destination p = p := by
  unfold destination
  split
  · next hcanonical => exact absurd hcanonical (h _)
  · rfl

theorem isAbsolute_destination (fs : FileSystem) (h : p.isAbsolute = true) :
    (fs.destination p).isAbsolute = true := by
  unfold destination
  split
  · next hcanonical => exact isAbsolute_of_canonical hcanonical
  · exact h

/-- Sixteen directories one in the other, with names of the greatest length, and `z` in the
innermost. -/
def deepPlace : Place :=
  Text.utf8 "z" :: (List.range 16).map fun n => List.replicate maxName (UInt8.ofNat (97 + n))

/-- The tree of these directories, with a link `l` in the root to the eighth of them. -/
def deepTree : FileSystem :=
  (empty.makeDirectories deepPlace).put [Text.utf8 "l"] (.link (Place.path (deepPlace.drop 9)))

/-- The path of the innermost of the sixteen by way of the link. -/
def deepDetour : Path :=
  ⟨Text.utf8 "/l" ++ ((deepPlace.drop 1).take 8).reverse.flatMap (slash :: ·)⟩

/-- By way of the link one comes to `z`, which has no canonical path. -/
theorem deepTree_z :
    deepTree.locate [] (deepDetour.join (ofString "z")) = .ok deepPlace ∧
      deepTree.metadata (deepDetour.join (ofString "z")) = .ok ⟨.directory, directoryMode⟩ ∧
      ∀ d, deepTree.canonical (deepDetour.join (ofString "z")) ≠ .ok d := by
  have hplace : deepTree.locate [] (deepDetour.join (ofString "z")) = .ok deepPlace := by
    decide +kernel
  have hnode : deepTree.metadataAt deepPlace = ⟨.directory, directoryMode⟩ := by decide +kernel
  have hzero : (deepDetour.join (ofString "z")).hasZeroByte = false := by decide +kernel
  exact ⟨hplace, hnode ▸ metadata_of_locate hzero hplace,
    canonical_ne_ok hplace (by decide +kernel)⟩

end FileSystem
end LineShell
