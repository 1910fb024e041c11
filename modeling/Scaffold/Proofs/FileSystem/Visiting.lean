import Scaffold.FileSystem.Walk
import Scaffold.Proofs.FileSystem.Lookup
import Scaffold.Proofs.FileSystem.Reading

/-! # What a walk finds

  A walk from a location finds every entry below it, each once. The path of a
  visited entry reads to the entry's location, however it is put together.

  - `mem_below`: the visited entries are the entries below.
  - `reading_path`, `reading_join_name`: the two paths of a visited entry.
-/

namespace Scaffold

open Scaffold.Path (IsPlain)

/-! ### Paths of names -/

namespace Path

variable {base : Path} {parts : List String}

/-- What is put together of names has the names as its steps. -/
theorem steps_of_names (h : ∀ name ∈ parts, IsName name) :
    steps ⟨Text.joinTexts '/' parts⟩ = parts ∧ isAbsolute ⟨Text.joinTexts '/' parts⟩ = false :=
  steps_of_plain fun name hname => ⟨(h name hname).isPlain, (h name hname).no_slash⟩

theorem steps_of_name {name : String} (h : IsName name) :
    steps ⟨name⟩ = [name] ∧ isAbsolute ⟨name⟩ = false := by
  have hall : ∀ n ∈ [name], IsName n := fun n hn => List.mem_singleton.1 hn ▸ h
  have hsteps := steps_of_names hall
  rwa [joinTexts_singleton] at hsteps

/-- Joining names one after the other appends them to the steps. -/
theorem steps_foldl_join (hbase : base.text ≠ "") (h : ∀ name ∈ parts, IsName name) :
    (parts.foldl join base).steps = base.steps ++ parts ∧
      (parts.foldl join base).isAbsolute = base.isAbsolute ∧
      (parts.foldl join base).text ≠ "" := by
  induction parts generalizing base with
  | nil => exact ⟨by simp, rfl, hbase⟩
  | cons name rest ih =>
    obtain ⟨hname, hrel⟩ := steps_of_name (h name List.mem_cons_self)
    have hjoin : (base.join name).text ≠ "" := join_text_ne_empty hbase
    obtain ⟨hsteps, habs, hne⟩ := ih hjoin fun n hn => h n (List.mem_cons_of_mem name hn)
    refine ⟨?_, habs.trans (isAbsolute_join hbase hrel), hne⟩
    rw [List.foldl_cons, hsteps, steps_join hbase hrel, hname, List.append_assoc]
    rfl

/-- A path that names are joined to begins as before. -/
theorem head_foldl_join (hbase : base.text ≠ "") (h : ∀ name ∈ parts, IsName name) :
    (parts.foldl join base).parts.head = base.parts.head := by
  induction parts generalizing base with
  | nil => rfl
  | cons name rest ih =>
    obtain ⟨-, hrel⟩ := steps_of_name (h name List.mem_cons_self)
    rw [List.foldl_cons,
      ih (join_text_ne_empty hbase) fun n hn => h n (List.mem_cons_of_mem name hn)]
    exact head_join hbase hrel

/-- The steps of names joined to nothing are the names. -/
theorem steps_foldl_join_empty (h : ∀ name ∈ parts, IsName name) :
    (parts.foldl join ⟨""⟩).steps = parts := by
  cases parts with
  | nil => rfl
  | cons name rest =>
    have hname := h name List.mem_cons_self
    rw [List.foldl_cons, join_empty (steps_of_name hname).2]
    rw [(steps_foldl_join hname.nonempty fun n hn => h n (List.mem_cons_of_mem name hn)).1,
      (steps_of_name hname).1]
    rfl

end Path

/-! ### Visited entries -/

namespace FileSystem

variable {fs : FileSystem} {l : Location} {v : Visited} {root : Path}

/-- A walk finds what is below the location where it begins. -/
theorem mem_below : v ∈ fs.below l ↔ (l ++ v.relative, v.entry) ∈ fs.entries ∧ v.relative ≠ [] := by
  unfold below
  rw [List.mem_map]
  constructor
  · rintro ⟨⟨k, entry⟩, he, rfl⟩
    obtain ⟨hmem, hcond⟩ := List.mem_filter.1 he
    obtain ⟨⟨rest, rfl⟩, hne⟩ : l <+: k ∧ l ≠ k := by simpa using hcond
    have hrest : rest ≠ [] := fun e => hne (by simp [e])
    simpa using ⟨hmem, hrest⟩
  · rintro ⟨hmem, hne⟩
    refine ⟨_, List.mem_filter.2 ⟨hmem, ?_⟩, ?_⟩
    · simpa using hne
    · simp

/-- Both walks find the same, each in its own order. -/
theorem collectContentsFirst_perm (fs : FileSystem) (l : Location) :
    (fs.collectContentsFirst l).Perm (fs.below l) := List.mergeSort_perm _ _

theorem collectAsListed_perm (fs : FileSystem) (l : Location) :
    (fs.collectAsListed l).Perm (fs.below l) := List.mergeSort_perm _ _

theorem mem_collectContentsFirst : v ∈ fs.collectContentsFirst l ↔ v ∈ fs.below l :=
  (collectContentsFirst_perm fs l).mem_iff

theorem mem_collectAsListed : v ∈ fs.collectAsListed l ↔ v ∈ fs.below l :=
  (collectAsListed_perm fs l).mem_iff

/-- The names below the place where a walk began are names. -/
theorem WellFormed.isName_relative (hfs : fs.WellFormed) (h : v ∈ fs.below l) {name : String}
    (hname : name ∈ v.relative) : IsName name :=
  hfs.named _ (mem_below.1 h).1 name (List.mem_append_right l hname)

/-- No two visited entries have the same names. -/
theorem WellFormed.nodup_below (hfs : fs.WellFormed) (l : Location) :
    ((fs.below l).map (·.relative)).Nodup := by
  let found := fs.entries.filter fun e => l.isPrefixOf e.1 && l != e.1
  have hbelow : ∀ e ∈ found, l <+: e.1 := by
    intro e he
    have hcond := (List.mem_filter.1 he).2
    rw [Bool.and_eq_true] at hcond
    exact List.isPrefixOf_iff_prefix.1 hcond.1
  have hnodup : ((found.map fun e => (rebase l [] e.1, e.2)).map (·.1)).Nodup :=
    nodup_rebase hbelow (hfs.distinct.sublist (List.filter_sublist.map Prod.fst))
  unfold below
  rw [List.map_map] at hnodup ⊢
  exact hnodup

theorem reading_of_steps {p q : Path} {rest : List String} (habs : p.isAbsolute = q.isAbsolute)
    (hsteps : p.steps = q.steps ++ rest) (h : ∀ name ∈ rest, IsPlain name) :
    fs.reading p = fs.reading q ++ rest := by
  rw [reading_eq_steps, reading_eq_steps, hsteps, readNames_append, readNames_plain h,
    origin_eq rfl habs]

/-- The path of a visited entry reads to its location. -/
theorem reading_path (hroot : root.text ≠ "") (h : ∀ name ∈ v.relative, IsName name) :
    fs.reading (v.path root) = fs.reading root ++ v.relative := by
  obtain ⟨hsteps, habs, -⟩ := Path.steps_foldl_join hroot h
  exact reading_of_steps habs hsteps fun name hname => (h name hname).isPlain

/-- So does the path that is made of its name. -/
theorem reading_join_name (hroot : root.text ≠ "") (h : ∀ name ∈ v.relative, IsName name) :
    fs.reading (root.join v.name) = fs.reading root ++ v.relative := by
  obtain ⟨hsteps, hrel⟩ := Path.steps_of_names h
  refine reading_of_steps (Path.isAbsolute_join hroot hrel) ?_ fun name hname =>
    (h name hname).isPlain
  exact (Path.steps_join hroot hrel).trans (congrArg _ hsteps)

end FileSystem

end Scaffold
