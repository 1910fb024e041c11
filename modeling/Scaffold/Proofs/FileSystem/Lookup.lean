import Mathlib.Data.List.Induction
import Mathlib.Data.List.Nodup
import Scaffold.FileSystem.Basic

/-! # Elementary changes, seen through look-ups

  What is at a location after each elementary change, and what a well-formed
  file system has above and below an entry.

  - `get?_setFile`, `get?_addDirectory`, `get?_eraseTree`: one equation per change.
  - `WellFormed.isDirectoryAt_of_prefix`: above an entry there are directories.
  - `IsSlot`: a location where an entry can be put.
-/

namespace Scaffold

/-! ### Look-up in lists of pairs -/

theorem lookup_cons_of_ne {α β : Type} [BEq α] [LawfulBEq α] {k k' : α} (h : k ≠ k') (v : β)
    (entries : List (α × β)) : ((k', v) :: entries).lookup k = entries.lookup k := by
  rw [List.lookup_cons, beq_eq_false_iff_ne.2 h]

theorem lookup_filter_key {α β : Type} [BEq α] [LawfulBEq α] (keep : α → Bool) (k : α)
    (entries : List (α × β)) :
    (entries.filter fun e => keep e.1).lookup k = if keep k then entries.lookup k else none := by
  induction entries with
  | nil => simp
  | cons e rest ih =>
    obtain ⟨k', v⟩ := e
    by_cases hk : k = k'
    · subst hk
      by_cases hkeep : keep k
      · simp [hkeep]
      · rw [List.filter_cons_of_neg (by simpa using hkeep), ih]
        simp [hkeep]
    · by_cases hkeep : keep k'
      · rw [List.filter_cons_of_pos (by simpa using hkeep), lookup_cons_of_ne hk,
          lookup_cons_of_ne hk, ih]
      · rw [List.filter_cons_of_neg (by simpa using hkeep), ih, lookup_cons_of_ne hk]

theorem mem_of_lookup {α β : Type} [BEq α] [LawfulBEq α] {k : α} {v : β}
    {entries : List (α × β)} (h : entries.lookup k = some v) : (k, v) ∈ entries := by
  induction entries with
  | nil => cases h
  | cons e rest ih =>
    obtain ⟨k', w⟩ := e
    by_cases hk : k = k'
    · subst hk
      rw [List.lookup_cons_self] at h
      obtain rfl := Option.some.inj h
      exact List.mem_cons_self
    · rw [lookup_cons_of_ne hk] at h
      exact List.mem_cons_of_mem _ (ih h)

theorem lookup_of_mem {α β : Type} [BEq α] [LawfulBEq α] {k : α} {v : β}
    {entries : List (α × β)} (hdistinct : (entries.map (·.1)).Nodup) (h : (k, v) ∈ entries) :
    entries.lookup k = some v := by
  induction entries with
  | nil => cases h
  | cons e rest ih =>
    obtain ⟨k', w⟩ := e
    rw [List.map_cons, List.nodup_cons] at hdistinct
    rcases List.mem_cons.1 h with heq | hrest
    · obtain ⟨rfl, rfl⟩ := Prod.mk.inj heq
      exact List.lookup_cons_self
    · have hk : k ≠ k' := by
        rintro rfl
        exact hdistinct.1 (List.mem_map.2 ⟨_, hrest, rfl⟩)
      rw [lookup_cons_of_ne hk]
      exact ih hdistinct.2 hrest

namespace FileSystem

variable {fs : FileSystem} {l m : Location} {entry : Entry} {content : ByteArray}

/-! ### Well-formed file systems -/

theorem get?_root (fs : FileSystem) : fs.get? [] = some .directory := rfl

theorem get?_of_ne_root (h : l ≠ []) : fs.get? l = fs.entries.lookup l := if_neg h

theorem isDirectoryAt_iff : fs.isDirectoryAt l ↔ fs.get? l = some .directory := by
  unfold isDirectoryAt
  cases h : fs.get? l with
  | none => simp
  | some entry => cases entry <;> simp [Entry.isDirectory]

theorem isFileAt_iff : fs.isFileAt l ↔ ∃ content, fs.get? l = some (.file content) := by
  unfold isFileAt
  cases h : fs.get? l with
  | none => simp
  | some entry => cases entry <;> simp [Entry.isFile, Entry.isDirectory]

theorem not_isDirectoryAt_of_file (h : fs.get? l = some (.file content)) :
    ¬ fs.isDirectoryAt l := by
  rw [isDirectoryAt_iff, h]
  exact nofun

/-- Where no file is, a directory is or nothing. -/
theorem isDirectoryAt_or_none (h : ¬ fs.isFileAt l) : fs.isDirectoryAt l ∨ fs.get? l = none := by
  rw [isDirectoryAt_iff]
  cases hget : fs.get? l with
  | none => exact .inr rfl
  | some entry =>
    cases entry with
    | directory => exact .inl rfl
    | file content => exact absurd (isFileAt_iff.2 ⟨content, hget⟩) h

theorem mem_entries_of_get? (hl : l ≠ []) (h : fs.get? l = some entry) :
    (l, entry) ∈ fs.entries := by
  rw [get?_of_ne_root hl] at h
  exact mem_of_lookup h

theorem WellFormed.get?_of_mem (hfs : fs.WellFormed) (h : (l, entry) ∈ fs.entries) :
    fs.get? l = some entry := by
  rw [get?_of_ne_root (hfs.below_root _ h)]
  exact lookup_of_mem hfs.distinct h

/-- An entry that is not the root lies in a directory. -/
theorem WellFormed.isDirectoryAt_dropLast (hfs : fs.WellFormed) (h : (fs.get? l).isSome) :
    fs.isDirectoryAt l.dropLast := by
  by_cases hl : l = []
  · subst hl
    rfl
  · obtain ⟨entry, hentry⟩ := Option.isSome_iff_exists.1 h
    exact hfs.in_directory _ (mem_entries_of_get? hl hentry)

/-- Above an entry there are directories. -/
theorem WellFormed.isDirectoryAt_of_prefix (hfs : fs.WellFormed) (h : (fs.get? l).isSome)
    (hm : m <+: l) (hne : m ≠ l) : fs.isDirectoryAt m := by
  obtain ⟨rest, rfl⟩ := hm
  induction rest using List.reverseRecOn with
  | nil => exact absurd (List.append_nil m).symm hne
  | append_singleton rest name ih =>
    have hdir := hfs.isDirectoryAt_dropLast h
    rw [← List.append_assoc, List.dropLast_concat] at hdir
    by_cases hrest : rest = []
    · subst hrest
      simpa using hdir
    · have hsome : (fs.get? (m ++ rest)).isSome := by rw [isDirectoryAt_iff.1 hdir]; rfl
      exact ih hsome (by simpa using hrest)

/-- Below what is no directory there is nothing. -/
theorem WellFormed.get?_below (hfs : fs.WellFormed) (hl : ¬ fs.isDirectoryAt l) (hm : l <+: m)
    (hne : l ≠ m) : fs.get? m = none := by
  cases h : fs.get? m with
  | none => rfl
  | some entry => exact absurd (hfs.isDirectoryAt_of_prefix (by simp [h]) hm hne) hl

/-- A file is not above a directory. -/
theorem WellFormed.not_prefix_of_file (hfs : fs.WellFormed)
    (hfile : fs.get? l = some (.file content)) (hm : fs.isDirectoryAt m) : ¬ l <+: m := by
  intro hpre
  by_cases hne : l = m
  · exact not_isDirectoryAt_of_file hfile (hne ▸ hm)
  · exact not_isDirectoryAt_of_file hfile
      (hfs.isDirectoryAt_of_prefix (Option.isSome_of_any hm) hpre hne)

/-- The names of a location with an entry are names. -/
theorem WellFormed.isName_of_mem (hfs : fs.WellFormed) (h : (fs.get? l).isSome) {name : String}
    (hname : name ∈ l) : IsName name := by
  by_cases hl : l = []
  · rw [hl] at hname
    cases hname
  · obtain ⟨entry, hentry⟩ := Option.isSome_iff_exists.1 h
    exact hfs.named _ (mem_entries_of_get? hl hentry) name hname

/-- All is well-formed but for the current directory, which can be anywhere. -/
def Sound (fs : FileSystem) : Prop := { fs with current := [] }.WellFormed

theorem WellFormed.sound (hfs : fs.WellFormed) : fs.Sound where
  distinct := hfs.distinct
  below_root := hfs.below_root
  in_directory := hfs.in_directory
  named := hfs.named
  current_directory := rfl

/-- An entry that is not the root lies in a directory. -/
theorem Sound.isDirectoryAt_dropLast (hfs : fs.Sound) (h : (fs.get? l).isSome) :
    fs.isDirectoryAt l.dropLast := by
  have hmoved : ({ fs with current := [] } : FileSystem).WellFormed := hfs
  exact hmoved.isDirectoryAt_dropLast h

/-- The bytes of the file at a location. -/
def contentAt (fs : FileSystem) (l : Location) : Option ByteArray :=
  (fs.get? l).bind Entry.content?

theorem contentAt_eq_some : fs.contentAt l = some content ↔ fs.get? l = some (.file content) := by
  unfold contentAt
  cases h : fs.get? l with
  | none => simp
  | some entry => cases entry <;> simp [Entry.content?]

/-- Nothing is where neither a directory nor a file is. -/
theorem get?_eq_none_iff : fs.get? l = none ↔ ¬ fs.isDirectoryAt l ∧ fs.contentAt l = none := by
  rw [isDirectoryAt_iff]
  unfold contentAt
  cases fs.get? l with
  | none => simp
  | some entry => cases entry <;> simp [Entry.content?]

/-- The same is where the same directory or the same file is. -/
theorem get?_ext {fs' : FileSystem} (hdir : fs.isDirectoryAt l ↔ fs'.isDirectoryAt l)
    (hcontent : fs.contentAt l = fs'.contentAt l) : fs.get? l = fs'.get? l := by
  rw [isDirectoryAt_iff, isDirectoryAt_iff] at hdir
  unfold contentAt at hcontent
  cases h : fs.get? l with
  | none =>
    cases h' : fs'.get? l with
    | none => rfl
    | some entry' => cases entry' <;> simp_all [Entry.content?]
  | some entry =>
    cases h' : fs'.get? l with
    | none => cases entry <;> simp_all [Entry.content?]
    | some entry' => cases entry <;> cases entry' <;> simp_all [Entry.content?]

/-! ### Slots -/

/-- A location where an entry can be put: below a directory, under a name. -/
structure IsSlot (fs : FileSystem) (l : Location) : Prop where
  /-- It is not the root. -/
  below_root : l ≠ []
  /-- The last name is a name. -/
  named : ∀ name ∈ l.getLast?, IsName name
  /-- What holds it is a directory. -/
  in_directory : fs.isDirectoryAt l.dropLast

theorem IsSlot.isName_of_mem (hslot : fs.IsSlot l) (hfs : fs.WellFormed) {name : String}
    (hname : name ∈ l) : IsName name := by
  rw [← List.dropLast_concat_getLast hslot.below_root, List.mem_append, List.mem_singleton] at hname
  rcases hname with hname | hname
  · refine hfs.isName_of_mem ?_ hname
    rw [isDirectoryAt_iff.1 hslot.in_directory]
    rfl
  · exact hslot.named name (by rw [hname, List.getLast?_eq_some_getLast hslot.below_root]; rfl)

/-- Above a slot there are directories. -/
theorem IsSlot.isDirectoryAt_of_prefix (hslot : fs.IsSlot l) (hfs : fs.WellFormed) (hm : m <+: l)
    (hne : m ≠ l) : fs.isDirectoryAt m := by
  rw [← List.dropLast_concat_getLast hslot.below_root, List.prefix_concat_iff,
    List.dropLast_concat_getLast hslot.below_root] at hm
  have habove := hm.resolve_left hne
  by_cases heq : m = l.dropLast
  · rw [heq]
    exact hslot.in_directory
  · refine hfs.isDirectoryAt_of_prefix ?_ habove heq
    exact Option.isSome_of_any hslot.in_directory

/-! ### Changes -/

theorem lookup_insertEntry (l m : Location) (entry : Entry) (entries : List (Location × Entry)) :
    (insertEntry l entry entries).lookup m = if m = l then some entry else entries.lookup m := by
  induction entries with
  | nil =>
    unfold insertEntry
    by_cases h : m = l
    · rw [if_pos h, h, List.lookup_cons_self]
    · rw [if_neg h, lookup_cons_of_ne h]
  | cons e rest ih =>
    obtain ⟨k, v⟩ := e
    unfold insertEntry
    by_cases hk : k = l
    · rw [if_pos hk, ← hk]
      by_cases h : m = k
      · rw [if_pos h, h, List.lookup_cons_self]
      · rw [if_neg h, lookup_cons_of_ne h, lookup_cons_of_ne h]
    · rw [if_neg hk]
      by_cases h : m = k
      · rw [if_neg (h ▸ hk), h, List.lookup_cons_self, List.lookup_cons_self]
      · rw [lookup_cons_of_ne h, lookup_cons_of_ne h, ih]

/-- Writing a file changes what is at its location and nothing else. -/
theorem get?_setFile (hl : l ≠ []) :
    (fs.setFile l content).get? m = if m = l then some (.file content) else fs.get? m := by
  by_cases hm : m = []
  · rw [hm, if_neg (Ne.symm hl)]
    rfl
  · rw [get?_of_ne_root hm, get?_of_ne_root hm]
    exact lookup_insertEntry l m _ fs.entries

/-- Making a directory changes what is at its location and nothing else. -/
theorem get?_addDirectory (hl : l ≠ []) (hnone : fs.get? l = none) :
    (fs.addDirectory l).get? m = if m = l then some .directory else fs.get? m := by
  by_cases hm : m = []
  · rw [hm, if_neg (Ne.symm hl)]
    rfl
  · rw [get?_of_ne_root hm, get?_of_ne_root hm]
    rw [get?_of_ne_root hl] at hnone
    unfold addDirectory
    rw [List.lookup_append]
    by_cases h : m = l
    · rw [if_pos h, h, hnone, List.lookup_cons_self]
      rfl
    · rw [if_neg h, lookup_cons_of_ne h]
      exact Option.or_none

theorem isPrefixOf_eq_false {k : Location} : l.isPrefixOf k = false ↔ ¬ l <+: k := by
  rw [← List.isPrefixOf_iff_prefix, Bool.not_eq_true]

/-- Erasing a tree leaves everything that is not at or below its top. -/
theorem get?_eraseTree (hl : l ≠ []) :
    (fs.eraseTree l).get? m = if l <+: m then none else fs.get? m := by
  by_cases hm : m = []
  · rw [hm, if_neg (by simpa using hl)]
    rfl
  · rw [get?_of_ne_root hm, get?_of_ne_root hm]
    unfold eraseTree
    rw [lookup_filter_key fun k => !l.isPrefixOf k]
    by_cases h : l <+: m
    · rw [if_pos h, if_neg (by simpa using h)]
    · rw [if_neg h, if_pos (by simpa using isPrefixOf_eq_false.2 h)]

theorem contentAt_eraseTree (hl : l ≠ []) :
    (fs.eraseTree l).contentAt m = if l <+: m then none else fs.contentAt m := by
  unfold contentAt
  rw [get?_eraseTree hl]
  split <;> rfl

/-- What lies at or below a location lies as far below another one after being rebased. -/
theorem rebase_append (source target rest : Location) :
    rebase source target (source ++ rest) = target ++ rest := by
  simp [rebase]

/-- Rebasing keeps locations apart. -/
theorem nodup_rebase {source target : Location} {entries : List (Location × Entry)}
    (hbelow : ∀ e ∈ entries, source <+: e.1) (h : (entries.map (·.1)).Nodup) :
    ((entries.map fun e => (rebase source target e.1, e.2)).map (·.1)).Nodup := by
  have hmap : (entries.map fun e => (rebase source target e.1, e.2)).map (·.1) =
      (entries.map (·.1)).map (rebase source target) := by
    rw [List.map_map, List.map_map]
    rfl
  rw [hmap]
  refine (List.nodup_map_iff_inj_on h).2 ?_
  intro k hk k' hk' heq
  obtain ⟨e, he, rfl⟩ := List.mem_map.1 hk
  obtain ⟨e', he', rfl⟩ := List.mem_map.1 hk'
  obtain ⟨rest, hrest⟩ := hbelow e he
  obtain ⟨rest', hrest'⟩ := hbelow e' he'
  rw [← hrest, ← hrest', rebase_append, rebase_append, List.append_cancel_left_eq] at heq
  rw [← hrest, ← hrest', heq]

theorem lookup_map_rebase {source target : Location} {entries : List (Location × Entry)}
    (h : ∀ e ∈ entries, source <+: e.1) (m : Location) :
    (entries.map fun e => (rebase source target e.1, e.2)).lookup (target ++ m) =
      entries.lookup (source ++ m) := by
  induction entries with
  | nil => rfl
  | cons e rest ih =>
    obtain ⟨k, v⟩ := e
    obtain ⟨suffix, rfl⟩ := h _ List.mem_cons_self
    rw [List.map_cons, rebase_append]
    by_cases hm : m = suffix
    · rw [hm, List.lookup_cons_self, List.lookup_cons_self]
    · rw [lookup_cons_of_ne (by simpa using hm), lookup_cons_of_ne (by simpa using hm)]
      exact ih fun e he => h e (List.mem_cons_of_mem _ he)

/-- Moving a tree to a free place takes everything below its top along. -/
theorem get?_moveTree {source target : Location} (hsource : source ≠ []) (htarget : target ≠ [])
    (hfree : ∀ k, target <+: k → fs.get? k = none) :
    (fs.moveTree source target).get? m =
      if target <+: m then fs.get? (rebase target source m)
      else if source <+: m then none else fs.get? m := by
  by_cases hm : m = []
  · rw [hm, if_neg (by simpa using htarget), if_neg (by simpa using hsource)]
    rfl
  rw [get?_of_ne_root hm, get?_of_ne_root hm]
  unfold moveTree
  rw [List.lookup_append, lookup_filter_key fun k => !source.isPrefixOf k]
  by_cases htm : target <+: m
  · obtain ⟨rest, rfl⟩ := htm
    -- At and below the target there is only what has moved there.
    have hstayed : fs.entries.lookup (target ++ rest) = none := by
      rw [← get?_of_ne_root hm]
      exact hfree _ (List.prefix_append target rest)
    have hne : source ++ rest ≠ [] := by simp [hsource]
    rw [if_pos (List.prefix_append target rest), rebase_append, hstayed, ite_self,
      lookup_map_rebase (by simp), lookup_filter_key fun k => source.isPrefixOf k,
      if_pos (by simp), get?_of_ne_root hne]
    rfl
  · have hmoved : ((fs.entries.filter fun e => source.isPrefixOf e.1).map fun e =>
        (rebase source target e.1, e.2)).lookup m = none := by
      refine List.lookup_eq_none_iff.2 fun e he => ?_
      obtain ⟨e', -, rfl⟩ := List.mem_map.1 he
      refine bne_iff_ne.2 fun hkey => htm ?_
      rw [hkey]
      exact List.prefix_append target _
    rw [hmoved, Option.or_none, if_neg htm]
    by_cases hsm : source <+: m
    · rw [if_pos hsm, if_neg (by simpa using hsm)]
    · rw [if_neg hsm, if_pos (by simpa using isPrefixOf_eq_false.2 hsm)]

end FileSystem

end Scaffold
