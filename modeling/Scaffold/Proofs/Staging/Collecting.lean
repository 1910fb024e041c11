import Scaffold.Proofs.Staging.Postorder

/-! # Collecting entries

  A walk reads the entries of a directory in whatever order the file system
  lists them, sorts them, and goes through them one by one: a subdirectory is
  walked through before it is visited. An entry is kept if it is wanted. What is
  collected in this way is the same for every order of listing, and it is what a
  collection of everything leaves if the unwanted entries are left out.

  - `Collected`: one walk, directory by directory.
  - `Collected.inOrder`, `exists_collected`: what a walk yields, and that there is one.
  - `collection_is_postorder`: collections are in order, whatever the file system does.
-/

namespace Scaffold

namespace FileSystem

variable {fs fs' : FileSystem} {l dir : Location} {v w : Visited} {wanted : Visited → Bool}
  {found : List Visited} {listing : List (String × Entry)} {inner : String → List Visited}
  {e e' : String × Entry}

/-! ### One walk -/

/-- The entries of one directory in some order, each with its name. -/
structure IsListing (fs : FileSystem) (dir : Location) (listing : List (String × Entry)) :
    Prop where
  /-- It has every entry of the directory and nothing else. -/
  mem_iff : ∀ name entry, (name, entry) ∈ listing ↔ fs.get? (dir ++ [name]) = some entry
  /-- It has no entry twice. -/
  nodup : listing.Nodup

/-- The order in which a walk takes the entries of a directory: subdirectories first, then by the
bytes of the names. -/
def listedLe (e e' : String × Entry) : Bool :=
  if e.2.isDirectory = e'.2.isDirectory then decide (¬ NameLt e'.1 e.1) else e.2.isDirectory

/-- What a walk keeps of one entry: what is kept of a subdirectory, and then the entry if it is
wanted. -/
def visit (wanted : Visited → Bool) (dir : Location) (inner : String → List Visited)
    (e : String × Entry) : List Visited :=
  (if e.2.isDirectory then inner e.1 else []) ++ [⟨dir ++ [e.1], e.2⟩].filter wanted

/-- What a walk from `l` that keeps the wanted entries yields of the directory `dir` below `l`. The
file system may list the entries of each directory in any order. -/
inductive Collected (fs : FileSystem) (l : Location) (wanted : Visited → Bool) :
    Location → List Visited → Prop where
  /-- The entries are listed and sorted, and each is visited after what it holds. -/
  | walk {dir : Location} {listing : List (String × Entry)} {inner : String → List Visited} :
      IsListing fs (l ++ dir) listing →
      (∀ name, (name, Entry.directory) ∈ listing →
        Collected fs l wanted (dir ++ [name]) (inner name)) →
      Collected fs l wanted dir ((listing.mergeSort listedLe).flatMap (visit wanted dir inner))

/-! ### Sorted listings -/

/-- What the order of a listing looks at. -/
def listedKey (e : String × Entry) : Bool × String := (e.2.isDirectory, e.1)

theorem listedLe_iff : listedLe e e' = true ↔ ¬ StepLt (listedKey e') (listedKey e) := by
  obtain ⟨name, entry⟩ := e
  obtain ⟨name', entry'⟩ := e'
  unfold listedLe listedKey StepLt
  simp only [nameLt_iff]
  cases entry.isDirectory <;> cases entry'.isDirectory <;> simp

theorem listedLe_total (e e' : String × Entry) : listedLe e e' || listedLe e' e := by
  rw [Bool.or_eq_true, listedLe_iff, listedLe_iff]
  by_contra hnone
  obtain ⟨hback, hforth⟩ := not_or.1 hnone
  exact StepLt.irrefl _ ((not_not.1 hback).trans (not_not.1 hforth))

theorem listedLe_trans (a b c : String × Entry) (hab : listedLe a b) (hbc : listedLe b c) :
    listedLe a c := by
  rw [listedLe_iff] at hab hbc ⊢
  intro hca
  rcases stepLt_trichotomy (listedKey a) (listedKey b) with hlt | heq | hlt
  · exact hbc (hca.trans hlt)
  · rw [heq] at hca
    exact hbc hca
  · exact hab hlt

/-- In a sorted listing every entry decides the order with all that follow it. -/
theorem IsListing.pairwise_stepLt (h : IsListing fs dir listing) :
    (listing.mergeSort listedLe).Pairwise fun e e' => StepLt (listedKey e) (listedKey e') := by
  have hperm := List.mergeSort_perm listing listedLe
  have hsorted := List.pairwise_mergeSort listedLe_trans listedLe_total listing
  refine (hsorted.and (hperm.nodup_iff.2 h.nodup)).imp_of_mem ?_
  rintro ⟨name, entry⟩ ⟨name', entry'⟩ he he' ⟨hle, hne⟩
  rw [hperm.mem_iff, h.mem_iff] at he he'
  rw [listedLe_iff] at hle
  rcases stepLt_trichotomy (listedKey (name, entry)) (listedKey (name', entry')) with
    hlt | heq | hlt
  · exact hlt
  · -- Under one name there is one entry only.
    obtain ⟨-, hname⟩ := Prod.mk.inj heq
    obtain rfl : name = name' := hname
    rw [he] at he'
    exact absurd (congrArg (name, ·) (Option.some.inj he')) hne
  · exact absurd hlt hle

/-! ### What a walk yields -/

theorem mem_visit : v ∈ visit wanted dir inner e ↔
    (e.2.isDirectory = true ∧ v ∈ inner e.1) ∨
      (v = ⟨dir ++ [e.1], e.2⟩ ∧ wanted v = true) := by
  unfold visit
  rw [List.mem_append, List.mem_filter, List.mem_singleton]
  cases e.2.isDirectory <;> simp

/-- The list holds the wanted entries below the directory `dir`, in the order of their steps. -/
structure InOrderBelow (fs : FileSystem) (l : Location) (wanted : Visited → Bool) (dir : Location)
    (found : List Visited) : Prop where
  /-- It has every wanted entry below the directory, and nothing else. -/
  mem_iff : ∀ v, v ∈ found ↔ (dir <+: v.relative ∧ dir ≠ v.relative ∧
    fs.get? (l ++ v.relative) = some v.entry) ∧ wanted v = true
  /-- Every entry comes before all that follow it. -/
  before : found.Pairwise Visited.Before

theorem isDirectoryAt_of_entry {entry : Entry} (h : fs.get? dir = some entry)
    (hdir : entry.isDirectory = true) : fs.isDirectoryAt dir := by
  unfold isDirectoryAt
  rw [h]
  exact hdir

/-- What is kept of the entry `e` of a directory is this entry, or lies below it. -/
structure IsPartOf (fs : FileSystem) (l dir : Location) (e : String × Entry) (v : Visited) :
    Prop where
  /-- It lies at or below the entry. -/
  within : dir ++ [e.1] <+: v.relative
  /-- It is there. -/
  get? : fs.get? (l ++ v.relative) = some v.entry
  /-- If the entry is a file, it is the entry. -/
  file : e.2.isDirectory = false → v.relative = dir ++ [e.1] ∧ v.entry.isFile = true

theorem IsPartOf.itself (he : fs.get? (l ++ (dir ++ [e.1])) = some e.2) :
    IsPartOf fs l dir e ⟨dir ++ [e.1], e.2⟩ :=
  ⟨List.prefix_refl _, he, fun hfile => ⟨rfl, by simp [Entry.isFile, hfile]⟩⟩

/-- Of two entries of a directory, the first one and all that it holds come before the second one
and all that that holds. -/
theorem IsPartOf.earlier (hv : IsPartOf fs l dir e v) (hw : IsPartOf fs l dir e' w)
    (he : fs.get? (l ++ (dir ++ [e.1])) = some e.2)
    (he' : fs.get? (l ++ (dir ++ [e'.1])) = some e'.2)
    (hlt : StepLt (listedKey e) (listedKey e')) : Earlier fs l v w := by
  rcases hlt with ⟨hdir, hfile⟩ | ⟨hkind, hname⟩
  · obtain ⟨hwname, hwfile⟩ := hw.file hfile
    exact .directoryFile (isDirectoryAt_of_entry he hdir) hv.within hwname hwfile
  · have hlt : NameLt e.1 e'.1 := nameLt_iff.2 hname
    have hsame : e.2.isDirectory = e'.2.isDirectory := hkind
    cases hdir : e.2.isDirectory with
    | true =>
      have hdir' : e'.2.isDirectory = true := hsame ▸ hdir
      exact .directories (isDirectoryAt_of_entry he hdir) (isDirectoryAt_of_entry he' hdir') hlt
        hv.within hw.within
    | false =>
      obtain ⟨hvname, hvfile⟩ := hv.file hdir
      obtain ⟨hwname, hwfile⟩ := hw.file (hsame ▸ hdir)
      exact .files hvname hwname hvfile hwfile hlt

namespace InOrderBelow

theorem isPartOf (h : InOrderBelow fs l wanted (dir ++ [e.1]) found) (hdir : e.2.isDirectory = true)
    (hv : v ∈ found) : IsPartOf fs l dir e v := by
  obtain ⟨⟨hpre, -, hget⟩, -⟩ := (h.mem_iff v).1 hv
  refine ⟨hpre, hget, fun hfile => ?_⟩
  rw [hdir] at hfile
  cases hfile

/-- What is kept of one entry is in order if what is kept below it is. -/
theorem before_visit (hfs : fs.WellFormed) (he : fs.get? (l ++ (dir ++ [e.1])) = some e.2)
    (hinner : e.2.isDirectory = true → InOrderBelow fs l wanted (dir ++ [e.1]) (inner e.1)) :
    (visit wanted dir inner e).Pairwise Visited.Before := by
  unfold visit
  rw [List.pairwise_append]
  refine ⟨?_, List.Pairwise.filter _ (List.pairwise_singleton _ _), ?_⟩
  · split
    · next hdir => exact (hinner hdir).before
    · exact .nil
  · intro v hv w hw
    obtain rfl := List.mem_singleton.1 (List.mem_filter.1 hw).1
    split at hv
    · next hdir =>
      obtain ⟨⟨hpre, hne, hget⟩, -⟩ := ((hinner hdir).mem_iff v).1 hv
      have hearlier : Earlier fs l v ⟨dir ++ [e.1], e.2⟩ := .held hpre hne
      exact hearlier.before hget he hfs
    · cases hv

/-- What is kept of an entry is part of it, and wanted. -/
theorem isPartOf_visit (he : fs.get? (l ++ (dir ++ [e.1])) = some e.2)
    (hinner : e.2.isDirectory = true → InOrderBelow fs l wanted (dir ++ [e.1]) (inner e.1))
    (hv : v ∈ visit wanted dir inner e) : IsPartOf fs l dir e v ∧ wanted v = true := by
  rcases mem_visit.1 hv with ⟨hdir, hv⟩ | ⟨rfl, hwanted⟩
  · exact ⟨(hinner hdir).isPartOf hdir hv, (((hinner hdir).mem_iff v).1 hv).2⟩
  · exact ⟨.itself he, hwanted⟩

/-- What lies below a directory and is wanted is kept of one of its entries. -/
theorem exists_mem_visit (hfs : fs.WellFormed)
    (hinner : ∀ name, fs.get? (l ++ (dir ++ [name])) = some .directory →
      InOrderBelow fs l wanted (dir ++ [name]) (inner name))
    (hpre : dir <+: v.relative) (hne : dir ≠ v.relative)
    (hget : fs.get? (l ++ v.relative) = some v.entry) (hwanted : wanted v = true) :
    ∃ e : String × Entry, fs.get? (l ++ (dir ++ [e.1])) = some e.2 ∧
      v ∈ visit wanted dir inner e := by
  obtain ⟨rest, hrest⟩ := hpre
  cases rest with
  | nil => exact absurd (by simpa using hrest) hne
  | cons name rest =>
    rcases directory_or_file hfs hget hrest.symm with ⟨hdir, hpre⟩ | ⟨hname, hfile⟩
    · rw [isDirectoryAt_iff] at hdir
      refine ⟨(name, .directory), hdir, mem_visit.2 ?_⟩
      by_cases hself : dir ++ [name] = v.relative
      · -- The entry is the subdirectory itself.
        refine .inr ⟨?_, hwanted⟩
        rw [hself, hget] at hdir
        cases v
        exact congr (congrArg Visited.mk hself.symm) (Option.some.inj hdir)
      · exact .inl ⟨rfl, ((hinner name hdir).mem_iff v).2 ⟨⟨hpre, hself, hget⟩, hwanted⟩⟩
    · refine ⟨(name, v.entry), hname ▸ hget, mem_visit.2 (.inr ⟨?_, hwanted⟩)⟩
      cases v
      exact congrArg (Visited.mk · _) hname

/-- One directory: what is kept of its entries is in order if what is kept of its subdirectories
is. -/
theorem walk (hfs : fs.WellFormed) (hlisting : IsListing fs (l ++ dir) listing)
    (hinner : ∀ name, (name, Entry.directory) ∈ listing →
      InOrderBelow fs l wanted (dir ++ [name]) (inner name)) :
    InOrderBelow fs l wanted dir
      ((listing.mergeSort listedLe).flatMap (visit wanted dir inner)) := by
  have hmem : ∀ e, e ∈ listing.mergeSort listedLe ↔
      fs.get? (l ++ (dir ++ [e.1])) = some e.2 := by
    rintro ⟨name, entry⟩
    rw [(List.mergeSort_perm listing listedLe).mem_iff, hlisting.mem_iff, List.append_assoc]
  have hbelow : ∀ name, fs.get? (l ++ (dir ++ [name])) = some .directory →
      InOrderBelow fs l wanted (dir ++ [name]) (inner name) := by
    intro name hget
    apply hinner
    rw [hlisting.mem_iff, List.append_assoc]
    exact hget
  have hentry : ∀ e : String × Entry, fs.get? (l ++ (dir ++ [e.1])) = some e.2 →
      e.2.isDirectory = true → InOrderBelow fs l wanted (dir ++ [e.1]) (inner e.1) := by
    rintro ⟨name, entry⟩ hget hdir
    cases entry with
    | directory => exact hbelow name hget
    | file content => cases hdir
  constructor
  · intro v
    rw [List.mem_flatMap]
    constructor
    · rintro ⟨e, he, hv⟩
      rw [hmem] at he
      obtain ⟨hpart, hwanted⟩ := isPartOf_visit he (hentry e he) hv
      refine ⟨⟨(List.prefix_append dir [e.1]).trans hpart.within, ?_, hpart.get?⟩, hwanted⟩
      intro hself
      have hlength := hpart.within.length_le
      rw [← hself, List.length_append, List.length_singleton] at hlength
      omega
    · rintro ⟨⟨hpre, hne, hget⟩, hwanted⟩
      obtain ⟨e, he, hv⟩ := exists_mem_visit hfs hbelow hpre hne hget hwanted
      exact ⟨e, (hmem e).2 he, hv⟩
  · rw [List.pairwise_flatMap]
    constructor
    · intro e he
      rw [hmem] at he
      exact before_visit hfs he (hentry e he)
    · refine hlisting.pairwise_stepLt.imp_of_mem ?_
      intro e e' he he' hlt v hv w hw
      rw [hmem] at he he'
      obtain ⟨hv, -⟩ := isPartOf_visit he (hentry e he) hv
      obtain ⟨hw, -⟩ := isPartOf_visit he' (hentry e' he') hw
      exact (hv.earlier hw he he' hlt).before hv.get? hw.get? hfs

end InOrderBelow

/-- A whole walk: by induction on the directories that are walked through. -/
theorem Collected.inOrder (h : Collected fs l wanted dir found) (hfs : fs.WellFormed) :
    InOrderBelow fs l wanted dir found := by
  induction h with
  | walk hlisting _ ih => exact .walk hfs hlisting ih

theorem InOrderBelow.isPostorder (h : InOrderBelow fs l wanted [] found) (hfs : fs.WellFormed) :
    IsPostorder fs l wanted found := by
  apply IsPostorder.of_before hfs _ h.before
  intro v
  rw [h.mem_iff]
  refine and_congr_left fun _ => ?_
  constructor
  · rintro ⟨-, hne, hget⟩
    exact ⟨hne.symm, hget⟩
  · rintro ⟨hne, hget⟩
    exact ⟨List.nil_prefix, hne.symm, hget⟩

/-! ### There is a walk -/

/-- The name and entry of what lies directly in the directory where a walk began. -/
def Visited.child? (v : Visited) : Option (String × Entry) :=
  match v.relative with
  | [name] => some (name, v.entry)
  | _ => none

theorem Visited.child?_eq_some_iff : v.child? = some e ↔ v = ⟨[e.1], e.2⟩ := by
  obtain ⟨relative, entry⟩ := v
  obtain ⟨name, entry'⟩ := e
  unfold Visited.child?
  constructor
  · intro h
    split at h
    · next heq =>
      obtain ⟨rfl, rfl⟩ := Prod.mk.inj (Option.some.inj h)
      exact congrArg (Visited.mk · entry) heq
    · cases h
  · intro h
    obtain ⟨rfl, rfl⟩ := Visited.mk.inj h
    rfl

/-- The entries of a directory in the order in which the file system has them. -/
def listed (fs : FileSystem) (dir : Location) : List (String × Entry) :=
  (fs.below dir).filterMap Visited.child?

theorem isListing_listed (hfs : fs.WellFormed) (dir : Location) :
    IsListing fs dir (fs.listed dir) := by
  constructor
  · intro name entry
    unfold listed
    rw [List.mem_filterMap]
    constructor
    · rintro ⟨v, hv, hchild⟩
      obtain rfl := Visited.child?_eq_some_iff.1 hchild
      exact hfs.get?_of_mem (mem_below.1 hv).1
    · intro hget
      refine ⟨⟨[name], entry⟩, mem_below.2 ⟨?_, List.cons_ne_nil _ _⟩, rfl⟩
      exact mem_entries_of_get? (by simp) hget
  · refine List.Nodup.filterMap ?_ (hfs.nodup_below dir).of_map
    intro v w e hv hw
    rw [Visited.child?_eq_some_iff.1 hv, Visited.child?_eq_some_iff.1 hw]

/-- Every directory can be walked through: by induction on how far the tree reaches below it. -/
theorem exists_collected_of_depth (hfs : fs.WellFormed) (l : Location) (wanted : Visited → Bool)
    (depth : Nat) (dir : Location)
    (hdepth : ∀ e ∈ fs.entries, e.1.length ≤ (l ++ dir).length + depth) :
    ∃ found, Collected fs l wanted dir found := by
  have hlisting := isListing_listed hfs (l ++ dir)
  induction depth generalizing dir with
  | zero =>
    -- The directory is empty.
    let inner : String → List Visited := fun _ => []
    have hnone : ∀ name, (name, Entry.directory) ∈ fs.listed (l ++ dir) →
        Collected fs l wanted (dir ++ [name]) (inner name) := by
      intro name hmem
      have hget := (hlisting.mem_iff name .directory).1 hmem
      have hlength := hdepth _ (mem_entries_of_get? (by simp) hget)
      simp only [List.length_append, List.length_singleton] at hlength
      omega
    exact ⟨_, .walk hlisting hnone⟩
  | succ depth ih =>
    have hbelow : ∀ name, ∃ found, Collected fs l wanted (dir ++ [name]) found := by
      intro name
      apply ih (dir ++ [name]) _ (isListing_listed hfs _)
      intro e he
      have hlength := hdepth e he
      simp only [List.length_append, List.length_singleton] at hlength ⊢
      omega
    choose inner hinner using hbelow
    exact ⟨_, .walk hlisting fun name _ => hinner name⟩

theorem exists_collected (hfs : fs.WellFormed) (l : Location) (wanted : Visited → Bool) :
    ∃ found, Collected fs l wanted [] found := by
  apply exists_collected_of_depth hfs l wanted (fs.entries.map (·.1)).flatten.length
  intro e he
  have hpart := (List.sublist_flatten_of_mem (List.mem_map_of_mem (f := (·.1)) he)).length_le
  omega

/-- Every walk yields the same list. -/
theorem collected_iff (hfs : fs.WellFormed) : Collected fs l wanted [] found ↔
    found = (fs.collectContentsFirst l).filter wanted := by
  constructor
  · intro h
    exact (isPostorder_iff hfs).1 ((h.inOrder hfs).isPostorder hfs)
  · rintro rfl
    obtain ⟨found, h⟩ := exists_collected hfs l wanted
    rwa [← (isPostorder_iff hfs).1 ((h.inOrder hfs).isPostorder hfs)]

/-! ### Other orders of listing -/

/-- The second file system holds the same as the first one, but directories may list it in another
order. -/
structure Relisted (fs fs' : FileSystem) : Prop where
  /-- The entries are the same. -/
  entries : fs'.entries.Perm fs.entries
  /-- The current directory is the same. -/
  current : fs'.current = fs.current

namespace Relisted

theorem get?_eq (h : Relisted fs fs') (hfs : fs.WellFormed) (place : Location) :
    fs'.get? place = fs.get? place := by
  by_cases hplace : place = []
  · rw [hplace]
    rfl
  · have hdistinct : (fs'.entries.map (·.1)).Nodup :=
      (h.entries.map (·.1)).nodup_iff.2 hfs.distinct
    rw [get?_of_ne_root hplace, get?_of_ne_root hplace]
    apply Option.ext
    intro entry
    constructor
    · intro hthere
      exact lookup_of_mem hfs.distinct (h.entries.mem_iff.1 (mem_of_lookup hthere))
    · intro hthere
      exact lookup_of_mem hdistinct (h.entries.mem_iff.2 (mem_of_lookup hthere))

theorem isDirectoryAt_eq (h : Relisted fs fs') (hfs : fs.WellFormed) (place : Location) :
    fs'.isDirectoryAt place = fs.isDirectoryAt place := by
  unfold isDirectoryAt
  rw [h.get?_eq hfs]

theorem wellFormed (h : Relisted fs fs') (hfs : fs.WellFormed) : fs'.WellFormed where
  distinct := (h.entries.map (·.1)).nodup_iff.2 hfs.distinct
  below_root e he := hfs.below_root e (h.entries.mem_iff.1 he)
  in_directory e he := by
    rw [h.isDirectoryAt_eq hfs]
    exact hfs.in_directory e (h.entries.mem_iff.1 he)
  named e he := hfs.named e (h.entries.mem_iff.1 he)
  current_directory := by
    rw [h.isDirectoryAt_eq hfs, h.current]
    exact hfs.current_directory

theorem locate {p : Path} (h : Relisted fs fs') (hfs : fs.WellFormed)
    (hp : fs.locate p = .ok l) : fs'.locate p = .ok l := by
  refine locate_of_directories h.current.symm ?_ ?_ hp
  · intro place hdir
    rwa [h.isDirectoryAt_eq hfs]
  · intro hthere
    rwa [h.get?_eq hfs]

/-- Which of two entries comes first does not depend on the order of listing. -/
theorem earlier (h : Relisted fs fs') (hfs : fs.WellFormed) (hvw : Earlier fs l v w) :
    Earlier fs' l v w := by
  cases hvw with
  | held hpre hne => exact .held hpre hne
  | directoryFile hdir hpre hname hfile =>
    rw [← h.isDirectoryAt_eq hfs] at hdir
    exact .directoryFile hdir hpre hname hfile
  | directories hdir hdir' hlt hpre hpre' =>
    rw [← h.isDirectoryAt_eq hfs] at hdir hdir'
    exact .directories hdir hdir' hlt hpre hpre'
  | files hname hname' hfile hfile' hlt => exact .files hname hname' hfile hfile' hlt

theorem isPostorder (h : Relisted fs fs') (hfs : fs.WellFormed)
    (hfound : IsPostorder fs' l wanted found) : IsPostorder fs l wanted found := by
  refine ⟨fun v => ?_, hfound.nodup, fun v hv w hw hvw => ?_, hfound.contiguous⟩
  · rw [hfound.mem_iff, h.get?_eq hfs]
  · exact hfound.ordered v hv w hw (h.earlier hfs hvw)

end Relisted

end FileSystem

namespace Staging

open FileSystem (Visited IsPostorder Collected Relisted)

/-! ### Collections -/

/-- What is collected does not depend on the order of listing. -/
theorem collect_of_relisted {fs fs' : FileSystem} {root : Path} {wanted : Visited → Bool}
    (h : Relisted fs fs') (hfs : fs.WellFormed) (hroot : fs.locate root = .ok (fs.reading root)) :
    collect fs' root wanted = collect fs root wanted := by
  have hreading := FileSystem.reading_congr h.current root
  have hroot' : fs'.locate root = .ok (fs'.reading root) := by
    rw [hreading]
    exact h.locate hfs hroot
  have hother := FileSystem.isPostorder_collectContentsFirst (h.wellFormed hfs)
    (fs'.reading root) wanted
  rw [collect_of_located hroot, collect_of_located hroot']
  rw [hreading] at hother ⊢
  exact congrArg Except.ok ((FileSystem.isPostorder_iff hfs).1 (h.isPostorder hfs hother))

/-- What is wanted below a root is collected in order, whatever the file system does. A root that is
there has a collection, which lists every wanted entry once and nothing else, each directory after
what it holds, subdirectories before files and by their names. No other list is in this order. It is
what every walk yields that goes through the directories one by one, it is the same for every order
of listing, and it is what is left of a collection of everything. -/
theorem collection_is_postorder (fs : FileSystem) (root : Path) (wanted : Visited → Bool)
    (hfs : fs.WellFormed) (hroot : fs.locate root = .ok (fs.reading root)) :
    ∃ found, collect fs root wanted = .ok found ∧
      IsPostorder fs (fs.reading root) wanted found ∧
      (found.map (·.path root)).Nodup ∧
      (∀ other, IsPostorder fs (fs.reading root) wanted other → other = found) ∧
      (∀ walked, Collected fs (fs.reading root) wanted [] walked ↔ walked = found) ∧
      (∀ fs', Relisted fs fs' → collect fs' root wanted = .ok found) ∧
      ∃ all, collect fs root (fun _ => true) = .ok all ∧
        (∀ walked, Collected fs (fs.reading root) (fun _ => true) [] walked ↔ walked = all) ∧
        found = all.filter wanted := by
  have hfound := FileSystem.isPostorder_collectContentsFirst hfs (fs.reading root) wanted
  refine ⟨_, collect_of_located hroot wanted, hfound, ?_, fun other hother => ?_,
    fun walked => FileSystem.collected_iff hfs, fun fs' hrelisted => ?_,
    _, collect_of_located hroot _, fun walked => FileSystem.collected_iff hfs, ?_⟩
  · apply FileSystem.nodup_paths
    · intro v hv
      apply FileSystem.Descends.path (FileSystem.locate_text_ne_empty hroot)
      intro name hname
      obtain ⟨⟨-, hentry⟩, -⟩ := (hfound.mem_iff v).1 hv
      exact hfs.isName_of_mem (by rw [hentry]; rfl) (List.mem_append_right _ hname)
    · exact hfound.nodup
  · exact hfound.unique hother hfs
  · rw [collect_of_relisted hrelisted hfs hroot, collect_of_located hroot]
  · rw [List.filter_filter]
    simp

/-! ### A tree and its collection -/

/-- A staging tree in the order of its collection. -/
def orderedFiles : FileSystem :=
  { entries := [
      (["stage", "lib", "deep", "x"], .file "1".toUTF8), (["stage", "lib", "deep"], .directory),
      (["stage", "lib", "b"], .file "2".toUTF8), (["stage", "lib"], .directory),
      (["stage", "é", "y"], .file "3".toUTF8), (["stage", "é"], .directory),
      (["stage", "Z"], .file "4".toUTF8), (["stage", "a"], .file "5".toUTF8),
      (["stage"], .directory)] }

/-- The same tree in the other direction. -/
def reversedFiles : FileSystem := { orderedFiles with entries := orderedFiles.entries.reverse }

theorem collect_orderedFiles :
    collect orderedFiles ⟨"/stage"⟩ (fun v => v.relative.length ≤ 2) =
      .ok [⟨["lib", "deep"], .directory⟩, ⟨["lib", "b"], .file "2".toUTF8⟩, ⟨["lib"], .directory⟩,
        ⟨["é", "y"], .file "3".toUTF8⟩, ⟨["é"], .directory⟩, ⟨["Z"], .file "4".toUTF8⟩,
        ⟨["a"], .file "5".toUTF8⟩] := by
  have hroot : orderedFiles.walkRoot ⟨"/stage"⟩ = .ok ["stage"] := by decide +kernel
  have hfound : orderedFiles.collectContentsFirst ["stage"] = orderedFiles.below ["stage"] :=
    List.mergeSort_of_pairwise (by decide +kernel)
  unfold collect entries
  simp only [hroot, hfound, Except.map]
  decide +kernel

/-- The collection of the tree whose entries are listed backwards is known from that of the tree
whose entries need no sorting. -/
theorem collection_is_postorder_of_reversedFiles :
    reversedFiles.WellFormed ∧
    reversedFiles.locate ⟨"/stage"⟩ = .ok (reversedFiles.reading ⟨"/stage"⟩) ∧
    Relisted reversedFiles orderedFiles ∧
    ∃ found, collect reversedFiles ⟨"/stage"⟩ (fun v => v.relative.length ≤ 2) = .ok found ∧
      found.map (·.relative) =
        [["lib", "deep"], ["lib", "b"], ["lib"], ["é", "y"], ["é"], ["Z"], ["a"]] ∧
      IsPostorder reversedFiles (reversedFiles.reading ⟨"/stage"⟩)
        (fun v => v.relative.length ≤ 2) found ∧
      Collected reversedFiles (reversedFiles.reading ⟨"/stage"⟩)
        (fun v => v.relative.length ≤ 2) [] found := by
  have hfs : reversedFiles.WellFormed := by decide +kernel
  have hroot : reversedFiles.locate ⟨"/stage"⟩ = .ok (reversedFiles.reading ⟨"/stage"⟩) := by
    decide +kernel
  have hrelisted : Relisted reversedFiles orderedFiles :=
    ⟨(List.reverse_perm orderedFiles.entries).symm, rfl⟩
  obtain ⟨found, hfound, horder, -, -, hwalk, hsame, -⟩ :=
    collection_is_postorder reversedFiles ⟨"/stage"⟩ (fun v => v.relative.length ≤ 2) hfs hroot
  refine ⟨hfs, hroot, hrelisted, found, hfound, ?_, horder, (hwalk found).2 rfl⟩
  have hordered := hsame orderedFiles hrelisted
  rw [collect_orderedFiles] at hordered
  rw [← Except.ok.inj hordered]
  rfl

end Staging

end Scaffold
