import Scaffold.Proofs.FileSystem.Listing
import Scaffold.Proofs.Staging.Ignoring

/-! # Walks that pass over directories

  A walk through a template comes to the entries of a directory in any order,
  and from a subdirectory it goes on to what is in it. Names that are no texts
  may turn up on the way. When it comes to a directory that it skips, it passes
  over what is in it and looks at none of that. What it chooses is what is left
  of all entries with texts for names if those that are skipped are left out,
  and with them what lies below one of them.

  - `Walks`: a walk through one directory.
  - `Walks.chosen_eq`: what is chosen of a whole walk.
  - `walks_collectAsListed`: the listing of a file system is such a walk.
-/

namespace Scaffold.Staging

open FileSystem (Visited)

variable {rules : IgnoreRules} {e : Listed} {v : Visited} {above front names : List ByteArray}
  {name : ByteArray} {walk inside rest tail : List Listed} {relative : Location}
  {passed : Option (List ByteArray)}

/-! ### Names as bytes -/

/-- The names of a location as bytes. -/
def namesOf (relative : Location) : List ByteArray := relative.map String.toUTF8

theorem namesOf_prefix_iff {a b : Location} : namesOf a <+: namesOf b ↔ a <+: b :=
  List.prefix_map_iff_of_injective fun _ _ h => String.toByteArray_inj.1 h

theorem fromUTF8?_eq_some_iff {text : String} :
    String.fromUTF8? name = some text ↔ name = text.toUTF8 := by
  constructor
  · intro h
    unfold String.fromUTF8? at h
    split at h
    · rw [← Option.some.inj h]
      rfl
    · cases h
  · rintro rfl
    exact dif_pos text.isValidUTF8

/-- Bytes are texts if they are the names of a location. -/
theorem mapM_fromUTF8?_eq_some_iff :
    names.mapM String.fromUTF8? = some relative ↔ names = namesOf relative := by
  induction names generalizing relative with
  | nil => cases relative <;> simp [namesOf]
  | cons name names ih =>
    rw [List.mapM_cons]
    simp only [bind, pure, Option.bind_eq_some_iff, fromUTF8?_eq_some_iff, ih]
    constructor
    · rintro ⟨text, rfl, texts, rfl, hrelative⟩
      rw [← Option.some.inj hrelative]
      rfl
    · intro h
      cases relative with
      | nil => cases h
      | cons text texts =>
        obtain ⟨rfl, rfl⟩ := List.cons.inj h
        exact ⟨text, rfl, texts, rfl, rfl⟩

/-- Only an entry with texts for names can be visited. -/
theorem visited?_eq_some_iff : e.visited? = some v ↔ e = .ofVisited v := by
  obtain ⟨names, entry⟩ := e
  obtain ⟨relative, entry'⟩ := v
  unfold Listed.visited? Listed.ofVisited
  rw [Option.map_eq_some_iff]
  simp only [mapM_fromUTF8?_eq_some_iff, Visited.mk.injEq, Listed.mk.injEq]
  constructor
  · rintro ⟨_, hnames, rfl, rfl⟩
    exact ⟨hnames, rfl⟩
  · rintro ⟨hnames, rfl⟩
    exact ⟨relative, hnames, rfl, rfl⟩

theorem filterMap_visited?_ofVisited (vs : List Visited) :
    (vs.map Listed.ofVisited).filterMap Listed.visited? = vs := by
  have hsome : Listed.visited? ∘ Listed.ofVisited = some :=
    funext fun v => visited?_eq_some_iff.2 rfl
  rw [List.filterMap_map, hsome, List.filterMap_some]

theorem isWithin_iff : e.isWithin front = true ↔ front <+: e.names := by
  rw [List.prefix_iff_eq_take, eq_comm (a := front)]
  exact decide_eq_true_iff

/-! ### Walks -/

/-- A walk through the directory with the names `above`, which may list what it holds in any
order. -/
inductive Walks : List ByteArray → List Listed → Prop where
  /-- Nothing is left. -/
  | done {above : List ByteArray} : Walks above []
  /-- An entry, then what is in it if it is a directory, and then the rest of the directory. -/
  | entry {above : List ByteArray} {name : ByteArray} {entry : Entry} {inside rest : List Listed} :
      (entry.isDirectory = false → inside = []) → Walks (above ++ [name]) inside →
      Walks above rest → Walks above (⟨above ++ [name], entry⟩ :: (inside ++ rest))

theorem Walks.file {content : ByteArray} (hrest : Walks above rest) :
    Walks above (⟨above ++ [name], .file content⟩ :: rest) :=
  .entry (fun _ => rfl) .done hrest

theorem Walks.directory (hinside : Walks (above ++ [name]) inside) (hrest : Walks above rest) :
    Walks above (⟨above ++ [name], .directory⟩ :: (inside ++ rest)) :=
  .entry nofun hinside hrest

/-- A walk through a directory does not leave it. -/
theorem Walks.within (h : Walks above walk) (he : e ∈ walk) : above <+: e.names := by
  induction h with
  | done => cases he
  | @entry above name entry inside rest _ _ _ ihInside ihRest =>
    rcases List.mem_cons.1 he with rfl | he
    · exact List.prefix_append above [name]
    · rcases List.mem_append.1 he with he | he
      · exact (List.prefix_append above [name]).trans (ihInside he)
      · exact ihRest he

/-! ### What a walk chooses -/

/-- What is left of a walk: entries with texts for names, without what is skipped and without what
lies below that. -/
def staged (rules : IgnoreRules) (walk : List Listed) : List Visited :=
  (walk.filterMap Listed.visited?).filter fun v => isStaged rules v.relative

theorem staged_append (walk tail : List Listed) :
    staged rules (walk ++ tail) = staged rules walk ++ staged rules tail := by
  simp [staged]

/-- The directory that is being passed over, if there is one, is skipped. -/
def IsPassing (rules : IgnoreRules) (passed : Option (List ByteArray)) : Prop :=
  ∀ front ∈ passed, ∃ relative, front = namesOf relative ∧ relative ≠ [] ∧
    isSkipped rules relative = true

/-- Neither the directory with these names nor one above it is skipped. -/
def IsClear (rules : IgnoreRules) (names : List ByteArray) : Prop :=
  ∀ relative, relative ≠ [] → namesOf relative <+: names → isSkipped rules relative = false

/-- In a clear directory an entry is clear if it is not skipped itself. An entry with a name that is
no text is. -/
theorem IsClear.of_entry (h : IsClear rules above) (hnames : e.names = above ++ [name])
    (hself : ∀ v, e.visited? = some v → isSkipped rules v.relative = false) :
    IsClear rules e.names := by
  intro relative hne hpre
  rw [hnames] at hpre
  rcases List.prefix_concat_iff.1 hpre with heq | habove
  · apply hself ⟨relative, e.entry⟩
    rw [visited?_eq_some_iff]
    exact congrArg (Listed.mk · e.entry) (hnames.trans heq.symm)
  · exact h relative hne habove

/-- An entry with a name that is no text is left out. -/
theorem staged_cons_of_none (h : e.visited? = none) :
    staged rules (e :: rest) = staged rules rest := by
  unfold staged
  rw [List.filterMap_cons_none h]

/-- An entry is left if neither it nor a directory above it is skipped. -/
theorem staged_cons_of_clear (h : e.visited? = some v) (hclear : IsClear rules e.names) :
    staged rules (e :: rest) = v :: staged rules rest := by
  have hstaged : isStaged rules v.relative = true := by
    rw [isStaged_iff]
    intro front hne hpre
    apply hclear front hne
    rw [visited?_eq_some_iff.1 h]
    exact namesOf_prefix_iff.2 hpre
  unfold staged
  rw [List.filterMap_cons_some h, List.filter_cons, if_pos hstaged]

/-- Nothing is left of what lies at or below something that is skipped. -/
theorem staged_eq_nil (hskipped : isSkipped rules relative = true) (hne : relative ≠ [])
    (hwalk : ∀ e ∈ walk, namesOf relative <+: e.names) : staged rules walk = [] := by
  refine List.filter_eq_nil_iff.2 fun v hv hstaged => ?_
  obtain ⟨e, he, hsome⟩ := List.mem_filterMap.1 hv
  obtain rfl := visited?_eq_some_iff.1 hsome
  rw [isStaged_iff.1 hstaged relative hne (namesOf_prefix_iff.1 (hwalk _ he))] at hskipped
  cases hskipped

/-- What lies below a directory that is being passed over is not looked at. -/
theorem chosen_append_of_within (hwalk : ∀ e ∈ walk, front <+: e.names) :
    chosen rules (some front) (walk ++ tail) = chosen rules (some front) tail := by
  induction walk with
  | nil => rfl
  | cons e rest ih =>
    have hwithin : (some front).any e.isWithin = true :=
      isWithin_iff.2 (hwalk e List.mem_cons_self)
    rw [List.cons_append, chosen, if_pos hwithin]
    exact ih fun e' he' => hwalk e' (List.mem_cons_of_mem e he')

/-- What is chosen of an entry in a clear directory, of what is in it, and of what follows. -/
theorem chosen_cons (hclear : IsClear rules above) (hnames : e.names = above ++ [name])
    (hwithin : ∀ e' ∈ inside, e.names <+: e'.names)
    (hfile : e.entry.isDirectory = false → inside = []) (hpassed : IsPassing rules passed)
    (hinside : IsClear rules e.names →
      chosen rules none (inside ++ rest) = staged rules (inside ++ rest))
    (hrest : ∀ passed, IsPassing rules passed → chosen rules passed rest = staged rules rest) :
    chosen rules passed (e :: (inside ++ rest)) = staged rules (e :: (inside ++ rest)) := by
  -- Of something that is skipped nothing is left, and what follows stands by itself.
  have hskip : ∀ relative, relative ≠ [] → isSkipped rules relative = true →
      namesOf relative <+: e.names → staged rules (e :: (inside ++ rest)) = staged rules rest := by
    intro relative hne hskipped hpre
    have hall : ∀ e' ∈ e :: inside, namesOf relative <+: e'.names :=
      List.forall_mem_cons.2 ⟨hpre, fun e' he' => hpre.trans (hwithin e' he')⟩
    have hnil := staged_eq_nil hskipped hne hall
    rw [← List.cons_append, staged_append, hnil, List.nil_append]
  rw [chosen]
  split
  · next hpassing =>
    obtain ⟨front, rfl, hpre⟩ := (Option.any_eq_true _ _).1 hpassing
    obtain ⟨relative, rfl, hne, hskipped⟩ := hpassed front rfl
    rw [isWithin_iff] at hpre
    rw [hskip relative hne hskipped hpre,
      chosen_append_of_within fun e' he' => hpre.trans (hwithin e' he')]
    exact hrest _ hpassed
  · split
    · next hnotext =>
      rw [staged_cons_of_none hnotext]
      refine hinside (hclear.of_entry hnames fun v hv => ?_)
      rw [hnotext] at hv
      cases hv
    · next v hv =>
      obtain rfl := visited?_eq_some_iff.1 hv
      have hne : v.relative ≠ [] := by
        intro hnil
        rw [Listed.ofVisited, hnil] at hnames
        simp at hnames
      split
      · next hskipped =>
        rw [hskip v.relative hne hskipped (List.prefix_refl _)]
        split
        · rw [chosen_append_of_within hwithin]
          refine hrest _ fun front hfront => ?_
          exact ⟨v.relative, (Option.some.inj hfront).symm, hne, hskipped⟩
        · next hdir =>
          rw [hfile (Bool.not_eq_true _ ▸ hdir)]
          exact hrest none nofun
      · next hskipped =>
        have hself : IsClear rules (Listed.ofVisited v).names := by
          refine hclear.of_entry hnames fun w hw => ?_
          rw [← Option.some.inj (hv.symm.trans hw)]
          exact Bool.eq_false_iff.2 hskipped
        rw [staged_cons_of_clear hv hself, hinside hself]

/-- What is chosen of a walk through a clear directory, with what follows: by induction on the
walk. -/
theorem Walks.chosen_append (h : Walks above walk) (hclear : IsClear rules above)
    (htail : ∀ passed, IsPassing rules passed → chosen rules passed tail = staged rules tail)
    (hpassed : IsPassing rules passed) :
    chosen rules passed (walk ++ tail) = staged rules (walk ++ tail) := by
  induction h generalizing passed tail with
  | done => exact htail passed hpassed
  | @entry above name entry inside rest hfile hinside _ ihInside ihRest =>
    have hrest : ∀ passed, IsPassing rules passed →
        chosen rules passed (rest ++ tail) = staged rules (rest ++ tail) :=
      fun _ hpassed => ihRest hclear htail hpassed
    rw [List.cons_append, List.append_assoc]
    exact chosen_cons hclear rfl (fun _ he => hinside.within he) hfile hpassed
      (fun hself => ihInside hself hrest nofun) hrest

/-- A whole walk chooses what is left of it. -/
theorem Walks.chosen_eq (h : Walks [] walk) : chosen rules none walk = staged rules walk := by
  have hclear : IsClear rules [] := by
    intro relative hne hpre
    exact absurd (List.map_eq_nil_iff.1 (List.prefix_nil.1 hpre)) hne
  have hnone : IsPassing rules none := nofun
  have hend : ∀ passed, IsPassing rules passed → chosen rules passed [] = staged rules [] := by
    intro passed _
    rw [chosen]
    rfl
  have happend := h.chosen_append hclear hend hnone
  rwa [List.append_nil] at happend

/-! ### The listing of a file system -/

section

variable {fs : FileSystem} {l dir dir' : Location} {found later : List Visited} {w : Visited}

/-- A list splits into what passes a test and the rest if nothing passes behind what does not. -/
theorem filter_append_filter_not {α : Type} {p : α → Bool} {as : List α}
    (h : as.Pairwise fun a b => p b = true → p a = true) :
    as.filter p ++ as.filter (!p ·) = as := by
  induction as with
  | nil => rfl
  | cons a as ih =>
    obtain ⟨hfirst, hrest⟩ := List.pairwise_cons.1 h
    cases hp : p a with
    | true =>
      rw [List.filter_cons, if_pos hp, List.filter_cons, if_neg (by simp [hp]), List.cons_append,
        ih hrest]
    | false =>
      have hnil : as.filter p = [] := by
        rw [List.filter_eq_nil_iff]
        intro b hb hpb
        rw [hfirst b hb hpb] at hp
        cases hp
      have hall := ih hrest
      rw [hnil, List.nil_append] at hall
      rw [List.filter_cons, if_neg (by simp [hp]), hnil, List.nil_append, List.filter_cons,
        if_pos (by simp [hp]), hall]

/-- What a listing from `l` has still to go through of the directory `dir`. -/
structure IsPart (fs : FileSystem) (l dir : Location) (found : List Visited) : Prop where
  /-- Every entry lies below the place where the listing began. -/
  below : ∀ v ∈ found, v ∈ fs.below l
  /-- Every entry is in order with all that follow it. -/
  ordered : found.Pairwise fun v w =>
    FileSystem.positionsLe (fs.positions l v) (fs.positions l w)
  /-- No two entries have the same names. -/
  distinct : (found.map (·.relative)).Nodup
  /-- Every entry lies below the directory. -/
  within : ∀ v ∈ found, dir <+: v.relative ∧ dir ≠ v.relative
  /-- With an entry there is all that is between the directory and it. -/
  closed : ∀ v ∈ found, ∀ front, dir <+: front → dir ≠ front → front <+: v.relative →
    ∃ w ∈ found, w.relative = front

namespace IsPart

/-- Of what is still to go through, some entries may be left for another directory. -/
theorem of_sublist (h : IsPart fs l dir found) (hsub : later.Sublist found)
    (hwithin : ∀ v ∈ later, dir' <+: v.relative ∧ dir' ≠ v.relative)
    (hclosed : ∀ v ∈ later, ∀ front, dir' <+: front → dir' ≠ front → front <+: v.relative →
      ∃ w ∈ later, w.relative = front) : IsPart fs l dir' later :=
  ⟨fun v hv => h.below v (hsub.subset hv), h.ordered.sublist hsub,
    h.distinct.sublist (hsub.map _), hwithin, hclosed⟩

/-- The first entry lies directly in the directory. -/
theorem first (h : IsPart fs l dir (v :: later)) : ∃ name, v.relative = dir ++ [name] := by
  obtain ⟨hpre, hne⟩ := h.within v List.mem_cons_self
  obtain ⟨rest, hrest⟩ := hpre
  cases rest with
  | nil => exact absurd ((List.append_nil dir).symm.trans hrest) hne
  | cons name rest =>
    have hfront : dir ++ [name] <+: v.relative := ⟨rest, by rw [← hrest]; simp⟩
    obtain ⟨w, hw, hname⟩ := h.closed v List.mem_cons_self (dir ++ [name])
      (List.prefix_append dir [name]) (by simp) hfront
    rcases List.mem_cons.1 hw with rfl | hw
    · exact ⟨name, hname⟩
    · -- What is above the first entry cannot come after it.
      rw [← hname] at hfront
      have hback := FileSystem.prefix_of_listed_between (h.below v List.mem_cons_self)
        ((List.pairwise_cons.1 h.ordered).1 w hw)
        (FileSystem.positionsLe_of_prefix hfront) (List.prefix_refl _)
      exact ⟨name, (hback.eq_of_length_le hfront.length_le).trans hname⟩

/-- What is behind the first entry begins with all that is in it. -/
theorem split (h : IsPart fs l dir (v :: later)) (hfs : fs.WellFormed) :
    ∃ inside behind, later = inside ++ behind ∧
      (v.entry.isDirectory = false → inside = []) ∧
      IsPart fs l v.relative inside ∧ IsPart fs l dir behind := by
  obtain ⟨hle, hordered⟩ := List.pairwise_cons.1 h.ordered
  have hnotmem := (List.nodup_cons.1 h.distinct).1
  have hbelow : ∀ w ∈ later, w ∈ fs.below l := fun w hw => h.below w (List.mem_cons_of_mem v hw)
  have hother : ∀ w ∈ later, v.relative ≠ w.relative :=
    fun w hw heq => hnotmem (List.mem_map.2 ⟨w, hw, heq.symm⟩)
  let isInside : Visited → Bool := fun w => decide (v.relative <+: w.relative)
  have hsplit := filter_append_filter_not (p := isInside) <| hordered.imp_of_mem
    fun {w x} hw _ hwx hx => decide_eq_true <| FileSystem.prefix_of_listed_between
      (h.below v List.mem_cons_self) (hle w hw) hwx (of_decide_eq_true hx)
  have hinside : ∀ {w}, w ∈ later.filter isInside ↔ w ∈ later ∧ v.relative <+: w.relative := by
    simp [isInside]
  have hbehind : ∀ {w}, w ∈ later.filter (!isInside ·) ↔
      w ∈ later ∧ ¬ v.relative <+: w.relative := by
    simp [isInside]
  have hpart : ∀ {p : Visited → Bool}, (later.filter p).Sublist (v :: later) :=
    (List.filter_sublist).cons v
  refine ⟨_, _, hsplit.symm, ?_, h.of_sublist hpart ?_ ?_, h.of_sublist hpart ?_ ?_⟩
  · -- Nothing lies below a file.
    intro hfile
    rw [List.eq_nil_iff_forall_not_mem]
    intro w hw
    obtain ⟨hw, hpre⟩ := hinside.1 hw
    have hget := hfs.get?_of_mem (FileSystem.mem_below.1 (hbelow w hw)).1
    have hdir := hfs.isDirectoryAt_of_prefix (Option.isSome_of_mem hget)
      ((List.prefix_append_right_inj l).2 hpre) (by simpa using hother w hw)
    rw [FileSystem.isDirectoryAt_iff,
      hfs.get?_of_mem (FileSystem.mem_below.1 (h.below v List.mem_cons_self)).1] at hdir
    rw [Option.some.inj hdir] at hfile
    cases hfile
  · exact fun w hw => ⟨(hinside.1 hw).2, hother w (hinside.1 hw).1⟩
  · intro w hw front hfront hne hpre
    obtain ⟨hdir, hproper⟩ := h.within v List.mem_cons_self
    have hdirne : dir ≠ front := by
      rintro rfl
      exact hproper (hdir.eq_of_length_le hfront.length_le)
    obtain ⟨u, hu, rfl⟩ := h.closed w (List.mem_cons_of_mem v (hinside.1 hw).1) front
      (hdir.trans hfront) hdirne hpre
    rcases List.mem_cons.1 hu with rfl | hu
    · exact absurd rfl hne
    · exact ⟨u, hinside.2 ⟨hu, hfront⟩, rfl⟩
  · exact fun w hw => h.within w (List.mem_cons_of_mem v (hbehind.1 hw).1)
  · intro w hw front hfront hne hpre
    obtain ⟨hw, hnot⟩ := hbehind.1 hw
    obtain ⟨u, hu, rfl⟩ := h.closed w (List.mem_cons_of_mem v hw) front hfront hne hpre
    rcases List.mem_cons.1 hu with rfl | hu
    · exact absurd hpre hnot
    · exact ⟨u, hbehind.2 ⟨hu, fun hv => hnot (hv.trans hpre)⟩, rfl⟩

/-- What is left of a directory is a walk: by induction on the number of entries. -/
theorem walks (h : IsPart fs l dir found) (hfs : fs.WellFormed) :
    Walks (namesOf dir) (found.map Listed.ofVisited) := by
  induction hlength : found.length using Nat.strong_induction_on generalizing dir found with
  | h n ih =>
    cases found with
    | nil => exact .done
    | cons v later =>
      obtain ⟨name, hname⟩ := h.first
      obtain ⟨inside, behind, rfl, hfile, hinside, hbehind⟩ := h.split hfs
      rw [List.length_cons, List.length_append] at hlength
      have hin := ih inside.length (by omega) hinside rfl
      have hrest := ih behind.length (by omega) hbehind rfl
      have hnames : v.relative.map String.toUTF8 = namesOf dir ++ [name.toUTF8] := by
        rw [hname, List.map_append]
        rfl
      rw [List.map_cons, List.map_append, Listed.ofVisited, hnames]
      rw [namesOf, hnames] at hin
      exact .entry (fun hdir => by rw [hfile hdir]; rfl) hin hrest

end IsPart

/-- The listing of a file system is a walk. -/
theorem walks_collectAsListed (hfs : fs.WellFormed) (l : Location) :
    Walks [] ((fs.collectAsListed l).map Listed.ofVisited) := by
  have hmem : ∀ {v : Visited}, v ∈ fs.collectAsListed l ↔ v ∈ fs.below l :=
    FileSystem.mem_collectAsListed
  have hperm := (FileSystem.collectAsListed_perm fs l).map (·.relative)
  have hpart : IsPart fs l [] (fs.collectAsListed l) := by
    refine ⟨fun v hv => hmem.1 hv, FileSystem.collectAsListed_pairwise fs l,
      hperm.nodup_iff.2 (hfs.nodup_below l), fun v hv => ?_, fun v hv front _ hne hpre => ?_⟩
    · exact ⟨List.nil_prefix, (FileSystem.mem_below.1 (hmem.1 hv)).2.symm⟩
    · by_cases hself : front = v.relative
      · exact ⟨v, hv, hself.symm⟩
      · -- Between the place of the listing and an entry there are directories.
        have hget := hfs.get?_of_mem (FileSystem.mem_below.1 (hmem.1 hv)).1
        have hdir := FileSystem.isDirectoryAt_iff.1 (hfs.isDirectoryAt_of_prefix
          (Option.isSome_of_mem hget) ((List.prefix_append_right_inj l).2 hpre) (by simpa))
        have hentry := FileSystem.mem_entries_of_get? (by simp [hne.symm]) hdir
        exact ⟨⟨front, .directory⟩, hmem.2 (FileSystem.mem_below.2 ⟨hentry, hne.symm⟩), rfl⟩
  exact hpart.walks hfs

/-- What is chosen of the listing of a file system. -/
theorem chosen_collectAsListed (hfs : fs.WellFormed) (l : Location) :
    chosen rules none ((fs.collectAsListed l).map Listed.ofVisited) =
      (fs.collectAsListed l).filter fun v => isStaged rules v.relative := by
  rw [(walks_collectAsListed hfs l).chosen_eq, staged, filterMap_visited?_ofVisited]

end

end Scaffold.Staging
