import Scaffold.Proofs.FileSystem.Following
import Scaffold.Proofs.FileSystem.Parents

/-! # Operations that succeed

  When a directory can be made and a file can be copied, and what the file
  system is then.

  - `createDirectory_new`, `createDirectory_existing`, `createDirectory_error`:
    one directory.
  - `createDirectories_ok`: missing directories are made, and nothing else.
  - `createDirectories_blocked`: below a file no directory is made.
  - `copyInto_ok`: a file is copied to a place whose directories may be missing.
  - `rename_free`: an entry is renamed to a free place.
  - `get?_moveTree_file`, `WellFormed.moveTree_file`: what that is for a file.
-/

namespace Scaffold

open Scaffold.Path (IsIdle IsPlain EndsInStep)

namespace FileSystem

variable {fs fs' : FileSystem} {l b d : Location} {p q : Path} {content : ByteArray}

/-! ### Single directories -/

/-- A path that leads to something has a place, and unless it ends with a way up or nowhere, this is
where it leads. -/
theorem place_of_locate (h : fs.locate p = .ok l) :
    ∃ place, fs.place p = .ok place ∧ ∀ name, place.name? = some name →
      place.directory ++ [name] = l ∧ (fs.get? l).isSome := by
  obtain ⟨hread, hfollow⟩ := locate_eq_ok.1 h
  suffices hplace : ∃ place, fs.place p = .ok place ∧ ∀ name, place.name? = some name →
      (fs.get? (place.directory ++ [name])).isSome by
    obtain ⟨place, hplace, hthere⟩ := hplace
    refine ⟨place, hplace, fun name hname => ?_⟩
    have heq : place.directory ++ [name] = l :=
      (place_eq_reading hplace hname).trans (locate_eq_reading h).symm
    exact ⟨heq, heq ▸ hthere name hname⟩
  unfold place
  rw [pathNames_eq_ok.2 ⟨hread, rfl⟩]
  simp only [bind, Except.bind]
  cases hdrop : p.names.reverse.dropWhile (· == "") with
  | nil => exact ⟨_, rfl, nofun⟩
  | cons last before =>
    obtain ⟨hlast, k, hnames, -⟩ := names_split hdrop
    rw [hnames, follow_append] at hfollow
    cases hbefore : fs.follow (fs.origin p) before.reverse with
    | error fault => rw [hbefore] at hfollow; cases hfollow
    | ok directory =>
      rw [hbefore] at hfollow
      obtain ⟨m, hdir, hstep, -⟩ := follow_cons_ok hfollow
      simp only [hbefore, hdir, Bool.not_true, Bool.false_eq_true, if_false]
      by_cases hdots : last = "." ∨ last = ".."
      · rw [if_pos hdots]
        exact ⟨_, rfl, nofun⟩
      · rw [not_or] at hdots
        have hplain : IsPlain last := ⟨fun e => e.elim hlast hdots.1, hdots.2⟩
        obtain ⟨rfl, hentry⟩ := step_eq_ok.1 hstep
        obtain ⟨hshort, hsome⟩ := hentry hplain
        rw [if_neg (not_or.2 hdots), if_neg (Nat.not_lt.2 hshort)]
        refine ⟨_, rfl, fun name hname => ?_⟩
        obtain rfl := Option.some.inj hname
        exact hsome

/-- A directory that is there cannot be made, however its path is written. -/
theorem createDirectory_existing (h : fs.locate p = .ok l) :
    fs.createDirectory p = .error .alreadyExists := by
  obtain ⟨place, hplace, hthere⟩ := place_of_locate h
  unfold createDirectory
  rw [hplace]
  simp only [bind, Except.bind]
  cases hname : place.name? with
  | none => rfl
  | some name =>
    obtain ⟨heq, hsome⟩ := hthere name hname
    exact if_pos (heq ▸ hsome)

/-- What a path names in a directory that its other names lead to, with slashes behind the name at
most. -/
theorem place_of_names {before : List String} {name : String} {k : Nat} (hread : IsReadable p)
    (hnames : p.names = before ++ name :: List.replicate k "") (hplain : IsPlain name)
    (hshort : name.utf8ByteSize ≤ nameLimit)
    (hfollow : fs.follow (fs.origin p) before = .ok d) (hdir : fs.isDirectoryAt d) :
    fs.place p = .ok ⟨d, some name, decide (0 < k)⟩ := by
  have hdrop : (before ++ name :: List.replicate k "").reverse.dropWhile (· == "") =
      name :: before.reverse := by
    rw [List.reverse_append, List.reverse_cons, List.reverse_replicate, List.append_assoc,
      List.dropWhile_append_of_pos (by simp), List.singleton_append,
      List.dropWhile_cons_of_neg (by simpa using fun e => hplain.1 (.inl e))]
  have hdots : ¬ (name = "." ∨ name = "..") := not_or.2 ⟨fun e => hplain.1 (.inr e), hplain.2⟩
  have hlast : ((before ++ name :: List.replicate k "").getLast? == some "") = decide (0 < k) := by
    cases k with
    | zero =>
      rw [List.replicate_zero, List.getLast?_concat]
      simpa using fun e => hplain.1 (.inl e)
    | succ k =>
      rw [List.replicate_succ', ← List.cons_append, ← List.append_assoc, List.getLast?_concat]
      simp
  unfold FileSystem.place
  rw [pathNames_eq_ok.2 ⟨hread, rfl⟩, hnames]
  simp only [bind, Except.bind, hdrop, List.reverse_reverse, hfollow, hdir, Bool.not_true,
    Bool.false_eq_true, if_false, if_neg hdots, if_neg (Nat.not_lt.2 hshort), hlast]

/-- A path has no place where its directories cannot be followed to. -/
theorem place_error {before : List String} {name : String} {fault : IoFault}
    (hread : IsReadable p) (hnames : p.names = before ++ [name]) (hname : name ≠ "")
    (hfollow : fs.follow (fs.origin p) before = .error fault) : fs.place p = .error fault := by
  have hdrop : (before ++ [name]).reverse.dropWhile (· == "") = name :: before.reverse := by
    rw [List.reverse_append, List.reverse_singleton, List.singleton_append,
      List.dropWhile_cons_of_neg (by simpa using hname)]
  unfold FileSystem.place
  rw [pathNames_eq_ok.2 ⟨hread, rfl⟩, hnames]
  simp only [bind, Except.bind, hdrop, List.reverse_reverse, hfollow]

section

variable {a : List String} {name : String}

theorem place_of_steps (hread : IsReadable p) (hends : p.EndsInStep)
    (hsteps : p.steps = a ++ [name]) (hname : IsName name)
    (hfollow : fs.follow (fs.origin p) a = .ok d) (hdir : fs.isDirectoryAt d) :
    fs.place p = .ok ⟨d, some name, false⟩ := by
  obtain ⟨before, hnames, rfl⟩ := names_of_endsInStep hends hsteps
  exact place_of_names (k := 0) hread hnames hname.isPlain hname.short
    (follow_of_steps hfollow hdir) hdir

/-- A path has no place in what is no directory. -/
theorem place_blocked (hread : IsReadable p) (hends : p.EndsInStep)
    (hsteps : p.steps = a ++ [name]) (hname : IsName name)
    (hfollow : fs.follow (fs.origin p) a = .ok d) (hdir : ¬ fs.isDirectoryAt d) :
    fs.place p = .error .notADirectory := by
  obtain ⟨before, hnames, rfl⟩ := names_of_endsInStep hends hsteps
  rcases follow_of_steps_cases hfollow with hbefore | hbefore
  · have hdrop : (before ++ [name]).reverse.dropWhile (· == "") = name :: before.reverse := by
      rw [List.reverse_append, List.reverse_singleton, List.singleton_append,
        List.dropWhile_cons_of_neg (by simpa using hname.nonempty)]
    unfold FileSystem.place
    rw [pathNames_eq_ok.2 ⟨hread, rfl⟩, hnames]
    simp only [bind, Except.bind, hdrop, List.reverse_reverse, hbefore, hdir, Bool.not_false,
      if_true]
  · exact place_error hread hnames hname.nonempty hbefore

/-- The place of an entry below a root, which may be missing. -/
theorem place_of_descends {root : Path} {parts : List String} (hfs : fs.WellFormed)
    (hroot : fs.locate root = .ok l) (hp : Descends root (parts ++ [name]) p)
    (hends : p.EndsInStep) (htext : p.text ≠ "") (hnames : ∀ n ∈ parts ++ [name], IsName n)
    (hdir : fs.isDirectoryAt (l ++ parts)) : fs.place p = .ok ⟨l ++ parts, some name, false⟩ := by
  have hread : IsReadable p := hp.isReadable (locate_eq_ok.1 hroot).1 htext hnames
  have hsteps : p.steps = root.steps ++ parts ++ [name] := by
    rw [List.append_assoc]
    exact hp.steps
  have hfollow : fs.follow (fs.origin p) (root.steps ++ parts) = .ok (l ++ parts) := by
    rw [origin_eq rfl hp.isAbsolute, follow_append, follow_steps_of_locate hroot]
    exact hfs.follow_down (Option.isSome_of_any hdir)
  exact place_of_steps hread hends hsteps (hnames name (by simp)) hfollow hdir

theorem createDirectory_new (hread : IsReadable p) (hends : p.EndsInStep)
    (hsteps : p.steps = a ++ [name]) (hname : IsName name)
    (hfollow : fs.follow (fs.origin p) a = .ok d) (hdir : fs.isDirectoryAt d)
    (hnone : fs.get? (d ++ [name]) = none) :
    fs.createDirectory p = .ok (fs.addDirectory (d ++ [name])) := by
  unfold createDirectory
  rw [place_of_steps hread hends hsteps hname hfollow hdir]
  simp only [bind, Except.bind, hnone]
  rfl

theorem createDirectory_error {fault : IoFault} (hread : IsReadable p) (hends : p.EndsInStep)
    (hsteps : p.steps = a ++ [name]) (hname : IsName name)
    (hfollow : fs.follow (fs.origin p) a = .error fault) :
    fs.createDirectory p = .error fault := by
  obtain ⟨before, hnames, rfl⟩ := names_of_endsInStep hends hsteps
  unfold createDirectory
  rw [place_error hread hnames hname.nonempty (follow_error_of_steps hfollow)]
  rfl

end

/-! ### Chains of directories -/

/-- The directories on the way down from `b` by the names `rest` are there, and nothing else is
new. -/
structure MakesDirectories (fs : FileSystem) (b : Location) (rest : List String)
    (fs' : FileSystem) : Prop where
  /-- The current directory stays. -/
  current : fs'.current = fs.current
  /-- On the way there are directories, and elsewhere is what was there. -/
  get? : ∀ m, fs'.get? m = if b <+: m ∧ m <+: b ++ rest then some .directory else fs.get? m

namespace MakesDirectories

variable {rest : List String} {name : String}

theorem of_existing (hfs : fs.WellFormed) (h : fs.isDirectoryAt (b ++ rest)) :
    MakesDirectories fs b rest fs where
  current := rfl
  get? := fun m => by
    split
    · next hm =>
      by_cases heq : m = b ++ rest
      · rw [heq]
        exact isDirectoryAt_iff.1 h
      · exact isDirectoryAt_iff.1
          (hfs.isDirectoryAt_of_prefix (Option.isSome_of_any h) hm.2 heq)
    · rfl

theorem isDirectoryAt (h : MakesDirectories fs b rest fs') {front : List String}
    (hfront : front <+: rest) : fs'.isDirectoryAt (b ++ front) := by
  rw [isDirectoryAt_iff, h.get?, if_pos]
  exact ⟨List.prefix_append b front, (List.prefix_append_right_inj b).2 hfront⟩

/-- Directories stay. -/
theorem isDirectoryAt_mono (h : MakesDirectories fs b rest fs') {k : Location}
    (hk : fs.isDirectoryAt k) : fs'.isDirectoryAt k := by
  rw [isDirectoryAt_iff, h.get?]
  split
  · rfl
  · exact isDirectoryAt_iff.1 hk

/-- What the last directory holds is what was there. -/
theorem get?_concat (h : MakesDirectories fs b rest fs') (name : String) :
    fs'.get? (b ++ rest ++ [name]) = fs.get? (b ++ rest ++ [name]) := by
  rw [h.get?, if_neg]
  rintro ⟨-, hpre⟩
  have hle := hpre.length_le
  simp only [List.length_append, List.length_singleton] at hle
  omega

/-- The way down can be followed. -/
theorem follow {a : List String} (h : MakesDirectories fs b rest fs')
    (hbase : fs.follow (fs.origin p) a = .ok b) (hb : fs.isDirectoryAt b)
    (hnames : ∀ n ∈ rest, IsName n) : fs'.follow (fs'.origin p) (a ++ rest) = .ok (b ++ rest) := by
  have hbase' : fs'.follow (fs.origin p) a = .ok b :=
    follow_of_directories (fun _ => h.isDirectoryAt_mono)
      (fun _ => Option.isSome_of_any (h.isDirectoryAt_mono hb)) hbase
  rw [origin_eq h.current rfl, follow_append, hbase']
  exact follow_down hnames (fun front hfront _ => h.isDirectoryAt hfront)
    (Option.isSome_of_any (h.isDirectoryAt (List.prefix_refl rest)))

/-- One more directory below. -/
theorem addDirectory (h : MakesDirectories fs b rest fs')
    (hnone : fs'.get? (b ++ rest ++ [name]) = none) :
    MakesDirectories fs b (rest ++ [name]) (fs'.addDirectory (b ++ rest ++ [name])) where
  current := h.current
  get? := fun m => by
    rw [get?_addDirectory (by simp) hnone, h.get?, ← List.append_assoc]
    by_cases heq : m = b ++ rest ++ [name]
    · have hbelow : b <+: b ++ rest ++ [name] :=
        List.append_assoc b rest [name] ▸ List.prefix_append b _
      rw [heq, if_pos rfl, if_pos ⟨hbelow, List.prefix_refl _⟩]
    · have hiff : m <+: b ++ rest ++ [name] ↔ m <+: b ++ rest := by
        rw [List.prefix_concat_iff, or_iff_right heq]
      rw [if_neg heq]
      exact if_congr (and_congr_right fun _ => hiff.symm) rfl rfl

end MakesDirectories

/-- Where a directory is, no other one is made. -/
theorem createChain_existing (h : fs.locate p = .ok l) (hl : fs.isDirectoryAt l) (fuel : Nat) :
    fs.createChain (ancestors p fuel) = (.ok (), fs) := by
  have hdir : fs.isDirectory p = true :=
    isDirectory_iff.2 (locate_eq_reading h ▸ ⟨h, hl⟩)
  cases fuel with
  | zero => rfl
  | succ fuel =>
    unfold ancestors
    split
    · rfl
    · split
      · rfl
      · rw [createChain, createDirectory_existing h]
        exact if_pos ⟨rfl, hdir⟩

/-- Where the directory above is missing, those of the chain are made first. -/
theorem createChain_missing {a rest : List String} {name : String} {above : List Path}
    (hread : IsReadable p) (hends : p.EndsInStep) (hsteps : p.steps = a ++ rest ++ [name])
    (hbase : fs.follow (fs.origin p) a = .ok b) (hb : fs.isDirectoryAt b)
    (hnames : ∀ n ∈ rest ++ [name], IsName n)
    (hfollow : fs.follow (fs.origin p) (a ++ rest) = .error .notFound)
    (hnone : fs.get? (b ++ rest ++ [name]) = none)
    (habove : fs.createChain above = (.ok (), fs')) (hmade : MakesDirectories fs b rest fs') :
    ∃ fs', fs.createChain (p :: above) = (.ok (), fs') ∧
      MakesDirectories fs b (rest ++ [name]) fs' := by
  have hname : IsName name := hnames name (by simp)
  have hrest : ∀ n ∈ rest, IsName n := fun n hn => hnames n (List.mem_append_left [name] hn)
  have hdir : fs'.isDirectoryAt (b ++ rest) := hmade.isDirectoryAt (List.prefix_refl rest)
  have hnone' : fs'.get? (b ++ rest ++ [name]) = none := (hmade.get?_concat name).trans hnone
  have hnew : fs'.createDirectory p = .ok (fs'.addDirectory (b ++ rest ++ [name])) :=
    createDirectory_new hread hends hsteps hname (hmade.follow hbase hb hrest) hdir hnone'
  refine ⟨_, ?_, hmade.addDirectory hnone'⟩
  rw [createChain, createDirectory_error hread hends hsteps hname hfollow, habove]
  dsimp only
  rw [hnew]

/-- All missing directories of a chain are made, if no file is in the way and its upper end is
there. -/
theorem createChain_ok {a rest : List String} {fuel : Nat} (hfs : fs.WellFormed)
    (hread : IsReadable p) (hends : p.EndsInStep) (hsteps : p.steps = a ++ rest)
    (hbase : fs.follow (fs.origin p) a = .ok b) (hb : fs.isDirectoryAt b)
    (hnames : ∀ name ∈ rest, IsName name)
    (hfree : ∀ front, front <+: rest → fs.isDirectoryAt (b ++ front) ∨ fs.get? (b ++ front) = none)
    (hfuel : rest.length < fuel) :
    ∃ fs', fs.createChain (ancestors p fuel) = (.ok (), fs') ∧ MakesDirectories fs b rest fs' := by
  induction rest using List.reverseRecOn generalizing p fuel with
  | nil =>
    rw [List.append_nil] at hsteps
    have hlocate : fs.locate p = .ok b := locate_of_steps hread (hsteps ▸ hbase) hb
    exact ⟨fs, createChain_existing hlocate hb fuel, .of_existing hfs (by rwa [List.append_nil])⟩
  | append_singleton rest name ih =>
    have hname : IsName name := hnames name (by simp)
    have hrest : ∀ n ∈ rest, IsName n := fun n hn => hnames n (List.mem_append_left [name] hn)
    rcases hfree (rest ++ [name]) (List.prefix_refl _) with hdir | hnone
    · -- The directory is there already.
      have hfollow : fs.follow (fs.origin p) p.steps = .ok (b ++ (rest ++ [name])) := by
        rw [hsteps, follow_append, hbase]
        exact hfs.follow_down (Option.isSome_of_any hdir)
      exact ⟨fs, createChain_existing (locate_of_steps hread hfollow hdir) hdir fuel,
        .of_existing hfs hdir⟩
    · have hne : p.steps ≠ [] := by rw [hsteps]; simp
      have hlast : p.steps = (a ++ rest) ++ [name] := by rw [hsteps, List.append_assoc]
      obtain ⟨q, hq⟩ := Option.isSome_iff_exists.1 (Path.parent?_isSome hne)
      obtain ⟨fuel, rfl⟩ : ∃ k, fuel = k + 1 := ⟨fuel - 1, by omega⟩
      rw [ancestors_succ hq hne]
      rw [← List.append_assoc] at hnone
      rcases hfree rest (List.prefix_append rest [name]) with hdir | hmissing
      · -- The directory above is there.
        have hfollow : fs.follow (fs.origin p) (a ++ rest) = .ok (b ++ rest) := by
          rw [follow_append, hbase]
          exact hfs.follow_down (Option.isSome_of_any hdir)
        rw [createChain, createDirectory_new hread hends hlast hname hfollow hdir hnone]
        exact ⟨_, rfl, MakesDirectories.addDirectory (.of_existing hfs hdir) hnone⟩
      · -- The directories above are made first.
        have hfollow : fs.follow (fs.origin p) (a ++ rest) = .error .notFound := by
          rw [follow_append, hbase]
          exact follow_missing hrest hb
            (fun front hfront => hfree front (hfront.trans (List.prefix_append rest [name])))
            hmissing
        have hrestne : rest ≠ [] := by
          rintro rfl
          rw [List.append_nil] at hmissing
          rw [isDirectoryAt_iff, hmissing] at hb
          cases hb
        obtain ⟨hqsteps, hqabs⟩ := Path.steps_parent? hq
        rw [hlast, List.dropLast_concat] at hqsteps
        have hqread : IsReadable q :=
          isReadable_parent? hread hq (text_ne_empty_of_steps (by rw [hqsteps]; simp [hrestne]))
        have hfuel' : rest.length < fuel := by
          rw [List.length_append, List.length_singleton] at hfuel
          omega
        obtain ⟨fs', hchain, hmade⟩ := ih hqread (Path.endsInStep_parent? hq) hqsteps
          (by rw [origin_eq rfl hqabs]; exact hbase) hrest
          (fun front hfront => hfree front (hfront.trans (List.prefix_append rest [name]))) hfuel'
        exact createChain_missing hread hends hlast hbase hb hnames hfollow hnone hchain hmade

/-- All missing directories of a path are made, if no file is in the way. -/
theorem createDirectories_ok {a rest : List String} (hfs : fs.WellFormed)
    (hread : IsReadable p) (hends : p.EndsInStep) (hsteps : p.steps = a ++ rest)
    (hbase : fs.follow (fs.origin p) a = .ok b) (hb : fs.isDirectoryAt b)
    (hnames : ∀ name ∈ rest, IsName name)
    (hfree : ∀ front, front <+: rest →
      fs.isDirectoryAt (b ++ front) ∨ fs.get? (b ++ front) = none) :
    ∃ fs', fs.createDirectories p = (.ok (), fs') ∧ MakesDirectories fs b rest fs' := by
  refine createChain_ok hfs hread hends hsteps hbase hb hnames hfree ?_
  have hlength := p.length_steps_le
  rw [hsteps, List.length_append] at hlength
  omega

/-- Where a file is on the way, no directory is made, not even one above the file. -/
theorem createDirectories_blocked {a rest front : List String} {name : String}
    (hfs : fs.WellFormed) (hread : IsReadable p) (hends : p.EndsInStep)
    (hsteps : p.steps = a ++ rest ++ [name]) (hname : IsName name)
    (hbase : fs.follow (fs.origin p) a = .ok b) (hfront : front <+: rest)
    (hfile : fs.get? (b ++ front) = some (.file content)) :
    fs.createDirectories p = (.error .notADirectory, fs) := by
  have hnotdir : ¬ fs.isDirectoryAt (b ++ front) := not_isDirectoryAt_of_file hfile
  have hfollow : fs.follow (fs.origin p) (a ++ front) = .ok (b ++ front) := by
    rw [follow_append, hbase]
    exact hfs.follow_down (by rw [hfile]; rfl)
  have hplace : fs.place p = .error .notADirectory := by
    obtain ⟨more, rfl⟩ := hfront
    rw [← List.append_assoc a] at hsteps
    cases more with
    | nil =>
      rw [List.append_nil] at hsteps
      exact place_blocked hread hends hsteps hname hfollow hnotdir
    | cons next more =>
      -- The names that come behind the file are not even looked at.
      have hthrough : fs.follow (fs.origin p) (a ++ front ++ next :: more) =
          .error .notADirectory := by
        rw [follow_append, hfollow]
        show fs.follow (b ++ front) (next :: more) = _
        rw [follow_cons, if_neg hnotdir]
      obtain ⟨before, hnames, hfilter⟩ := names_of_endsInStep hends hsteps
      rw [← hfilter] at hthrough
      exact place_error hread hnames hname.nonempty (follow_error_of_steps hthrough)
  have hmade : fs.createDirectory p = .error .notADirectory := by
    unfold createDirectory
    rw [hplace]
    rfl
  have hne : p.steps ≠ [] := by rw [hsteps]; simp
  obtain ⟨q, hq⟩ := Option.isSome_iff_exists.1 (Path.parent?_isSome hne)
  unfold createDirectories directoryChain
  rw [ancestors_succ hq hne, createChain, hmade]
  exact if_neg fun hexists => nomatch hexists.1

/-! ### Copies -/

/-- What is read from a file is read from it as long as the file and the directories are there. -/
theorem readBytes_of_directories (hcurrent : fs.current = fs'.current)
    (hdirs : ∀ k, fs.isDirectoryAt k → fs'.isDirectoryAt k)
    (hget : fs'.get? (fs.reading p) = fs.get? (fs.reading p))
    (h : fs.readBytes p = .ok content) : fs'.readBytes p = .ok content := by
  obtain ⟨hlocate, hfile⟩ := readBytes_eq_ok h
  have hlocate' := locate_of_directories hcurrent hdirs (fun hsome => hget ▸ hsome) hlocate
  unfold readBytes
  rw [hlocate']
  simp only [bind, Except.bind, hget, hfile]

theorem writeBytes_ok {name : String} (h : fs.place p = .ok ⟨d, some name, false⟩)
    (hfree : ¬ fs.isDirectoryAt (d ++ [name])) :
    fs.writeBytes p content = .ok (fs.setFile (d ++ [name]) content) := by
  unfold writeBytes
  rw [h]
  simp only [bind, Except.bind]
  exact if_neg (by simpa using hfree)

/-- Where a path leads to a directory, no file can be written. -/
theorem writeBytes_directory (h : fs.locate p = .ok l) (hdir : fs.isDirectoryAt l) :
    fs.writeBytes p content = .error .isADirectory := by
  obtain ⟨place, hplace, hthere⟩ := place_of_locate h
  unfold writeBytes
  rw [hplace]
  simp only [bind, Except.bind]
  cases hname : place.name? with
  | none => rfl
  | some name => exact if_pos (.inr ((hthere name hname).1 ▸ hdir))

section

variable {source target : Path} {a rest : List String} {name : String}

/-- A file is copied to a place in a directory that is there. -/
theorem copyFile_ok (hsource : fs.readBytes source = .ok content) (hread : IsReadable target)
    (hends : target.EndsInStep) (hsteps : target.steps = a ++ [name]) (hname : IsName name)
    (hfollow : fs.follow (fs.origin target) a = .ok d) (hdir : fs.isDirectoryAt d)
    (hfree : ¬ fs.isDirectoryAt (d ++ [name])) (hne : fs.reading source ≠ d ++ [name]) :
    fs.copyFile source target = .ok (fs.setFile (d ++ [name]) content) := by
  obtain ⟨hlocate, hfile⟩ := readBytes_eq_ok hsource
  have hslot : fs.IsSlot (d ++ [name]) := {
    below_root := by simp
    named := fun n hn => by
      rw [List.getLast?_concat] at hn
      exact Option.some.inj hn ▸ hname
    in_directory := by simpa using hdir }
  -- The target is emptied first, which the source and the directories do not notice.
  have hdirs : ∀ k, fs.isDirectoryAt k → (fs.setFile (d ++ [name]) .empty).isDirectoryAt k :=
    fun _ => isDirectoryAt_setFile hslot hfree
  have hcurrent : fs.current = (fs.setFile (d ++ [name]) .empty).current := rfl
  have hwritten : fs.writeBytes target .empty = .ok (fs.setFile (d ++ [name]) .empty) :=
    writeBytes_ok (place_of_steps hread hends hsteps hname hfollow hdir) hfree
  have hreadable : (fs.setFile (d ++ [name]) .empty).readBytes source = .ok content :=
    readBytes_of_directories hcurrent hdirs (by rw [get?_setFile hslot.below_root, if_neg hne])
      hsource
  have hfollow' : (fs.setFile (d ++ [name]) .empty).follow
      ((fs.setFile (d ++ [name]) .empty).origin target) a = .ok d := by
    rw [← origin_eq hcurrent rfl]
    exact follow_of_directories hdirs (fun _ => Option.isSome_of_any (hdirs d hdir)) hfollow
  have hfree' : ¬ (fs.setFile (d ++ [name]) .empty).isDirectoryAt (d ++ [name]) := by
    rw [isDirectoryAt_iff, get?_setFile hslot.below_root, if_pos rfl]
    exact nofun
  have hplace' := place_of_steps hread hends hsteps hname hfollow' (hdirs d hdir)
  have hnotdir : fs.isDirectoryAt (fs.reading source) = false :=
    Bool.eq_false_iff.2 (not_isDirectoryAt_of_file hfile)
  unfold copyFile
  rw [hlocate]
  simp only [bind, Except.bind, hnotdir, Bool.false_eq_true, if_false, hwritten, hreadable]
  rw [writeBytes_ok hplace' hfree', setFile_setFile]

/-- A file is copied to a place whose directories are made if they are missing. -/
theorem copyInto_ok (hfs : fs.WellFormed) (hsource : fs.readBytes source = .ok content)
    (hread : IsReadable target) (hends : target.EndsInStep)
    (hsteps : target.steps = a ++ (rest ++ [name]))
    (hbase : fs.follow (fs.origin target) a = .ok b) (hb : fs.isDirectoryAt b)
    (hnames : ∀ n ∈ rest ++ [name], IsName n)
    (hfree : ∀ front, front <+: rest →
      fs.isDirectoryAt (b ++ front) ∨ fs.get? (b ++ front) = none)
    (htarget : ¬ fs.isDirectoryAt (b ++ rest ++ [name]))
    (hne : fs.reading source ≠ b ++ rest ++ [name]) :
    ∃ made, fs.copyInto source target =
        (.ok (), made.setFile (b ++ rest ++ [name]) content) ∧
      MakesDirectories fs b rest made := by
  have hrest : ∀ n ∈ rest, IsName n := fun n hn => hnames n (List.mem_append_left [name] hn)
  rw [← List.append_assoc] at hsteps
  obtain ⟨q, hq⟩ := Option.isSome_iff_exists.1 (Path.parent?_isSome (p := target)
    (by rw [hsteps]; simp))
  obtain ⟨hqsteps, hqabs⟩ := Path.steps_parent? hq
  rw [hsteps, List.dropLast_concat] at hqsteps
  obtain ⟨made, hparents, hmade⟩ : ∃ made, fs.createDirectories q = (.ok (), made) ∧
      MakesDirectories fs b rest made := by
    by_cases hempty : q.text = ""
    · -- The target lies in the current directory, and nothing has to be made.
      obtain rfl : q = ⟨""⟩ := congrArg Path.mk hempty
      have hnil : a ++ rest = [] := hqsteps.symm
      obtain ⟨-, rfl⟩ := List.append_eq_nil_iff.1 hnil
      exact ⟨fs, rfl, .of_existing hfs (by rwa [List.append_nil])⟩
    · exact createDirectories_ok hfs (isReadable_parent? hread hq hempty)
        (Path.endsInStep_parent? hq) hqsteps (by rw [origin_eq rfl hqabs]; exact hbase) hb hrest
        hfree
  refine ⟨made, ?_, hmade⟩
  have hdirs : ∀ k, fs.isDirectoryAt k → made.isDirectoryAt k := fun _ => hmade.isDirectoryAt_mono
  obtain ⟨-, hfile⟩ := readBytes_eq_ok hsource
  have hkept : made.get? (fs.reading source) = fs.get? (fs.reading source) := by
    rw [hmade.get?, if_neg]
    rintro ⟨⟨front, hfront⟩, hpre⟩
    rw [← hfront, List.prefix_append_right_inj] at hpre
    have hway := hfree front hpre
    rw [hfront, isDirectoryAt_iff, hfile] at hway
    rcases hway with hway | hway <;> cases hway
  have hcopy : made.copyFile source target = .ok (made.setFile (b ++ rest ++ [name]) content) := by
    refine copyFile_ok (readBytes_of_directories hmade.current.symm hdirs hkept hsource) hread hends
      hsteps (hnames name (by simp)) ?_ (hmade.isDirectoryAt (List.prefix_refl rest)) ?_ ?_
    · exact hmade.follow hbase hb hrest
    · rw [isDirectoryAt_iff, hmade.get?_concat, ← isDirectoryAt_iff]
      exact htarget
    · rw [reading_congr hmade.current]
      exact hne
  unfold copyInto createParents
  rw [hq]
  simp only [hparents, hcopy]

end

/-! ### Renamed files -/

/-- An entry is renamed to a place where nothing is and that is not below it. A slash behind either
path asks for a directory. -/
theorem rename_free {source target : Path} {s t : Location} {name other : String}
    {slash slash' : Bool} (hsource : fs.place source = .ok ⟨s, some name, slash⟩)
    (htarget : fs.place target = .ok ⟨t, some other, slash'⟩)
    (hsome : (fs.get? (s ++ [name])).isSome) (hnone : fs.get? (t ++ [other]) = none)
    (hslash : (slash || slash') = true → fs.isDirectoryAt (s ++ [name]))
    (hnot : fs.isDirectoryAt (s ++ [name]) → ¬ s ++ [name] <+: t ++ [other]) :
    fs.rename source target = .ok (fs.moveTree (s ++ [name]) (t ++ [other])) := by
  obtain ⟨entry, hentry⟩ := Option.isSome_iff_exists.1 hsome
  unfold rename
  rw [hsource, htarget]
  simp only [bind, Except.bind]
  unfold renameAt
  rw [hentry]
  cases entry with
  | file content =>
    have hplain : ¬ (slash || slash') = true := fun h => not_isDirectoryAt_of_file hentry (hslash h)
    simp only [if_neg hplain, hnone]
  | directory =>
    have hbelow : ¬ (s ++ [name]).isPrefixOf (t ++ [other]) = true := fun h =>
      hnot (isDirectoryAt_iff.2 hentry) (List.isPrefixOf_iff_prefix.1 h)
    have hne : s ++ [name] ≠ t ++ [other] := by
      intro heq
      rw [heq, hnone] at hentry
      cases hentry
    simp only [if_neg hne, if_neg hbelow, hnone]

/-- A file that moves takes nothing along. -/
theorem get?_moveTree_file {source target : Location} (hfs : fs.WellFormed)
    (hfile : fs.get? source = some (.file content)) (htarget : target ≠ [])
    (hnone : fs.get? target = none) (m : Location) :
    (fs.moveTree source target).get? m =
      if m = target then some (.file content) else if m = source then none else fs.get? m := by
  have hsource : source ≠ [] := by
    rintro rfl
    cases hfile
  have hbelow : ∀ k, source <+: k → k ≠ source → fs.get? k = none := by
    intro k hk hne
    exact hfs.get?_below (not_isDirectoryAt_of_file hfile) hk (Ne.symm hne)
  rw [get?_moveTree hsource htarget fun _ hk => hfs.get?_of_free hnone hk]
  by_cases hself : m = target
  · have hback : rebase target source target = source := by simp [rebase]
    rw [if_pos hself, hself, if_pos (List.prefix_refl target), hback, hfile]
  · rw [if_neg hself]
    by_cases hfrom : m = source
    · have hapart : ¬ target <+: source := by
        intro hpre
        rw [hfs.get?_of_free hnone hpre] at hfile
        cases hfile
      rw [if_pos hfrom, hfrom, if_neg hapart, if_pos (List.prefix_refl source)]
    · rw [if_neg hfrom]
      split
      · -- Below the target there was nothing, and nothing has moved there.
        next hpre =>
        rw [hfs.get?_of_free hnone hpre]
        obtain ⟨rest, rfl⟩ := hpre
        rw [rebase_append]
        exact hbelow _ (List.prefix_append source rest) (by simpa using hself)
      · split
        · next hpre => exact (hbelow m hpre hfrom).symm
        · rfl

/-- A file that moves to a free slot leaves the directories and the current one. -/
theorem WellFormed.moveTree_file {source target : Location} (hfs : fs.WellFormed)
    (hfile : fs.get? source = some (.file content)) (hslot : fs.IsSlot target)
    (hnone : fs.get? target = none) :
    (fs.moveTree source target).WellFormed ∧
      (fs.moveTree source target).current = fs.current ∧
      ∀ m, (fs.moveTree source target).isDirectoryAt m ↔ fs.isDirectoryAt m := by
  have hsource : source ≠ [] := by
    rintro rfl
    cases hfile
  -- The file is neither above its new place nor above the current directory.
  have hnotcurrent : ¬ source <+: fs.current :=
    hfs.not_prefix_of_file hfile hfs.current_directory
  have hnotabove : ¬ source <+: target := by
    intro hpre
    rw [← List.dropLast_concat_getLast hslot.below_root, List.prefix_concat_iff,
      List.dropLast_concat_getLast hslot.below_root] at hpre
    rcases hpre with rfl | hpre
    · rw [hnone] at hfile
      cases hfile
    · exact hfs.not_prefix_of_file hfile hslot.in_directory hpre
  refine ⟨hfs.moveTree hsource hslot hnone hnotabove, ?_, fun m => ?_⟩
  · unfold FileSystem.moveTree
    exact if_neg (by simpa using hnotcurrent)
  · rw [isDirectoryAt_iff, isDirectoryAt_iff, get?_moveTree_file hfs hfile hslot.below_root hnone]
    split
    · next hself => simp [hself, hnone]
    · split
      · next hself => simp [hself, hfile]
      · rfl

end FileSystem

end Scaffold
