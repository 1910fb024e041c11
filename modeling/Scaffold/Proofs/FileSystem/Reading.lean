import Scaffold.FileSystem.Access
import Scaffold.Proofs.Path.Steps

/-! # Where paths lead

  Without links a path can lead to one location only, which its text and the
  current directory decide. The file system has a say in whether the path leads
  there at all: whatever the operating system resolves, it resolves to the
  reading of the path.

  - `reading`: the location that a path can lead to.
  - `locate_eq_reading`, `place_eq_reading`: what is resolved is the reading.
  - `follow_of_directories`: resolution needs the directories on the way, no more.
-/

namespace Scaffold

open Scaffold.Path (IsIdle IsPlain)

theorem IsName.isPlain {name : String} (h : IsName name) : IsPlain name :=
  ⟨fun e => e.elim h.nonempty h.not_current, h.not_parent⟩

namespace FileSystem

variable {fs fs' : FileSystem} {l m d : Location} {p : Path} {name : String} {slash : Bool}

/-! ### Readings -/

/-- Where a name leads from a location. -/
def turn (l : Location) (name : String) : Location :=
  if IsIdle name then l else if name = ".." then l.dropLast else l ++ [name]

/-- Where names lead from a location. -/
def readNames (l : Location) (names : List String) : Location := names.foldl turn l

/-- The location that a path can lead to. -/
def reading (fs : FileSystem) (p : Path) : Location := readNames (fs.origin p) p.names

theorem readNames_append (l : Location) (a b : List String) :
    readNames l (a ++ b) = readNames (readNames l a) b := List.foldl_append

@[simp] theorem turn_plain (h : IsPlain name) : turn l name = l ++ [name] := by
  rw [turn, if_neg h.1, if_neg h.2]

/-- Only the steps among the names count. -/
theorem readNames_filter (l : Location) (names : List String) :
    readNames l (names.filter fun name => ¬ IsIdle name) = readNames l names := by
  induction names generalizing l with
  | nil => rfl
  | cons name rest ih =>
    by_cases h : IsIdle name
    · rw [List.filter_cons_of_neg (by simpa using h), ih]
      simp [readNames, turn, h]
    · rw [List.filter_cons_of_pos (by simpa using h)]
      exact ih (turn l name)

/-- Slashes behind a name lead nowhere. -/
theorem readNames_slashes (l : Location) (k : Nat) : readNames l (List.replicate k "") = l := by
  rw [← readNames_filter, List.filter_eq_nil_iff.2 (by simp [IsIdle])]
  rfl

theorem reading_eq_steps (fs : FileSystem) (p : Path) :
    fs.reading p = readNames (fs.origin p) p.steps := (readNames_filter _ _).symm

/-- Plain names lead down. -/
theorem readNames_plain {names : List String} (h : ∀ name ∈ names, IsPlain name)
    (l : Location) : readNames l names = l ++ names := by
  induction names generalizing l with
  | nil => simp [readNames]
  | cons name rest ih =>
    have hname : IsPlain name := h name List.mem_cons_self
    have hrest : ∀ n ∈ rest, IsPlain n := fun n hn => h n (List.mem_cons_of_mem name hn)
    calc readNames l (name :: rest) = readNames (l ++ [name]) rest := by
          rw [← turn_plain hname]
          rfl
      _ = l ++ name :: rest := by rw [ih hrest, List.append_assoc]; rfl

theorem origin_eq (h : fs.current = fs'.current) {q : Path}
    (habs : p.isAbsolute = q.isAbsolute) : fs.origin p = fs'.origin q := by
  unfold origin
  rw [h, habs]

/-- The reading of a path rests on the current directory alone. -/
theorem reading_congr (h : fs.current = fs'.current) (p : Path) : fs.reading p = fs'.reading p := by
  rw [reading, reading, origin_eq h rfl]

/-- What is joined to a path is read from where the path leads. -/
theorem reading_join {rest : String} (hp : p.text ≠ "") (hrest : Path.isAbsolute ⟨rest⟩ = false) :
    fs.reading (p.join rest) = readNames (fs.reading p) (Path.steps ⟨rest⟩) := by
  rw [reading_eq_steps, reading_eq_steps, Path.steps_join hp hrest, readNames_append,
    origin_eq rfl (Path.isAbsolute_join hp hrest)]

/-- Paths that are the same lead to the same location. -/
theorem reading_of_same (h : p.same q = true) : fs.reading p = fs.reading q := by
  obtain ⟨hhead, hsteps⟩ := Path.same_iff_head_steps.1 h
  have habs : p.isAbsolute = q.isAbsolute := by
    rw [Bool.eq_iff_iff, Path.isAbsolute_iff_head, Path.isAbsolute_iff_head, hhead]
  rw [reading_eq_steps, reading_eq_steps, hsteps, origin_eq rfl habs]

/-! ### Following names -/

/-- A name can be followed if it leads nowhere or up, or names an entry. -/
theorem step_eq_ok :
    fs.step l name = .ok m ↔ m = turn l name ∧
      (IsPlain name → name.utf8ByteSize ≤ nameLimit ∧ (fs.get? (l ++ [name])).isSome) := by
  unfold step turn
  by_cases hidle : IsIdle name
  · rw [if_pos (show name = "" ∨ name = "." from hidle), if_pos hidle]
    exact ⟨fun h => ⟨(Except.ok.inj h).symm, fun hplain => absurd hidle hplain.1⟩,
      fun h => congrArg Except.ok h.1.symm⟩
  · rw [if_neg (show ¬ (name = "" ∨ name = ".") from hidle), if_neg hidle]
    by_cases hup : name = ".."
    · rw [if_pos hup, if_pos hup]
      exact ⟨fun h => ⟨(Except.ok.inj h).symm, fun hplain => absurd hup hplain.2⟩,
        fun h => congrArg Except.ok h.1.symm⟩
    · rw [if_neg hup, if_neg hup]
      by_cases hlong : nameLimit < name.utf8ByteSize
      · rw [if_pos hlong]
        exact ⟨nofun, fun h => absurd (h.2 ⟨hidle, hup⟩).1 (Nat.not_le.2 hlong)⟩
      · rw [if_neg hlong]
        by_cases hsome : (fs.get? (l ++ [name])).isSome
        · rw [if_pos hsome]
          exact ⟨fun h => ⟨(Except.ok.inj h).symm, fun _ => ⟨Nat.le_of_not_lt hlong, hsome⟩⟩,
            fun h => congrArg Except.ok h.1.symm⟩
        · rw [if_neg hsome]
          exact ⟨nofun, fun h => absurd (h.2 ⟨hidle, hup⟩).2 hsome⟩

theorem follow_cons (fs : FileSystem) (l : Location) (name : String) (rest : List String) :
    fs.follow l (name :: rest) =
      if fs.isDirectoryAt l then (fs.step l name).bind (fs.follow · rest)
      else .error .notADirectory := by
  rw [follow]
  split
  · cases fs.step l name <;> rfl
  · rfl

/-- Names are followed one part after the other. -/
theorem follow_append (fs : FileSystem) (l : Location) (a b : List String) :
    fs.follow l (a ++ b) = (fs.follow l a).bind (fs.follow · b) := by
  induction a generalizing l with
  | nil => rfl
  | cons name rest ih =>
    rw [List.cons_append, follow_cons, follow_cons]
    split
    · cases fs.step l name with
      | error fault => rfl
      | ok next => exact ih next
    · rfl

theorem follow_cons_ok {rest : List String} (h : fs.follow l (name :: rest) = .ok m) :
    ∃ k, fs.isDirectoryAt l ∧ fs.step l name = .ok k ∧ fs.follow k rest = .ok m := by
  rw [follow_cons] at h
  split at h
  · next hdir =>
    cases hs : fs.step l name with
    | error fault => rw [hs] at h; cases h
    | ok k => exact ⟨k, hdir, rfl, by rwa [hs] at h⟩
  · cases h

/-- Names that can be followed lead where they are read to lead. -/
theorem follow_eq_readNames {names : List String} (h : fs.follow l names = .ok m) :
    m = readNames l names := by
  induction names generalizing l with
  | nil => exact (Except.ok.inj h).symm
  | cons name rest ih =>
    obtain ⟨k, -, hstep, hrest⟩ := follow_cons_ok h
    rw [ih hrest, (step_eq_ok.1 hstep).1]
    rfl

/-- Following names needs the directories on the way, and what is at the end of it. -/
theorem follow_of_directories {names : List String}
    (hdirs : ∀ k, fs.isDirectoryAt k → fs'.isDirectoryAt k)
    (hend : (fs.get? m).isSome → (fs'.get? m).isSome)
    (h : fs.follow l names = .ok m) : fs'.follow l names = .ok m := by
  induction names generalizing l with
  | nil => exact h
  | cons name rest ih =>
    obtain ⟨k, hdir, hstep, hrest⟩ := follow_cons_ok h
    obtain ⟨rfl, hplain⟩ := step_eq_ok.1 hstep
    have hstep' : fs'.step l name = .ok (turn l name) := by
      refine step_eq_ok.2 ⟨rfl, fun hname => ⟨(hplain hname).1, ?_⟩⟩
      rw [turn_plain hname] at hrest
      -- The entry is the end of the way, or a directory that is passed.
      cases rest with
      | nil =>
        obtain rfl := Except.ok.inj hrest
        exact hend (hplain hname).2
      | cons next rest =>
        obtain ⟨_, hpassed, -, -⟩ := follow_cons_ok hrest
        exact Option.isSome_of_any (hdirs _ hpassed)
    rw [follow_cons, if_pos (hdirs l hdir), hstep']
    exact ih hrest

/-- Slashes behind a directory lead nowhere, and neither does nothing at all. -/
theorem follow_slashes {k : Nat} (h : k = 0 ∨ fs.isDirectoryAt l) :
    fs.follow l (List.replicate k "") = .ok l := by
  induction k with
  | zero => rfl
  | succ k ih =>
    have hdir := h.resolve_left (Nat.succ_ne_zero k)
    have hidle : fs.step l "" = .ok l := by simp [step]
    rw [List.replicate_succ, follow_cons, if_pos hdir, hidle]
    exact ih (.inr hdir)

/-- On the way to a directory there are directories. -/
theorem isDirectoryAt_of_follow {names a : List String} (h : fs.follow l names = .ok m)
    (hm : fs.isDirectoryAt m) (ha : a <+: names.filter fun name => ¬ IsIdle name) :
    fs.isDirectoryAt (readNames l a) := by
  induction names generalizing l a with
  | nil =>
    obtain rfl := List.prefix_nil.1 ha
    obtain rfl := Except.ok.inj h
    exact hm
  | cons name rest ih =>
    obtain ⟨k, hdir, hstep, hrest⟩ := follow_cons_ok h
    obtain ⟨rfl, -⟩ := step_eq_ok.1 hstep
    by_cases hidle : IsIdle name
    · have hturn : turn l name = l := if_pos hidle
      rw [hturn] at hrest
      exact ih hrest (by simpa [hidle] using ha)
    · cases a with
      -- The way is a part of the names, so the first name of both is the same.
      | nil => exact hdir
      | cons first more =>
        rw [List.filter_cons_of_pos (by simpa using hidle), List.cons_prefix_cons] at ha
        obtain ⟨rfl, hmore⟩ := ha
        show fs.isDirectoryAt (readNames (turn l first) more)
        exact ih hrest hmore

/-! ### Existing entries -/

/-- A path that is not refused for its text alone. -/
def IsReadable (p : Path) : Prop := p.text ≠ "" ∧ '\x00' ∉ p.text.toList

theorem pathNames_eq_ok {names : List String} :
    pathNames p = .ok names ↔ IsReadable p ∧ names = p.names := by
  unfold pathNames IsReadable Path.names
  by_cases hempty : p.text = ""
  · simp [hempty]
  · by_cases hzero : '\x00' ∈ p.text.toList
    · simp [hempty, hzero]
    · simp [hempty, hzero, eq_comm]

theorem locate_eq_ok :
    fs.locate p = .ok l ↔ IsReadable p ∧ fs.follow (fs.origin p) p.names = .ok l := by
  unfold locate
  cases hn : pathNames p with
  | error fault =>
    refine ⟨nofun, fun h => ?_⟩
    rw [pathNames_eq_ok.2 ⟨h.1, rfl⟩] at hn
    cases hn
  | ok names =>
    obtain ⟨hread, rfl⟩ := pathNames_eq_ok.1 hn
    exact ⟨fun h => ⟨hread, h⟩, fun h => h.2⟩

/-- Whatever a path is resolved to is its reading. -/
theorem locate_eq_reading (h : fs.locate p = .ok l) : l = fs.reading p :=
  follow_eq_readNames (locate_eq_ok.1 h).2

theorem locate_text_ne_empty (h : fs.locate p = .ok l) : p.text ≠ "" := (locate_eq_ok.1 h).1.1

theorem isPresent_iff : fs.isPresent p = true ↔ fs.locate p = .ok (fs.reading p) := by
  unfold isPresent
  cases h : fs.locate p with
  | error fault => simp [Except.isOk, Except.toBool]
  | ok l => simp [Except.isOk, Except.toBool, locate_eq_reading h]

theorem isPresent_of_locate (h : fs.locate p = .ok l) : fs.isPresent p = true := by
  unfold isPresent
  rw [h]
  rfl

/-- A path is that of a directory if it leads to its reading and a directory is there. -/
theorem isDirectory_iff :
    fs.isDirectory p = true ↔
      fs.locate p = .ok (fs.reading p) ∧ fs.isDirectoryAt (fs.reading p) := by
  unfold isDirectory
  cases h : fs.locate p with
  | error fault => exact ⟨nofun, fun hdir => nomatch hdir.1⟩
  | ok l =>
    obtain rfl := locate_eq_reading h
    exact ⟨fun hdir => ⟨rfl, hdir⟩, fun hdir => hdir.2⟩

/-- A path that leads to something leads there as long as the directories on the way are there,
and what it leads to. -/
theorem locate_of_directories (hcurrent : fs.current = fs'.current)
    (hdirs : ∀ k, fs.isDirectoryAt k → fs'.isDirectoryAt k)
    (hend : (fs.get? l).isSome → (fs'.get? l).isSome)
    (h : fs.locate p = .ok l) : fs'.locate p = .ok l := by
  obtain ⟨hread, hfollow⟩ := locate_eq_ok.1 h
  refine locate_eq_ok.2 ⟨hread, ?_⟩
  rw [← origin_eq hcurrent rfl]
  exact follow_of_directories hdirs hend hfollow

/-- The path of a directory stays that of a directory as long as the directories stay. -/
theorem isDirectory_of_directories (hcurrent : fs.current = fs'.current)
    (hdirs : ∀ k, fs.isDirectoryAt k → fs'.isDirectoryAt k) (h : fs.isDirectory p = true) :
    fs'.isDirectory p = true := by
  obtain ⟨hlocate, hdir⟩ := isDirectory_iff.1 h
  have hdir' := hdirs _ hdir
  rw [isDirectory_iff, ← reading_congr hcurrent]
  exact ⟨locate_of_directories hcurrent hdirs (fun _ => Option.isSome_of_any hdir') hlocate, hdir'⟩

/-- On the way to a directory a path passes directories. -/
theorem isDirectoryAt_of_locate {a : List String} (h : fs.locate p = .ok l)
    (hl : fs.isDirectoryAt l) (ha : a <+: p.steps) :
    fs.isDirectoryAt (readNames (fs.origin p) a) :=
  isDirectoryAt_of_follow (locate_eq_ok.1 h).2 hl ha

/-! ### Places -/

/-- What is behind the last name that is not empty. -/
theorem names_split {names before : List String} {last : String}
    (h : names.reverse.dropWhile (· == "") = last :: before) :
    last ≠ "" ∧ ∃ k, names = before.reverse ++ last :: List.replicate k "" ∧
      (names.getLast? == some "") = decide (0 < k) := by
  -- What is dropped from the end is empty, and what is left ends with a name that is not.
  have hlast : last ≠ "" := by
    have := List.head?_dropWhile_not (· == "") names.reverse
    rw [h] at this
    simpa using this
  -- As many slashes end the path as there are empty names behind the last one.
  have hempty : names.reverse.takeWhile (· == "") =
      List.replicate (names.reverse.takeWhile (· == "")).length "" := by
    have hall : (names.reverse.takeWhile (· == "")).all (· == "") := List.all_takeWhile
    refine List.eq_replicate_iff.2 ⟨rfl, fun s hs => ?_⟩
    simpa using List.all_eq_true.1 hall s hs
  have hsplit := List.takeWhile_append_dropWhile (p := (· == "")) (l := names.reverse)
  generalize (names.reverse.takeWhile (· == "")).length = k at hempty
  rw [hempty, h] at hsplit
  have hnames : names = before.reverse ++ last :: List.replicate k "" := by
    rw [← List.reverse_reverse names, ← hsplit]
    simp
  refine ⟨hlast, k, hnames, ?_⟩
  cases k with
  | zero => simp [hnames, hlast]
  | succ k =>
    rw [List.replicate_succ', ← List.cons_append, ← List.append_assoc] at hnames
    rw [hnames, List.getLast?_concat]
    simp

/-- A place with a name: the path goes through the directory, ends with the name, and has slashes
behind it at most. -/
theorem place_eq_ok {place : Place} (h : fs.place p = .ok place) (hname : place.name? = some name) :
    IsReadable p ∧ ∃ before k, p.names = before ++ name :: List.replicate k "" ∧
      fs.follow (fs.origin p) before = .ok place.directory ∧
      fs.isDirectoryAt place.directory ∧ IsName name ∧ place.slash = decide (0 < k) := by
  unfold FileSystem.place at h
  cases hn : pathNames p with
  | error fault => rw [hn] at h; cases h
  | ok names =>
    obtain ⟨hread, rfl⟩ := pathNames_eq_ok.1 hn
    rw [hn] at h
    simp only [bind, Except.bind] at h
    split at h
    · obtain rfl := Except.ok.inj h
      cases hname
    · next last before hdrop =>
      obtain ⟨hlast, k, hnames, hslash⟩ := names_split hdrop
      split at h
      · cases h
      · next directory hfollow =>
        split at h
        · cases h
        · next hdir =>
          split at h
          · obtain rfl := Except.ok.inj h
            cases hname
          · next hdots =>
            split at h
            · cases h
            · next hlong =>
              obtain rfl := Except.ok.inj h
              obtain rfl := Option.some.inj hname
              -- Every refusal that was passed is one condition on the name.
              have hmem : last ∈ p.names := by simp [hnames]
              refine ⟨hread, before.reverse, k, hnames, hfollow, by simpa using hdir, ?_, hslash⟩
              exact {
                nonempty := hlast
                not_current := fun e => hdots (.inl e)
                not_parent := fun e => hdots (.inr e)
                no_slash := Path.slash_notMem_of_mem_names hmem
                no_zero := fun hc => hread.2 (Path.mem_text_of_mem_names hmem hc)
                short := Nat.le_of_not_lt hlong }

/-- A path that has a name as its place ends with it. -/
theorem steps_of_place {place : Place} (h : fs.place p = .ok place)
    (hname : place.name? = some name) : IsName name ∧ ∃ a, p.steps = a ++ [name] := by
  obtain ⟨-, before, k, hnames, -, -, hisName, -⟩ := place_eq_ok h hname
  exact ⟨hisName, _, Path.steps_of_names_eq hnames hisName.isPlain.1⟩

/-- The place of a path is its reading. -/
theorem place_eq_reading {place : Place} (h : fs.place p = .ok place)
    (hname : place.name? = some name) : place.directory ++ [name] = fs.reading p := by
  obtain ⟨-, before, k, hnames, hfollow, -, hisName, -⟩ := place_eq_ok h hname
  rw [reading, hnames, readNames_append, follow_eq_readNames hfollow]
  show _ = readNames (turn _ name) (List.replicate k "")
  rw [readNames_slashes, turn_plain hisName.isPlain]

/-- A path leads to its place as soon as something is there. If a slash ends the path, that has to
be a directory. -/
theorem locate_of_place {place : Place} (hcurrent : fs.current = fs'.current)
    (hdirs : ∀ k, fs.isDirectoryAt k → fs'.isDirectoryAt k)
    (h : fs.place p = .ok place) (hname : place.name? = some name)
    (hsome : (fs'.get? (fs.reading p)).isSome)
    (hslash : place.slash = true → fs'.isDirectoryAt (fs.reading p)) :
    fs'.locate p = .ok (fs.reading p) := by
  obtain ⟨hread, before, k, hnames, hfollow, hdir, hisName, hk⟩ := place_eq_ok h hname
  rw [← place_eq_reading h hname] at hsome hslash ⊢
  -- The way to the place passes directories only, and those are still there.
  have hfollow' : fs'.follow (fs'.origin p) before = .ok place.directory := by
    rw [← origin_eq hcurrent rfl]
    exact follow_of_directories hdirs (fun _ => Option.isSome_of_any (hdirs _ hdir)) hfollow
  have hstep : fs'.step place.directory name = .ok (place.directory ++ [name]) :=
    step_eq_ok.2 ⟨(turn_plain hisName.isPlain).symm, fun _ => ⟨hisName.short, hsome⟩⟩
  refine locate_eq_ok.2 ⟨hread, ?_⟩
  rw [hnames, follow_append, hfollow']
  show fs'.follow place.directory (name :: List.replicate k "") = _
  rw [follow_cons, if_pos (hdirs _ hdir), hstep]
  refine follow_slashes ?_
  rcases Nat.eq_zero_or_pos k with hzero | hpos
  · exact .inl hzero
  · exact .inr (hslash (by rw [hk]; exact decide_eq_true hpos))

end FileSystem

end Scaffold
