import Scaffold.Proofs.FileSystem.Enclosure

/-! # Following a path by its steps

  What leads nowhere in a path only asks for a directory where it stands. So the
  steps of a path decide whether it can be followed, apart from what is behind
  the last one.

  - `follow_of_steps`, `follow_steps`, `follow_error_of_steps`, `follow_of_steps_cases`:
    names and steps.
  - `WellFormed.follow_down`, `follow_missing`: names of entries on the way down.
  - `locate_entry`: an entry below a root is found at its path.
-/

namespace Scaffold

open Scaffold.Path (IsIdle IsPlain EndsInStep)

namespace FileSystem

variable {fs : FileSystem} {l m : Location} {p q : Path} {content : ByteArray}

/-! ### Following steps -/

/-- Names lead where those of them lead that are steps, if there is a directory. -/
theorem follow_of_steps {names : List String}
    (h : fs.follow l (names.filter fun name => ¬ IsIdle name) = .ok m) (hm : fs.isDirectoryAt m) :
    fs.follow l names = .ok m := by
  induction names generalizing l with
  | nil => exact h
  | cons name rest ih =>
    by_cases hidle : IsIdle name
    · rw [List.filter_cons_of_neg (by simpa using hidle)] at h
      have hl : fs.isDirectoryAt l := by
        cases hsteps : rest.filter fun name => ¬ IsIdle name with
        | nil =>
          rw [hsteps] at h
          obtain rfl := Except.ok.inj h
          exact hm
        | cons first more =>
          rw [hsteps] at h
          obtain ⟨-, hdir, -, -⟩ := follow_cons_ok h
          exact hdir
      have hstep : fs.step l name = .ok l := if_pos hidle
      rw [follow_cons, if_pos hl, hstep]
      exact ih h
    · rw [List.filter_cons_of_pos (by simpa using hidle)] at h
      obtain ⟨k, hdir, hstep, hrest⟩ := follow_cons_ok h
      rw [follow_cons, if_pos hdir, hstep]
      exact ih hrest

/-- Where names lead, those of them lead that are steps. -/
theorem follow_steps {names : List String} (h : fs.follow l names = .ok m) :
    fs.follow l (names.filter fun name => ¬ IsIdle name) = .ok m := by
  induction names generalizing l with
  | nil => exact h
  | cons name rest ih =>
    obtain ⟨k, hdir, hstep, hrest⟩ := follow_cons_ok h
    by_cases hidle : IsIdle name
    · have hstay : fs.step l name = .ok l := if_pos hidle
      obtain rfl := Except.ok.inj (hstay.symm.trans hstep)
      rw [List.filter_cons_of_neg (by simpa using hidle)]
      exact ih hrest
    · rw [List.filter_cons_of_pos (by simpa using hidle), follow_cons, if_pos hdir, hstep]
      exact ih hrest

/-- Names cannot be followed where those of them cannot that are steps. -/
theorem follow_error_of_steps {names : List String} {fault : IoFault}
    (h : fs.follow l (names.filter fun name => ¬ IsIdle name) = .error fault) :
    fs.follow l names = .error fault := by
  induction names generalizing l with
  | nil => exact h
  | cons name rest ih =>
    by_cases hidle : IsIdle name
    · rw [List.filter_cons_of_neg (by simpa using hidle)] at h
      have hstay : fs.step l name = .ok l := if_pos hidle
      rw [follow_cons, hstay]
      split
      · exact ih h
      · next hdir =>
        -- The next step is refused for the same reason.
        cases hsteps : rest.filter fun name => ¬ IsIdle name with
        | nil => rw [hsteps] at h; cases h
        | cons first more =>
          rw [hsteps, follow_cons, if_neg hdir] at h
          exact h
    · rw [List.filter_cons_of_pos (by simpa using hidle), follow_cons] at h
      rw [follow_cons]
      split
      · next hdir =>
        rw [if_pos hdir] at h
        cases hstep : fs.step l name with
        | error e => rw [hstep] at h; exact h
        | ok k =>
          rw [hstep] at h
          exact ih h
      · next hdir =>
        rw [if_neg hdir] at h
        exact h

/-- Names lead where the steps among them lead, or they ask for a directory where none is. -/
theorem follow_of_steps_cases {names : List String}
    (h : fs.follow l (names.filter fun name => ¬ IsIdle name) = .ok m) :
    fs.follow l names = .ok m ∨ fs.follow l names = .error .notADirectory := by
  induction names generalizing l with
  | nil => exact .inl h
  | cons name rest ih =>
    rw [follow_cons]
    by_cases hidle : IsIdle name
    · rw [List.filter_cons_of_neg (by simpa using hidle)] at h
      have hstay : fs.step l name = .ok l := if_pos hidle
      rw [hstay]
      split
      · exact ih h
      · exact .inr rfl
    · rw [List.filter_cons_of_pos (by simpa using hidle)] at h
      obtain ⟨k, hdir, hstep, hrest⟩ := follow_cons_ok h
      rw [if_pos hdir, hstep]
      exact ih hrest

/-- Names of entries are followed down through directories. -/
theorem follow_down {names : List String} (hnames : ∀ name ∈ names, IsName name)
    (hdirs : ∀ front, front <+: names → front ≠ names → fs.isDirectoryAt (l ++ front))
    (hend : (fs.get? (l ++ names)).isSome) : fs.follow l names = .ok (l ++ names) := by
  induction names generalizing l with
  | nil => rw [List.append_nil]; rfl
  | cons name rest ih =>
    have hname := hnames name List.mem_cons_self
    have hl : fs.isDirectoryAt l := by
      have h := hdirs [] List.nil_prefix (List.cons_ne_nil name rest).symm
      rwa [List.append_nil] at h
    have hsome : (fs.get? (l ++ [name])).isSome := by
      by_cases hrest : rest = []
      · rw [hrest] at hend
        exact hend
      · refine Option.isSome_of_any (hdirs [name] (List.prefix_append [name] rest) fun heq => ?_)
        exact hrest (List.cons.inj heq).2.symm
    have hstep : fs.step l name = .ok (l ++ [name]) :=
      step_eq_ok.2 ⟨(turn_plain hname.isPlain).symm, fun _ => ⟨hname.short, hsome⟩⟩
    rw [follow_cons, if_pos hl, hstep]
    have hnext := ih (l := l ++ [name]) (fun n hn => hnames n (List.mem_cons_of_mem name hn))
      (fun front hfront hne => by
        rw [List.append_assoc]
        refine hdirs (name :: front) ?_ fun heq => hne (List.cons.inj heq).2
        exact List.cons_prefix_cons.2 ⟨rfl, hfront⟩)
      (by rw [List.append_assoc]; exact hend)
    rw [List.append_assoc] at hnext
    exact hnext

/-- The way down to an entry can be followed. -/
theorem WellFormed.follow_down {names : List String} (hfs : fs.WellFormed)
    (hsome : (fs.get? (l ++ names)).isSome) : fs.follow l names = .ok (l ++ names) := by
  have hnames : ∀ name ∈ names, IsName name := fun name hname =>
    hfs.isName_of_mem hsome (List.mem_append_right l hname)
  refine FileSystem.follow_down hnames (fun front hfront hne => ?_) hsome
  have hpre : l ++ front <+: l ++ names := (List.prefix_append_right_inj l).2 hfront
  exact hfs.isDirectoryAt_of_prefix hsome hpre (by simpa using hne)

/-- Names cannot be followed down where a directory is missing. -/
theorem follow_missing {names : List String} (hnames : ∀ name ∈ names, IsName name)
    (hl : fs.isDirectoryAt l)
    (hfree : ∀ front, front <+: names → fs.isDirectoryAt (l ++ front) ∨ fs.get? (l ++ front) = none)
    (hnone : fs.get? (l ++ names) = none) : fs.follow l names = .error .notFound := by
  induction names generalizing l with
  | nil =>
    rw [List.append_nil] at hnone
    rw [isDirectoryAt_iff, hnone] at hl
    cases hl
  | cons name rest ih =>
    have hname := hnames name List.mem_cons_self
    rw [follow_cons, if_pos hl]
    rcases hfree [name] (List.prefix_append [name] rest) with hdir | hmissing
    · have hstep : fs.step l name = .ok (l ++ [name]) :=
        step_eq_ok.2 ⟨(turn_plain hname.isPlain).symm,
          fun _ => ⟨hname.short, Option.isSome_of_any hdir⟩⟩
      rw [hstep]
      refine ih (fun n hn => hnames n (List.mem_cons_of_mem name hn)) hdir ?_ ?_
      · intro front hfront
        rw [List.append_assoc]
        exact hfree (name :: front) (List.cons_prefix_cons.2 ⟨rfl, hfront⟩)
      · rw [List.append_assoc]
        exact hnone
    · have hstep : fs.step l name = .error .notFound := by
        have hidle : ¬ (name = "" ∨ name = ".") := hname.isPlain.1
        unfold step
        rw [if_neg hidle, if_neg hname.not_parent, if_neg (Nat.not_lt.2 hname.short), hmissing]
        rfl
      rw [hstep]
      rfl

/-! ### Paths that end in a step -/

section

variable {a : List String} {name : String}

/-- A path whose steps lead to a directory leads there. -/
theorem locate_of_steps (hread : IsReadable p) (h : fs.follow (fs.origin p) p.steps = .ok l)
    (hl : fs.isDirectoryAt l) : fs.locate p = .ok l :=
  locate_eq_ok.2 ⟨hread, follow_of_steps h hl⟩

/-- A path that ends in a step has its last step as its last name. -/
theorem names_of_endsInStep (hends : p.EndsInStep) (hsteps : p.steps = a ++ [name]) :
    ∃ before, p.names = before ++ [name] ∧ before.filter (fun n => ¬ IsIdle n) = a := by
  obtain ⟨front, last, hnames, hidle⟩ := hends (by rw [hsteps]; simp)
  have hsplit : a ++ [name] = front.filter (fun n => ¬ IsIdle n) ++ [last] := by
    rw [← hsteps, Path.steps, hnames, List.filter_append,
      List.filter_cons_of_pos (by simpa using hidle)]
    rfl
  obtain ⟨hfront, hlast⟩ := List.append_inj' hsplit rfl
  obtain rfl := (List.cons.inj hlast).1
  exact ⟨front, hnames, hfront.symm⟩

/-- A path is not refused for its text if no step holds a zero byte. -/
theorem isReadable_of_steps (hne : p.text ≠ "") (h : ∀ n ∈ p.steps, '\x00' ∉ n.toList) :
    IsReadable p := by
  refine ⟨hne, fun hzero => ?_⟩
  obtain ⟨part, hpart, hmem⟩ := Path.exists_mem_names hzero (by decide)
  by_cases hidle : IsIdle part
  · rcases hidle with rfl | rfl <;> revert hmem <;> decide
  · exact h part (List.mem_filter.2 ⟨hpart, by simpa using hidle⟩) hmem

/-- A path without steps leads to where it begins. -/
theorem isPresent_of_steps_nil (hfs : fs.WellFormed) (hne : p.text ≠ "") (h : p.steps = []) :
    fs.isPresent p = true := by
  have horigin : fs.isDirectoryAt (fs.origin p) := by
    unfold origin
    split
    · rfl
    · exact hfs.current_directory
  have hlocate : fs.locate p = .ok (fs.origin p) := by
    refine locate_of_steps (isReadable_of_steps hne (by simp [h])) ?_ horigin
    rw [h]
    rfl
  rw [isPresent_iff, ← locate_eq_reading hlocate]
  exact hlocate

theorem IsReadable.zero_notMem (h : IsReadable p) {n : String} (hn : n ∈ p.steps) :
    '\x00' ∉ n.toList := fun hmem =>
  h.2 (Path.mem_text_of_mem_names (List.mem_filter.1 hn).1 hmem)

/-- The parent of a path is not refused for its text, unless there is nothing left of it. -/
theorem isReadable_parent? (hread : IsReadable p) (hq : p.parent? = some q)
    (hne : q.text ≠ "") : IsReadable q := by
  refine isReadable_of_steps hne fun n hn => hread.zero_notMem ?_
  rw [(Path.steps_parent? hq).1] at hn
  exact List.dropLast_subset _ hn

/-- A path with steps has a text. -/
theorem text_ne_empty_of_steps (h : q.steps ≠ []) : q.text ≠ "" := by
  intro hempty
  obtain rfl : q = ⟨""⟩ := congrArg Path.mk hempty
  exact h rfl

end

/-! ### Entries below a root -/

section

variable {root base : Path} {v : Visited} {parts : List String} {name : String}

/-- Names that are joined to a path are its last names. -/
theorem endsInStep_join (hbase : base.text ≠ "") (hne : parts ≠ [])
    (h : ∀ name ∈ parts, IsName name) : (base.join (Text.joinTexts '/' parts)).EndsInStep := by
  intro _
  obtain ⟨-, hrel⟩ := Path.steps_of_names h
  obtain ⟨front, hnames, -, -⟩ := Path.names_join hbase hrel
  rw [Path.names_joinTexts hne fun name hname => (h name hname).no_slash] at hnames
  refine ⟨front ++ parts.dropLast, parts.getLast hne, ?_, (h _ (List.getLast_mem hne)).isPlain.1⟩
  rw [hnames, List.append_assoc, List.dropLast_concat_getLast hne]

/-- Both paths of a visited entry end in a step. -/
theorem endsInStep_entry (hroot : root.text ≠ "") (hne : v.relative ≠ [])
    (h : ∀ name ∈ v.relative, IsName name) :
    (v.path root).EndsInStep ∧ (root.join v.name).EndsInStep := by
  refine ⟨?_, endsInStep_join hroot hne h⟩
  have hfront : ∀ name ∈ v.relative.dropLast, IsName name :=
    fun name hname => h name (List.dropLast_subset _ hname)
  have hlast : ∀ name ∈ [v.relative.getLast hne], IsName name :=
    fun name hname => h name (List.mem_singleton.1 hname ▸ List.getLast_mem hne)
  have hpath : v.path root =
      (v.relative.dropLast.foldl Path.join root).join (v.relative.getLast hne) := by
    rw [← List.foldl_concat Path.join, List.dropLast_concat_getLast hne]
    rfl
  rw [hpath, ← Path.joinTexts_singleton (v.relative.getLast hne)]
  exact endsInStep_join (Path.steps_foldl_join hroot hfront).2.2 (List.cons_ne_nil _ _) hlast

/-- A path that leads down from a readable path by names is readable. -/
theorem Descends.isReadable (hp : Descends root parts p) (hroot : IsReadable root)
    (hne : p.text ≠ "") (h : ∀ name ∈ parts, IsName name) : IsReadable p := by
  refine isReadable_of_steps hne fun n hn => ?_
  rw [hp.steps] at hn
  exact (List.mem_append.1 hn).elim hroot.zero_notMem fun hmem => (h n hmem).no_zero

/-- The steps of a path lead where the path leads. -/
theorem follow_steps_of_locate (h : fs.locate p = .ok l) :
    fs.follow (fs.origin p) p.steps = .ok l := follow_steps (locate_eq_ok.1 h).2

/-- An entry below a root is found at its path. -/
theorem locate_entry (hfs : fs.WellFormed) (hroot : fs.locate root = .ok l)
    (hp : Descends root (parts ++ [name]) p) (hends : p.EndsInStep) (htext : p.text ≠ "")
    (hsome : (fs.get? (l ++ (parts ++ [name]))).isSome) :
    fs.locate p = .ok (l ++ (parts ++ [name])) := by
  have hnames : ∀ n ∈ parts ++ [name], IsName n := fun n hn =>
    hfs.isName_of_mem hsome (List.mem_append_right l hn)
  have hname : IsName name := hnames name (by simp)
  have habove : fs.isDirectoryAt (l ++ parts) := by
    have hdir := hfs.isDirectoryAt_dropLast hsome
    rwa [← List.append_assoc, List.dropLast_concat] at hdir
  -- The path ends with the last name, and what comes before leads to a directory.
  obtain ⟨before, hbefore, hfilter⟩ := names_of_endsInStep hends
    (hp.steps.trans (List.append_assoc root.steps parts [name]).symm)
  have hfollow : fs.follow (fs.origin p) before = .ok (l ++ parts) := by
    refine follow_of_steps ?_ habove
    rw [hfilter, origin_eq rfl hp.isAbsolute, follow_append, follow_steps_of_locate hroot]
    exact hfs.follow_down (Option.isSome_of_any habove)
  rw [← List.append_assoc] at hsome ⊢
  have hstep : fs.step (l ++ parts) name = .ok (l ++ parts ++ [name]) :=
    step_eq_ok.2 ⟨(turn_plain hname.isPlain).symm, fun _ => ⟨hname.short, hsome⟩⟩
  refine locate_eq_ok.2 ⟨hp.isReadable (locate_eq_ok.1 hroot).1 htext hnames, ?_⟩
  rw [hbefore, follow_append, hfollow]
  show fs.follow (l ++ parts) [name] = _
  rw [follow_cons, if_pos habove, hstep]
  rfl

/-- The bytes of a file below a root are read at its path. -/
theorem readBytes_entry (hfs : fs.WellFormed) (hroot : fs.locate root = .ok l)
    (hp : Descends root (parts ++ [name]) p) (hends : p.EndsInStep) (htext : p.text ≠ "")
    (hfile : fs.get? (l ++ (parts ++ [name])) = some (.file content)) :
    fs.readBytes p = .ok content := by
  unfold readBytes
  rw [locate_entry hfs hroot hp hends htext (by rw [hfile]; rfl)]
  simp only [bind, Except.bind, hfile]

end

end FileSystem

end Scaffold
