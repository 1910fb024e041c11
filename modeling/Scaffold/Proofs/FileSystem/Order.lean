import Scaffold.FileSystem.Walk

/-! # The order of a walk

  A walk that visits contents first goes through the entries in a linear order
  of their steps. Of two files in one directory it visits the one with the
  smaller name first.

  - `stepsLe_total`, `stepsLe_trans`, `stepsLe_antisymm`: the order is linear.
  - `exists_append_of_stepsLe`: what lies between two ways with a common
    beginning has the same beginning.
  - `collectContentsFirst_pairwise`: every entry is in order with all that
    follow it.
  - `name_le_of_stepsLe`: the order of two files in one directory.
  - `not_prefix_of_stepsLe`: a directory comes after all it holds.
-/

namespace Scaffold.FileSystem

/-! ### Single steps -/

/-- A step that decides the order: a directory before a file, else the smaller name. -/
def StepLt (s t : Bool × String) : Prop :=
  (s.1 = true ∧ t.1 = false) ∨ (s.1 = t.1 ∧ s.2 < t.2)

theorem StepLt.trans {s t u : Bool × String} (hst : StepLt s t) (htu : StepLt t u) :
    StepLt s u := by
  rcases hst with ⟨hs, ht⟩ | ⟨hst, hlt⟩
  · rcases htu with ⟨ht', -⟩ | ⟨htu, -⟩
    · rw [ht] at ht'
      cases ht'
    · exact .inl ⟨hs, htu ▸ ht⟩
  · rcases htu with ⟨ht, hu⟩ | ⟨htu, hlt'⟩
    · exact .inl ⟨hst.trans ht, hu⟩
    · exact .inr ⟨hst.trans htu, Std.lt_trans hlt hlt'⟩

theorem StepLt.irrefl (s : Bool × String) : ¬ StepLt s s := by
  rintro (⟨htrue, hfalse⟩ | ⟨-, hlt⟩)
  · rw [htrue] at hfalse
    cases hfalse
  · exact Std.lt_irrefl hlt

theorem stepLt_trichotomy (s t : Bool × String) : StepLt s t ∨ s = t ∨ StepLt t s := by
  obtain ⟨d, n⟩ := s
  obtain ⟨d', n'⟩ := t
  by_cases hd : d = d'
  · by_cases hn : n = n'
    · exact .inr (.inl (by rw [hd, hn]))
    · rcases String.le_total n n' with hle | hle
      · exact .inl (.inr ⟨hd, Std.lt_of_le_of_ne hle hn⟩)
      · exact .inr (.inr (.inr ⟨hd.symm, Std.lt_of_le_of_ne hle (Ne.symm hn)⟩))
  · cases d with
    | true => exact .inl (.inl ⟨rfl, by simpa using hd⟩)
    | false => exact .inr (.inr (.inl ⟨by simpa using hd, rfl⟩))

/-- The first step that differs decides. -/
theorem stepsLe_cons {s t : Bool × String} {rest rest' : List (Bool × String)} :
    stepsLe (s :: rest) (t :: rest') ↔ StepLt s t ∨ (s = t ∧ stepsLe rest rest') := by
  obtain ⟨d, n⟩ := s
  obtain ⟨d', n'⟩ := t
  rw [stepsLe]
  unfold StepLt
  by_cases hd : d = d'
  · by_cases hn : n = n'
    · simp [hd, hn]
    · simp [hd, hn]
  · cases d with
    | true => simp_all
    | false => simp_all

/-! ### Sequences of steps -/

theorem stepsLe_total (a b : List (Bool × String)) : stepsLe a b || stepsLe b a := by
  rw [Bool.or_eq_true]
  induction a generalizing b with
  | nil => cases b <;> exact .inr rfl
  | cons s rest ih =>
    cases b with
    | nil => exact .inl rfl
    | cons t rest' =>
      rw [stepsLe_cons, stepsLe_cons]
      rcases stepLt_trichotomy s t with hlt | heq | hlt
      · exact .inl (.inl hlt)
      · exact (ih rest').imp (fun h => .inr ⟨heq, h⟩) fun h => .inr ⟨heq.symm, h⟩
      · exact .inr (.inl hlt)

theorem stepsLe_trans (a b c : List (Bool × String)) (hab : stepsLe a b) (hbc : stepsLe b c) :
    stepsLe a c := by
  induction a generalizing b c with
  | nil =>
    cases b with
    | nil => exact hbc
    | cons t rest => cases hab
  | cons s rest ih =>
    cases c with
    | nil => rfl
    | cons u rest'' =>
      cases b with
      | nil => cases hbc
      | cons t rest' =>
        rw [stepsLe_cons] at hab hbc ⊢
        rcases hab with hst | ⟨rfl, hrest⟩
        · rcases hbc with htu | ⟨rfl, -⟩
          · exact .inl (hst.trans htu)
          · exact .inl hst
        · exact hbc.imp_right fun h => ⟨h.1, ih rest' rest'' hrest h.2⟩

theorem stepsLe_antisymm (a b : List (Bool × String)) (hab : stepsLe a b) (hba : stepsLe b a) :
    a = b := by
  induction a generalizing b with
  | nil =>
    cases b with
    | nil => rfl
    | cons t rest => cases hab
  | cons s rest ih =>
    cases b with
    | nil => cases hba
    | cons t rest' =>
      rw [stepsLe_cons] at hab hba
      rcases hab with hst | ⟨rfl, hrest⟩
      · rcases hba with hts | ⟨rfl, -⟩
        · exact absurd (hst.trans hts) (StepLt.irrefl s)
        · exact absurd hst (StepLt.irrefl _)
      · rcases hba with hss | ⟨-, hrest'⟩
        · exact absurd hss (StepLt.irrefl s)
        · rw [ih rest' hrest hrest']

theorem stepsLe_append (before a b : List (Bool × String)) :
    stepsLe (before ++ a) (before ++ b) = stepsLe a b := by
  induction before with
  | nil => rfl
  | cons s rest ih =>
    obtain ⟨d, n⟩ := s
    rw [List.cons_append, List.cons_append, ← ih]
    simp [stepsLe]

/-- Behind a common beginning the first step that differs decides. -/
theorem not_stepsLe_of_stepLt {s t : Bool × String} (h : StepLt s t)
    (before a b : List (Bool × String)) : ¬ stepsLe (before ++ t :: b) (before ++ s :: a) := by
  rw [stepsLe_append, stepsLe_cons]
  rintro (hts | ⟨rfl, -⟩)
  · exact StepLt.irrefl s (h.trans hts)
  · exact StepLt.irrefl _ h

/-- What lies between two ways with a common beginning has the same beginning. -/
theorem exists_append_of_stepsLe {front a b way : List (Bool × String)}
    (ha : stepsLe (front ++ a) way) (hb : stepsLe way (front ++ b)) :
    ∃ more, way = front ++ more := by
  induction front generalizing way with
  | nil => exact ⟨way, rfl⟩
  | cons s front ih =>
    cases way with
    | nil => cases hb
    | cons t way =>
      rw [List.cons_append, stepsLe_cons] at ha hb
      have hsame : s = t ∧ stepsLe (front ++ a) way ∧ stepsLe way (front ++ b) := by
        rcases ha with hst | ⟨rfl, ha⟩
        · rcases hb with hts | ⟨rfl, -⟩
          · exact absurd (hst.trans hts) (StepLt.irrefl s)
          · exact absurd hst (StepLt.irrefl _)
        · rcases hb with hss | ⟨-, hb⟩
          · exact absurd hss (StepLt.irrefl s)
          · exact ⟨rfl, ha, hb⟩
      obtain ⟨rfl, ha', hb'⟩ := hsame
      obtain ⟨more, rfl⟩ := ih ha' hb'
      exact ⟨more, rfl⟩

/-! ### Steps to an entry -/

/-- The names of the steps to an entry are its names. -/
theorem Visited.map_snd_steps (v : Visited) : v.steps.map Prod.snd = v.relative := by
  unfold Visited.steps
  rcases List.eq_nil_or_concat v.relative with hnil | ⟨before, name, hname⟩
  · simp [hnil]
  · simp [hname, Function.comp_def]

/-- All steps to a directory are directories. -/
theorem Visited.steps_of_directory {v : Visited} (hv : v.entry.isDirectory = true) :
    v.steps = v.relative.map (true, ·) := by
  unfold Visited.steps
  rcases List.eq_nil_or_concat v.relative with hnil | ⟨before, name, hname⟩
  · simp [hnil]
  · simp [hname, hv]

/-- The steps to an entry begin with those to what is above it, which are directories. -/
theorem Visited.steps_append {v : Visited} {front rest : Location} (hv : v.relative = front ++ rest)
    (hrest : rest ≠ []) :
    v.steps = front.map (true, ·) ++ (Visited.mk rest v.entry).steps := by
  have hlast : (front ++ rest).getLast? = rest.getLast? := by
    simp [List.getLast?_append, List.getLast?_eq_some_getLast hrest]
  unfold Visited.steps
  rw [hv, List.dropLast_append_of_ne_nil hrest, List.map_append, hlast, List.append_assoc]

/-! ### Walks -/

/-- A walk visits the entries in the order of their steps. -/
theorem collectContentsFirst_pairwise (fs : FileSystem) (l : Location) :
    (fs.collectContentsFirst l).Pairwise fun v w => stepsLe v.steps w.steps :=
  List.pairwise_mergeSort (fun v w x => stepsLe_trans v.steps w.steps x.steps)
    (fun v w => stepsLe_total v.steps w.steps) (fs.below l)

/-- Files in one directory are in order if their names are. -/
theorem name_le_of_stepsLe {v w : Visited} {before : Location} {a b : String}
    (hv : v.relative = before ++ [a]) (hw : w.relative = before ++ [b]) (hvfile : v.entry.isFile)
    (hwfile : w.entry.isFile) (h : stepsLe v.steps w.steps) : a ≤ b := by
  have hvdir : v.entry.isDirectory = false := by simpa [Entry.isFile] using hvfile
  have hwdir : w.entry.isDirectory = false := by simpa [Entry.isFile] using hwfile
  have hsteps : stepsLe [(false, a)] [(false, b)] := by
    rw [← stepsLe_append (before.map (true, ·))]
    simpa [Visited.steps, hv, hw, hvdir, hwdir] using h
  rcases stepsLe_cons.1 hsteps with (⟨hdir, -⟩ | ⟨-, hlt⟩) | ⟨heq, -⟩
  · cases hdir
  · exact Std.le_of_lt hlt
  · exact Std.le_of_eq (Prod.mk.inj heq).2

/-- What is in a directory does not come after it. -/
theorem not_prefix_of_stepsLe {v w : Visited} (hv : v.entry.isDirectory = true)
    (hdistinct : v.relative ≠ w.relative) (h : stepsLe v.steps w.steps) :
    ¬ v.relative <+: w.relative := by
  rintro ⟨rest, hrest⟩
  have hmore : rest ≠ [] := by
    intro hnil
    rw [hnil, List.append_nil] at hrest
    exact hdistinct hrest
  -- Both walk down to the directory in the same way, and only the entry in it goes on.
  have hend := stepsLe_append (v.relative.map (true, ·)) [] (Visited.mk rest w.entry).steps
  rw [← Visited.steps_append hrest.symm hmore, List.append_nil, ← Visited.steps_of_directory hv,
    h] at hend
  cases hsteps : (Visited.mk rest w.entry).steps with
  | nil =>
    have hnames := Visited.map_snd_steps ⟨rest, w.entry⟩
    rw [hsteps] at hnames
    exact hmore hnames.symm
  | cons step later =>
    rw [hsteps] at hend
    cases hend

end Scaffold.FileSystem
