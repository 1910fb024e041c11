import Scaffold.Proofs.FileSystem.Lookup
import Scaffold.Proofs.FileSystem.Reading

/-! # What file operations do

  For every file operation the elementary change that it comes to when it
  succeeds, at the reading of its path. Nothing else is known of a change by the
  modules above this one.

  - `writeBytes_eq_ok`, `createDirectory_eq_ok`, `removeFile_eq_ok`,
    `removeTree_eq_ok`, `copyFile_eq_ok`: one statement per operation.
  - `rename_to_absent`: a rename to a path where nothing is.
  - `createChain_induct`: what every new directory keeps, a chain of them keeps.
-/

namespace Scaffold.FileSystem

variable {fs fs' : FileSystem} {p source target : Path} {content : ByteArray}

/-! ### Reading -/

theorem readBytes_eq_ok (h : fs.readBytes p = .ok content) :
    fs.locate p = .ok (fs.reading p) ∧ fs.get? (fs.reading p) = some (.file content) := by
  unfold readBytes at h
  cases hl : fs.locate p with
  | error fault => rw [hl] at h; cases h
  | ok l =>
    obtain rfl := locate_eq_reading hl
    rw [hl] at h
    simp only [bind, Except.bind] at h
    split at h
    · next c hget =>
      obtain rfl := Except.ok.inj h
      exact ⟨rfl, hget⟩
    · cases h
    · cases h

/-- The bytes of a text that is read are those of the text. -/
theorem readText_eq_ok {text : String} (h : fs.readText p = .ok text) :
    fs.readBytes p = .ok text.toUTF8 := by
  unfold readText at h
  cases hb : fs.readBytes p with
  | error fault => rw [hb] at h; cases h
  | ok content =>
    rw [hb] at h
    simp only [bind, Except.bind] at h
    split at h
    · next t ht =>
      obtain rfl := Except.ok.inj h
      unfold String.fromUTF8? at ht
      split at ht
      · obtain rfl := Option.some.inj ht
        rfl
      · cases ht
    · cases h

/-! ### Writing -/

/-- The place of a path is a slot. -/
theorem place_isSlot {place : Place} {name : String} (h : fs.place p = .ok place)
    (hname : place.name? = some name) : fs.IsSlot (fs.reading p) := by
  obtain ⟨-, -, -, -, -, hdir, hisName, -⟩ := place_eq_ok h hname
  rw [← place_eq_reading h hname]
  exact {
    below_root := by simp
    named := fun n hn => by
      rw [List.getLast?_concat] at hn
      exact Option.some.inj hn ▸ hisName
    in_directory := by simpa using hdir }

theorem writeBytes_eq_ok (h : fs.writeBytes p content = .ok fs') :
    fs.IsSlot (fs.reading p) ∧ ¬ fs.isDirectoryAt (fs.reading p) ∧
      fs' = fs.setFile (fs.reading p) content := by
  unfold writeBytes at h
  cases hp : fs.place p with
  | error fault => rw [hp] at h; cases h
  | ok place =>
    rw [hp] at h
    simp only [bind, Except.bind] at h
    split at h
    · cases h
    · next name hname =>
      rw [place_eq_reading hp hname] at h
      split at h
      · cases h
      · next hfree =>
        obtain rfl := Except.ok.inj h
        exact ⟨place_isSlot hp hname, fun hdir => hfree (.inr hdir), rfl⟩

theorem createDirectory_eq_ok (h : fs.createDirectory p = .ok fs') :
    fs.IsSlot (fs.reading p) ∧ fs.get? (fs.reading p) = none ∧
      fs' = fs.addDirectory (fs.reading p) := by
  unfold createDirectory at h
  cases hp : fs.place p with
  | error fault => rw [hp] at h; cases h
  | ok place =>
    rw [hp] at h
    simp only [bind, Except.bind] at h
    split at h
    · cases h
    · next name hname =>
      rw [place_eq_reading hp hname] at h
      split at h
      · cases h
      · next hfree =>
        obtain rfl := Except.ok.inj h
        exact ⟨place_isSlot hp hname, by simpa using hfree, rfl⟩

theorem place_of_createDirectory (h : fs.createDirectory p = .ok fs') :
    ∃ place name, fs.place p = .ok place ∧ place.name? = some name := by
  unfold createDirectory at h
  cases hp : fs.place p with
  | error fault => rw [hp] at h; cases h
  | ok place =>
    rw [hp] at h
    simp only [bind, Except.bind] at h
    split at h
    · cases h
    · next name hname => exact ⟨place, name, rfl, hname⟩

/-- What each directory of a chain keeps when it is made, making the chain keeps. -/
theorem createChain_induct {P : FileSystem → Prop} {chain : List Path}
    (hstep : ∀ fs fs' q, q ∈ chain → P fs → fs.createDirectory q = .ok fs' → P fs')
    (h : P fs) : P (fs.createChain chain).2 := by
  induction chain with
  | nil => exact h
  | cons q rest ih =>
    have hrest : P (fs.createChain rest).2 :=
      ih fun fs fs' q' hq' => hstep fs fs' q' (List.mem_cons_of_mem q hq')
    unfold createChain
    split
    · next fs' hmade => exact hstep fs fs' q List.mem_cons_self h hmade
    · split
      · next hr => rw [hr] at hrest; exact hrest
      · next fs' hr =>
        rw [hr] at hrest
        split
        · next fs'' hmade => exact hstep fs' fs'' q List.mem_cons_self hrest hmade
        · split <;> exact hrest
    · split <;> exact h

/-! ### Removing -/

theorem removeFile_eq_ok (h : fs.removeFile p = .ok fs') :
    fs.locate p = .ok (fs.reading p) ∧ ¬ fs.isDirectoryAt (fs.reading p) ∧
      fs' = fs.eraseTree (fs.reading p) := by
  unfold removeFile at h
  cases hl : fs.locate p with
  | error fault => rw [hl] at h; cases h
  | ok l =>
    obtain rfl := locate_eq_reading hl
    rw [hl] at h
    simp only [bind, Except.bind] at h
    split at h
    · cases h
    · next hdir =>
      obtain rfl := Except.ok.inj h
      exact ⟨rfl, hdir, rfl⟩

theorem removeTree_eq_ok (h : fs.removeTree p = .ok fs') :
    fs.locate p = .ok (fs.reading p) ∧ fs.isDirectoryAt (fs.reading p) ∧
      fs' = fs.eraseTree (fs.reading p) := by
  unfold removeTree at h
  cases hl : fs.locate p with
  | error fault => rw [hl] at h; cases h
  | ok l =>
    obtain rfl := locate_eq_reading hl
    rw [hl] at h
    simp only [bind, Except.bind] at h
    split at h
    · next hdir =>
      obtain rfl := Except.ok.inj h
      exact ⟨rfl, hdir, rfl⟩
    · cases h

/-! ### Copying -/

theorem insertEntry_insertEntry (l : Location) (a b : Entry) (entries : List (Location × Entry)) :
    insertEntry l b (insertEntry l a entries) = insertEntry l b entries := by
  induction entries with
  | nil => simp [insertEntry]
  | cons e rest ih =>
    by_cases h : e.1 = l <;> simp [insertEntry, h, ih]

/-- Of two files written to one location the second one stays. -/
theorem setFile_setFile (fs : FileSystem) (l : Location) (a b : ByteArray) :
    (fs.setFile l a).setFile l b = fs.setFile l b := by
  unfold setFile
  simp only [insertEntry_insertEntry]

/-- A copy puts the bytes of the source at the target, unless they are the same file. -/
theorem copyFile_eq_ok (h : fs.copyFile source target = .ok fs') :
    fs.IsSlot (fs.reading target) ∧ ¬ fs.isDirectoryAt (fs.reading target) ∧
      ∃ content, fs' = fs.setFile (fs.reading target) content ∧
        (fs.reading source ≠ fs.reading target →
          fs.get? (fs.reading source) = some (.file content)) := by
  unfold copyFile at h
  cases hl : fs.locate source with
  | error fault => rw [hl] at h; cases h
  | ok l =>
    rw [hl] at h
    simp only [bind, Except.bind] at h
    split at h
    · cases h
    · cases hw : fs.writeBytes target .empty with
      | error fault => rw [hw] at h; cases h
      | ok emptied =>
        obtain ⟨hslot, hfree, rfl⟩ := writeBytes_eq_ok hw
        -- The target is emptied before the source is read, so a file copied to itself is lost.
        have hreading : ∀ q, (fs.setFile (fs.reading target) .empty).reading q = fs.reading q :=
          reading_congr rfl
        rw [hw] at h
        simp only at h
        cases hr : (fs.setFile (fs.reading target) .empty).readBytes source with
        | error fault => rw [hr] at h; cases h
        | ok content =>
          rw [hr] at h
          obtain ⟨-, -, rfl⟩ := writeBytes_eq_ok h
          rw [hreading, setFile_setFile]
          refine ⟨hslot, hfree, content, rfl, fun hne => ?_⟩
          obtain ⟨-, hget⟩ := readBytes_eq_ok hr
          rwa [hreading, get?_setFile hslot.below_root, if_neg hne] at hget

/-! ### Renaming -/

/-- Where nothing is, no entry is either, except a file whose path asks for a directory. -/
theorem get?_of_absent {place : Place} {name : String} (habsent : fs.isPresent p = false)
    (h : fs.place p = .ok place) (hname : place.name? = some name) :
    fs.get? (fs.reading p) = none ∨ (place.slash = true ∧ ¬ fs.isDirectoryAt (fs.reading p)) := by
  by_cases hnone : fs.get? (fs.reading p) = none
  · exact .inl hnone
  · -- A directory could be followed through the slashes, and a file without any.
    have hblocked : ¬ (place.slash = true → fs.isDirectoryAt (fs.reading p)) := by
      intro hslash
      have hlocate := locate_of_place rfl (fun _ hk => hk) h hname
        (Option.isSome_iff_ne_none.2 hnone) hslash
      exact Bool.false_ne_true (habsent.symm.trans (isPresent_iff.2 hlocate))
    exact .inr (Classical.not_imp.1 hblocked)

/-- A rename to a location without directory, and without file unless a directory is asked for,
moves the tree and erases nothing. -/
theorem renameAt_eq_ok {a b : Location} {slash : Bool} (h : fs.renameAt a b slash = .ok fs')
    (hfree : fs.get? b = none ∨ (slash = true ∧ ¬ fs.isDirectoryAt b)) :
    (fs.get? a).isSome ∧ fs.get? b = none ∧ (fs.isDirectoryAt a → ¬ a <+: b) ∧
      fs' = fs.moveTree a b := by
  unfold renameAt at h
  cases ha : fs.get? a with
  | none => rw [ha] at h; cases h
  | some entry =>
    cases entry with
    | file content =>
      have hnot : ¬ fs.isDirectoryAt a := by simp [isDirectoryAt_iff, ha]
      cases hslash : slash with
      | true => simp [ha, hslash] at h
      | false =>
        have hb : fs.get? b = none := hfree.resolve_right fun hf => by simp [hslash] at hf
        simp only [ha, hslash, hb, Bool.false_eq_true, if_false, Except.ok.injEq] at h
        exact ⟨rfl, hb, fun hdir => absurd hdir hnot, h.symm⟩
    | directory =>
      have hdir : fs.isDirectoryAt a := isDirectoryAt_iff.2 ha
      have hne : a ≠ b := by
        rintro rfl
        exact hfree.elim (fun hb => by simp [ha] at hb) fun hf => hf.2 hdir
      simp only [ha, if_neg hne] at h
      split at h
      · cases h
      · next hbelow =>
        cases hb : fs.get? b with
        | none =>
          simp only [hb, Except.ok.injEq] at h
          exact ⟨rfl, rfl, fun _ => by simpa using hbelow, h.symm⟩
        | some entry =>
          cases entry with
          | file content => simp [hb] at h
          | directory =>
            exact (hfree.elim (fun hn => by simp [hb] at hn)
              fun hf => hf.2 (isDirectoryAt_iff.2 hb)).elim

/-- Only entries with names are renamed, and to names. -/
theorem places_of_rename (h : fs.rename source target = .ok fs') :
    ∃ (s t : Place) (name other : String), fs.place source = .ok s ∧ s.name? = some name ∧
      fs.place target = .ok t ∧ t.name? = some other ∧
      fs.renameAt (s.directory ++ [name]) (t.directory ++ [other]) (s.slash || t.slash) =
        .ok fs' := by
  unfold rename at h
  cases hs : fs.place source with
  | error fault => rw [hs] at h; cases h
  | ok s =>
    cases ht : fs.place target with
    | error fault => rw [hs, ht] at h; cases h
    | ok t =>
      rw [hs, ht] at h
      simp only [bind, Except.bind] at h
      split at h
      · next name other hname hother => exact ⟨s, t, name, other, rfl, hname, rfl, hother, h⟩
      · cases h

/-- A rename to a path where nothing is replaces nothing. -/
theorem rename_to_absent (h : fs.rename source target = .ok fs')
    (habsent : fs.isPresent target = false) :
    fs.IsSlot (fs.reading source) ∧ fs.IsSlot (fs.reading target) ∧
      (fs.get? (fs.reading source)).isSome ∧ fs.get? (fs.reading target) = none ∧
      (fs.isDirectoryAt (fs.reading source) → ¬ fs.reading source <+: fs.reading target) ∧
      fs' = fs.moveTree (fs.reading source) (fs.reading target) := by
  obtain ⟨s, t, name, other, hs, hname, ht, hother, hat⟩ := places_of_rename h
  rw [place_eq_reading hs hname, place_eq_reading ht hother] at hat
  -- Slashes at the end of either path ask for a directory.
  have hfree : fs.get? (fs.reading target) = none ∨
      ((s.slash || t.slash) = true ∧ ¬ fs.isDirectoryAt (fs.reading target)) := by
    refine (get?_of_absent habsent ht hother).imp_right fun hf => ⟨?_, hf.2⟩
    rw [hf.1, Bool.or_true]
  exact ⟨place_isSlot hs hname, place_isSlot ht hother, renameAt_eq_ok hat hfree⟩

end Scaffold.FileSystem
