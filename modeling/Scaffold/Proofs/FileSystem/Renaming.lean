import Scaffold.Proofs.FileSystem.Making
import Scaffold.Proofs.FileSystem.Passing

/-! # Renaming an entry

  A rename to a place where nothing is takes the entry there with everything
  below it. Nothing else changes, and the way back restores what was.

  - `Carried`: a tree at another place.
  - `rename_carries`: what a rename does that succeeds.
  - `Carried.back`: there and back again.
  - `reading_withFileName`: where another name leads from the directory of an entry.
  - `rename_sibling`: a name that is free there.
-/

namespace Scaffold

open Scaffold.Path (IsIdle IsPlain EndsInStep)

namespace FileSystem

variable {fs fs' fs'' : FileSystem} {l : Location} {source target : Location} {p q : Path}
  {name newName : String}

/-! ### Trees at another place -/

/-- The entry at `source` is at `target`, with everything below it, and nothing else has changed. -/
structure Carried (fs : FileSystem) (source target : Location) (fs' : FileSystem) : Prop where
  /-- The file system stays well-formed. -/
  wellFormed : fs'.WellFormed
  /-- At and below the new place nothing was. -/
  free : ∀ rest, fs.get? (target ++ rest) = none
  /-- There is what was at and below the old place. -/
  moved : ∀ rest, fs'.get? (target ++ rest) = fs.get? (source ++ rest)
  /-- At and below the old place nothing is left. -/
  gone : ∀ rest, fs'.get? (source ++ rest) = none
  /-- Elsewhere there is what was there. -/
  kept : ∀ l, ¬ source <+: l → ¬ target <+: l → fs'.get? l = fs.get? l
  /-- The current directory moves along if it is in the tree. -/
  current : fs'.current =
    if source <+: fs.current then rebase source target fs.current else fs.current

/-- A tree that is moved to a free slot is carried there. -/
theorem WellFormed.carried_moveTree (hfs : fs.WellFormed) (hsource : (fs.get? source).isSome)
    (hbelow : source ≠ []) (hslot : fs.IsSlot target) (hnone : fs.get? target = none)
    (hnot : fs.isDirectoryAt source → ¬ source <+: target) :
    Carried fs source target (fs.moveTree source target) := by
  have hfree : ∀ k, target <+: k → fs.get? k = none := fun _ hk => hfs.get?_of_free hnone hk
  -- Neither place is at or below the other one.
  have hdown : ¬ source <+: target := by
    intro hpre
    refine hnot (hslot.isDirectoryAt_of_prefix hfs hpre ?_) hpre
    rintro rfl
    rw [hnone] at hsource
    cases hsource
  have hup : ¬ target <+: source := by
    intro hpre
    rw [hfree source hpre] at hsource
    cases hsource
  have hget : ∀ m, (fs.moveTree source target).get? m =
      if target <+: m then fs.get? (rebase target source m)
      else if source <+: m then none else fs.get? m :=
    fun _ => get?_moveTree hbelow hslot.below_root hfree
  refine {
    wellFormed := hfs.moveTree hbelow hslot hnone hdown
    free := fun rest => hfree _ (List.prefix_append target rest)
    moved := fun rest => ?_
    gone := fun rest => ?_
    kept := fun l hl hl' => ?_
    current := ?_ }
  · rw [hget, if_pos (List.prefix_append target rest), rebase_append]
  · have hapart : ¬ target <+: source ++ rest := fun hpre =>
      (List.prefix_or_prefix_of_prefix hpre (List.prefix_append source rest)).elim hup hdown
    rw [hget, if_neg hapart, if_pos (List.prefix_append source rest)]
  · rw [hget, if_neg hl', if_neg hl]
  · exact if_congr List.isPrefixOf_iff_prefix rfl rfl

/-- What a rename does that succeeds where nothing was. -/
theorem rename_carries (hfs : fs.WellFormed) (h : fs.rename p q = .ok fs')
    (habsent : fs.isPresent q = false) : Carried fs (fs.reading p) (fs.reading q) fs' := by
  obtain ⟨hfrom, hto, hsome, hnone, hnot, rfl⟩ := rename_to_absent h habsent
  exact hfs.carried_moveTree hsome hfrom.below_root hto hnone hnot

/-- A tree that is carried away and back again is where it was, as all the rest. -/
theorem Carried.back (h : Carried fs source target fs') (hback : Carried fs' target source fs'')
    (hfs : fs.WellFormed) : fs''.current = fs.current ∧ ∀ l, fs''.get? l = fs.get? l := by
  constructor
  · rw [hback.current, h.current]
    by_cases hin : source <+: fs.current
    · obtain ⟨rest, hrest⟩ := hin
      rw [← hrest, if_pos (List.prefix_append source rest), rebase_append,
        if_pos (List.prefix_append target rest), rebase_append]
    · have hout : ¬ target <+: fs.current := by
        rintro ⟨rest, hrest⟩
        have hdir := isDirectoryAt_iff.1 hfs.current_directory
        rw [← hrest, h.free] at hdir
        cases hdir
      rw [if_neg hin, if_neg hout]
  · intro l
    by_cases hsource : source <+: l
    · obtain ⟨rest, rfl⟩ := hsource
      rw [hback.moved, h.moved]
    · by_cases htarget : target <+: l
      · obtain ⟨rest, rfl⟩ := htarget
        rw [hback.gone, h.free]
      · rw [hback.kept l htarget hsource, h.kept l hsource htarget]

/-! ### Another name in the directory of an entry -/

/-- Where a text leads that is read as a path from a directory. -/
def readFrom (directory : Location) (text : String) : Location :=
  readNames (if Path.isAbsolute ⟨text⟩ then [] else directory) (Path.steps ⟨text⟩)

/-- A name leads to what the directory holds under it. -/
theorem readFrom_name (directory : Location) (h : IsName name) :
    readFrom directory name = directory ++ [name] := by
  obtain ⟨hsteps, hrel⟩ := Path.steps_of_name h
  unfold readFrom
  rw [hrel, hsteps, readNames_plain (by simpa using h.isPlain)]
  rfl

/-- A path with a file name leads to what its other steps lead to, and there to the name. -/
theorem reading_of_fileName? (h : p.fileName? = some name) (fs : FileSystem) :
    fs.reading p = readNames (fs.origin p) p.steps.dropLast ++ [name] := by
  obtain ⟨hup, hsteps⟩ := Path.fileName?_eq_some.1 h
  have hidle : ¬ IsIdle name := not_isIdle_of_mem_steps (p := p) (by rw [hsteps]; simp)
  rw [reading_eq_steps, hsteps, List.dropLast_concat, readNames_append]
  exact turn_plain ⟨hidle, hup⟩

/-- With another file name a path leads where the name leads from the directory of the entry. -/
theorem reading_withFileName (h : p.fileName? = some name) (fs : FileSystem) (text : String) :
    fs.reading (p.withFileName text) = readFrom (fs.reading p).dropLast text := by
  have hsome : p.fileName?.isSome := by rw [h]; rfl
  unfold readFrom
  by_cases habs : Path.isAbsolute ⟨text⟩ = true
  · obtain ⟨q, -, hwith⟩ := Path.withFileName_eq_join hsome text
    rw [if_pos habs, hwith, Path.join_absolute q habs, reading_eq_steps]
    unfold origin
    rw [if_pos habs]
  · obtain ⟨hsteps, habs'⟩ := Path.steps_withFileName hsome (Bool.eq_false_iff.2 habs)
    rw [if_neg habs, reading_of_fileName? h, List.dropLast_concat, reading_eq_steps, hsteps,
      readNames_append, origin_eq rfl habs']

/-- What can be renamed ends in a name. -/
theorem endsInName_of_rename (h : fs.rename p q = .ok fs') : p.EndsInName := by
  obtain ⟨s, -, name, -, hs, hname, -⟩ := places_of_rename h
  obtain ⟨-, before, k, hnames, -, -, hisName, -⟩ := place_eq_ok hs hname
  exact ⟨before, name, k, hnames, hisName.isPlain⟩

section

variable (h : fs.locate p = .ok l) (hname : IsName name)

include h

/-- A path that leads somewhere and ends in a name has this as its place. Slashes behind the name
ask for a directory, which is there. -/
theorem place_of_locate_named (hends : p.EndsInName) :
    ∃ last slash, p.fileName? = some last ∧ l.dropLast ++ [last] = l ∧
      fs.place p = .ok ⟨l.dropLast, some last, slash⟩ ∧ (slash = true → fs.isDirectoryAt l) := by
  obtain ⟨before, last, k, hnames, hplain⟩ := hends
  obtain ⟨hread, hfollow⟩ := locate_eq_ok.1 h
  rw [hnames, follow_append] at hfollow
  cases hbefore : fs.follow (fs.origin p) before with
  | error fault => rw [hbefore] at hfollow; cases hfollow
  | ok d =>
    rw [hbefore] at hfollow
    obtain ⟨m, hdir, hstep, hslashes⟩ := follow_cons_ok hfollow
    obtain ⟨rfl, hentry⟩ := step_eq_ok.1 hstep
    rw [turn_plain hplain] at hslashes
    obtain rfl : l = d ++ [last] :=
      (follow_eq_readNames hslashes).trans (readNames_slashes _ k)
    have hsteps := Path.steps_of_names_eq hnames hplain.1
    refine ⟨last, decide (0 < k), ?_, ?_, ?_, fun hk => ?_⟩
    · rw [Path.fileName?_eq_some, hsteps, List.dropLast_concat]
      exact ⟨hplain.2, rfl⟩
    · rw [List.dropLast_concat]
    · rw [List.dropLast_concat]
      exact place_of_names hread hnames hplain (hentry hplain).1 hbefore hdir
    · obtain ⟨k, rfl⟩ : ∃ j, k = j + 1 := ⟨k - 1, by simp at hk; omega⟩
      obtain ⟨-, hthere, -, -⟩ := follow_cons_ok hslashes
      exact hthere

variable (hfile : p.fileName? = some newName)

include hname hfile

/-- Another name has its place in the directory of the entry. -/
theorem place_withFileName :
    fs.place (p.withFileName name) = .ok ⟨l.dropLast, some name, false⟩ := by
  obtain ⟨hread, -⟩ := locate_eq_ok.1 h
  obtain ⟨hsteps, hrel⟩ := Path.steps_of_name hname
  obtain ⟨-, hlast⟩ := Path.fileName?_eq_some.1 hfile
  have hsome : p.fileName?.isSome := by rw [hfile]; rfl
  obtain ⟨hwith, habs⟩ := Path.steps_withFileName hsome hrel
  rw [hsteps] at hwith
  -- The way to the entry leads through its directory.
  have hway := follow_steps_of_locate h
  rw [hlast, follow_append] at hway
  cases hdirectory : fs.follow (fs.origin p) p.steps.dropLast with
  | error fault => rw [hdirectory] at hway; cases hway
  | ok d =>
    rw [hdirectory] at hway
    obtain ⟨-, hdir, -, -⟩ := follow_cons_ok hway
    have hl : l.dropLast = d := by
      rw [locate_eq_reading h, reading_of_fileName? hfile, List.dropLast_concat,
        follow_eq_readNames hdirectory]
    have hreadable : IsReadable (p.withFileName name) := by
      refine isReadable_of_steps (text_ne_empty_of_steps (by rw [hwith]; simp)) fun n hn => ?_
      rw [hwith, List.mem_append, List.mem_singleton] at hn
      rcases hn with hn | rfl
      · exact hread.zero_notMem (List.dropLast_subset _ hn)
      · exact hname.no_zero
    have hends : (p.withFileName name).EndsInStep := by
      obtain ⟨q, -, hjoin⟩ := Path.withFileName_eq_join hsome name
      rw [hjoin]
      by_cases hempty : q.text = ""
      · obtain rfl : q = ⟨""⟩ := congrArg Path.mk hempty
        rw [Path.join_empty hrel]
        refine fun _ => ⟨[], name, ?_, hname.isPlain.1⟩
        have hone := Path.names_joinTexts (List.cons_ne_nil name [])
          (List.forall_mem_singleton.2 hname.no_slash)
        rwa [Path.joinTexts_singleton] at hone
      · have hends := endsInStep_join hempty (List.cons_ne_nil name [])
          (List.forall_mem_singleton.2 hname)
        rwa [Path.joinTexts_singleton] at hends
    rw [hl]
    exact place_of_steps hreadable hends hwith hname (by rwa [origin_eq rfl habs]) hdir

/-- What the directory of the entry holds under another name is there. -/
theorem isPresent_withFileName (hthere : (fs.get? (l.dropLast ++ [name])).isSome) :
    fs.isPresent (p.withFileName name) = true := by
  have hplace := place_withFileName h hname hfile
  rw [isPresent_iff]
  refine locate_of_place rfl (fun _ hk => hk) hplace rfl ?_ nofun
  rwa [← place_eq_reading hplace rfl]

end

/-- An entry whose path ends in a name gets another name if nothing has it in its directory. -/
theorem rename_sibling (hfs : fs.WellFormed) (h : fs.locate p = .ok l) (hends : p.EndsInName)
    (hname : IsName name) (hnone : fs.get? (l.dropLast ++ [name]) = none) :
    ∃ fs', fs.rename p (p.withFileName name) = .ok fs' ∧
      Carried fs l (l.dropLast ++ [name]) fs' := by
  obtain ⟨last, slash, hfile, hl, hsource, hslash⟩ := place_of_locate_named h hends
  have htarget := place_withFileName h hname hfile
  have hsome := hfs.get?_of_locate h
  -- Places in one directory are not below one another.
  have hnot : ¬ l <+: l.dropLast ++ [name] := by
    intro hpre
    have hlength : l.length = (l.dropLast ++ [name]).length := by
      rw [← hl]
      simp
    rw [hpre.eq_of_length hlength, hnone] at hsome
    cases hsome
  have hrename : fs.rename p (p.withFileName name) =
      .ok (fs.moveTree l (l.dropLast ++ [name])) := by
    rw [← hl] at hsome hnot hslash
    have hfree := rename_free hsource htarget hsome hnone
      (fun hasked => hslash (by simpa using hasked)) fun _ => by rwa [List.dropLast_concat] at hnot
    rwa [hl] at hfree
  refine ⟨_, hrename, ?_⟩
  have habsent : fs.isPresent (p.withFileName name) = false := by
    apply hfs.isPresent_eq_false
    rw [← place_eq_reading htarget rfl, hnone]
  have hcarried := rename_carries hfs hrename habsent
  rwa [← locate_eq_reading h, ← place_eq_reading htarget rfl] at hcarried

end FileSystem

end Scaffold
