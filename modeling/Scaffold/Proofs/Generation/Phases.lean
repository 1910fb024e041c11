import Scaffold.Generation.Generate
import Scaffold.Proofs.Script.Enclosure
import Scaffold.Proofs.Staging.Confinement
import Scaffold.Proofs.Staging.Publication

/-! # The phases of a generation

  All work is done in the staging tree until the files are published, and the
  tree goes away in the end.

  - `Step.StaysBelow`: the places that a script may name.
  - `runAll_confined`: the script changes the staging tree only.
  - `discard_of_confined`, `contentAt_discard`: what is left without the tree.
  - `generate_cases`: nothing has changed, or a publication is all that is left.
-/

namespace Scaffold

open FileSystem (Confined Extends)

variable {fs fs₀ fs' : FileSystem} {o : Order} {stage : Path}

/-! ### Steps that stay below the staging root -/

/-- Where a step moves files, the place leads down from the staging root; where it renames an entry,
the path is made of ordinary names and the new name is one. -/
def Step.StaysBelow (env : Environment) : Step → Prop
  | .move _ target _ => ∀ directory, expandText env target = .ok directory →
      (Path.mk directory).components.all staysBelow = true
  | .rename file name _ => ((Path.mk file).components.all fun c => c.normal?.isSome) = true ∧
      ∀ newName, expandText env name = .ok newName →
        ∃ n, (Path.mk newName).components = [.normal n]
  | _ => True

/-- Whether a step gives entries other places. -/
def Step.isRelocation : Step → Bool
  | .move .. | .rename .. => true
  | _ => false

/-- Only moves and renames can leave the staging tree. -/
theorem Step.staysBelow_of_not_isRelocation {step : Step} (h : step.isRelocation = false)
    (env : Environment) : step.StaysBelow env := by
  cases step <;> trivial

/-- Places that lead down stay inside. -/
theorem Step.StaysBelow.staysInside {step : Step} {env : Environment} (h : step.StaysBelow env) :
    step.StaysInside env := by
  cases step with
  | move source target description =>
    intro directory hdirectory
    obtain ⟨hrel, hplain⟩ := Staging.descends_of_staysBelow (h directory hdirectory)
    exact ⟨hrel, FileSystem.staysInside_of_plain hplain⟩
  | rename file name description =>
    obtain ⟨hfile, hname⟩ := h
    obtain ⟨hrel, hplain⟩ := Staging.descends_of_normal hfile
    refine ⟨hrel, FileSystem.staysInside_of_plain hplain, fun newName hnewName => ?_⟩
    obtain ⟨n, hn⟩ := hname newName hnewName
    obtain ⟨hrel', hplain'⟩ := Staging.descends_of_normal (by rw [hn]; rfl)
    refine ⟨hrel', FileSystem.staysInside_of_plain fun part hpart => ?_⟩
    exact (List.mem_append.1 hpart).elim (fun hdir => hplain part (List.dropLast_subset _ hdir))
      (hplain' part)
  | _ => trivial

/-- A single step changes the staging tree only. -/
theorem runStep_confined {s : Setting} {step : Step} {p : Progress}
    (h : Confined fs₀ s.root p.fs) (hstep : step.StaysBelow p.env) :
    Confined fs₀ s.root (runStep s step p).2.fs :=
  h.of_enclosed (runStep_enclosed h.enclosed h.text_ne_empty hstep.staysInside)

/-- A run changes the staging tree only, even if it fails. -/
theorem runAll_confined {s : Setting} {script : List Instruction} {p : Progress}
    (h : Confined fs₀ s.root p.fs)
    (hsteps : ∀ step q, Reaches s script p step q → step.StaysBelow q.env) :
    Confined fs₀ s.root (runAll s script p).2.fs :=
  runAll_keeps script p (fun step q hreach hq => runStep_confined hq (hsteps step q hreach)) h

/-! ### The end of the staging tree -/

theorem discard_of_absent (h : fs.isPresent stage = false) : Staging.discard fs stage = fs := by
  unfold Staging.discard
  split
  · next fs' hremoved =>
    obtain ⟨hlocate, -, -⟩ := FileSystem.removeTree_eq_ok hremoved
    rw [FileSystem.isPresent_iff.2 hlocate] at h
    cases h
  · rfl

/-- As long as the staging root is a directory, it is erased with all that is below it. -/
theorem discard_of_located (hlocate : fs.locate stage = .ok (fs.reading stage))
    (hdir : fs.isDirectoryAt (fs.reading stage)) :
    Staging.discard fs stage = fs.eraseTree (fs.reading stage) := by
  unfold Staging.discard FileSystem.removeTree
  simp [hlocate, hdir, bind, Except.bind]

/-- After a confined part of a generation, discarding the tree restores the file system. -/
theorem discard_of_confined (h : Confined fs₀ stage fs) : Staging.discard fs stage = fs₀ := by
  have hlocate : fs.locate stage = .ok (fs.reading stage) := by
    rw [h.reading]
    exact h.locate_stage
  have hdir : fs.isDirectoryAt (fs.reading stage) := by
    rw [h.reading, FileSystem.isDirectoryAt_iff]
    exact h.get?_root.2
  rw [discard_of_located hlocate hdir, h.reading, h.eraseTree_root]

/-- After a publication from a confined tree, the tree is still there to be erased. -/
theorem discard_of_extends {changed : Location → Prop} (h : Confined fs₀ stage fs)
    (hpublished : Extends changed fs fs') :
    Staging.discard fs' stage = fs'.eraseTree (fs₀.reading stage) := by
  have hreading : fs'.reading stage = fs₀.reading stage :=
    FileSystem.reading_congr (hpublished.current.trans h.current) stage
  have hdir : fs'.isDirectoryAt (fs₀.reading stage) :=
    hpublished.directories _ (FileSystem.isDirectoryAt_iff.2 h.get?_root.2)
  have hlocate : fs'.locate stage = .ok (fs₀.reading stage) :=
    FileSystem.locate_of_directories hpublished.current.symm hpublished.directories
      (fun _ => Option.isSome_of_any hdir) h.locate_stage
  rw [discard_of_located (hreading ▸ hlocate) (hreading ▸ hdir), hreading]

/-- Then the tree is gone. -/
theorem isPresent_discard {changed : Location → Prop} (h : Confined fs₀ stage fs)
    (hpublished : Extends changed fs fs') :
    (Staging.discard fs' stage).isPresent stage = false := by
  obtain ⟨hne, -⟩ := h.get?_root
  have hcurrent : ¬ fs₀.reading stage <+: fs'.current := by
    rw [hpublished.current]
    exact h.current_outside
  have hfs := (hpublished.wellFormed h.wellFormed).eraseTree hne hcurrent
  have hreading : (fs'.eraseTree (fs₀.reading stage)).reading stage = fs₀.reading stage :=
    FileSystem.reading_congr (hpublished.current.trans h.current) stage
  rw [discard_of_extends h hpublished, ← Bool.not_eq_true, FileSystem.isPresent_iff]
  intro hpresent
  have hsome := hfs.get?_of_locate hpresent
  rw [hreading, FileSystem.get?_eraseTree hne, if_pos (List.prefix_refl _)] at hsome
  cases hsome

/-- Everything that the publication has not changed is as it was in the beginning. -/
theorem contentAt_discard {changed : Location → Prop} {l : Location}
    (h : Confined fs₀ stage fs) (hpublished : Extends changed fs fs') (hl : ¬ changed l) :
    (Staging.discard fs' stage).contentAt l = fs₀.contentAt l := by
  rw [discard_of_extends h hpublished, FileSystem.contentAt_eraseTree h.get?_root.1]
  unfold FileSystem.contentAt
  split
  · next hpre => rw [h.get?_before hpre]; rfl
  · next hpre =>
    rw [← h.get?_outside hpre]
    exact hpublished.contents l hl

/-! ### Whole generations -/

/-- A generation has read its configuration and made its staging tree, and its script starts. -/
def Order.Starts (o : Order) (fs : FileSystem) (config : Config) (p : Progress) : Prop :=
  ∃ rules fs' name, Config.load fs o.template = .ok config ∧
    Staging.ignoreRules fs o.template = .ok rules ∧
    Staging.create fs o.template o.stage rules = (.ok (), fs') ∧
    projectFolderName fs o.output = .ok name ∧
    p = { fs := fs', env := Environment.initial name, replies := o.replies }

/-- The setting of the script of a generation. -/
def Order.setting (o : Order) : Setting := ⟨o.stage, o.answers, o.silence⟩

/-- A generation comes to a step of its script. -/
def Order.Reaches (o : Order) (fs : FileSystem) (step : Step) (q : Progress) : Prop :=
  ∃ config p, o.Starts fs config p ∧ Scaffold.Reaches o.setting config.instructions p step q

/-- A generation has run its script, and publishes from the file system `staged`. -/
def Order.Publishes (o : Order) (fs staged : FileSystem) : Prop :=
  ∃ config p q, o.Starts fs config p ∧ runAll o.setting config.instructions p = (.ok (), q) ∧
    staged = q.fs

/-- A generation changes nothing, or all that is left of it is a publication from a confined
tree. -/
theorem generate_cases (hfs : fs.WellFormed) (hfree : fs.isPresent o.stage = false)
    (hsteps : ∀ step q, o.Reaches fs step q → step.StaysBelow q.env) :
    (∃ e, (generate o fs).result = .error e ∧ (generate o fs).fs = fs) ∨
    (∃ staged, o.Publishes fs staged ∧ Confined fs o.stage staged ∧ o.output.text ≠ "" ∧
      (generate o fs).result = (Staging.publish staged o.stage o.output).1 ∧
      (generate o fs).fs =
        Staging.discard (Staging.publish staged o.stage o.output).2 o.stage) := by
  unfold generate
  split
  · exact .inl ⟨_, rfl, rfl⟩
  · next config hconfig =>
    split
    · exact .inl ⟨_, rfl, rfl⟩
    · next rules hrules =>
      have hcreated := Staging.create_confined o.stage o.template rules hfs
      unfold stageAndExecute
      split
      · next e fs' hcreate =>
        refine .inl ⟨e, rfl, ?_⟩
        show Staging.discard fs' o.stage = fs
        -- The staging tree was not even begun, or what was made of it is discarded.
        rw [hcreate] at hcreated
        rcases hcreated with ⟨_, heq⟩ | h
        · rw [(Prod.mk.inj heq).2, discard_of_absent hfree]
        · exact discard_of_confined h
      · next fs' hcreate =>
        rw [hcreate] at hcreated
        have h : Confined fs o.stage fs' := hcreated.resolve_left fun ⟨_, heq⟩ => by cases heq
        split
        · exact .inl ⟨_, rfl, discard_of_confined h⟩
        · next name hname =>
          have hstart : o.Starts fs config
              { fs := fs', env := Environment.initial name, replies := o.replies } :=
            ⟨rules, fs', name, hconfig, hrules, hcreate, hname, rfl⟩
          -- The script only comes to steps that the generation comes to.
          have hrun : Confined fs o.stage (runAll ⟨o.stage, o.answers, o.silence⟩
              config.instructions
              { fs := fs', env := Environment.initial name, replies := o.replies }).2.fs :=
            runAll_confined (s := o.setting) h fun step q hreach =>
              hsteps step q ⟨config, _, hstart, hreach⟩
          unfold execute
          split
          · next hr =>
            rw [hr] at hrun
            exact .inl ⟨_, rfl, discard_of_confined hrun⟩
          · next q hr =>
            rw [hr] at hrun
            refine .inr ⟨q.fs, ⟨config, _, q, hstart, hr, rfl⟩, hrun, fun hempty => ?_, rfl, rfl⟩
            simp [projectFolderName, hempty] at hname

end Scaffold
