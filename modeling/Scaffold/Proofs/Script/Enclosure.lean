import Scaffold.Proofs.Script.Reaching
import Scaffold.Proofs.Staging.Enclosure

/-! # Scripts that stay inside the staging tree

  Only moves and renames name places. As long as no such place leads above the
  staging root on its way, a script changes nothing outside of the staging tree.
  Nothing refuses a place that does.

  - `Step.StaysInside`: the places that a step names stay inside.
  - `run_stays_inside`: what a run leaves as it was.
  - `rename_leaves_root`: a rename to a path that leads above the root.
-/

namespace Scaffold

open FileSystem (Enclosed StaysInside isBelow isBelow_iff)

variable {fs₀ : FileSystem} {s : Setting} {p : Progress}

/-- Where a step moves files, or what it renames and where to, is given by relative paths that never
lead above the staging root. -/
def Step.StaysInside (env : Environment) : Step → Prop
  | .move _ target _ => ∀ directory, expandText env target = .ok directory →
      Path.isAbsolute ⟨directory⟩ = false ∧ FileSystem.StaysInside (Path.steps ⟨directory⟩)
  | .rename file name _ =>
      Path.isAbsolute ⟨file⟩ = false ∧ FileSystem.StaysInside (Path.steps ⟨file⟩) ∧
        ∀ newName, expandText env name = .ok newName → Path.isAbsolute ⟨newName⟩ = false ∧
          FileSystem.StaysInside ((Path.steps ⟨file⟩).dropLast ++ Path.steps ⟨newName⟩)
  | _ => True

/-- A single step that stays inside is enclosed in the staging tree. -/
theorem runStep_enclosed {step : Step} (h : Enclosed fs₀ s.root p.fs) (hroot : s.root.text ≠ "")
    (hstep : step.StaysInside p.env) : Enclosed fs₀ s.root (runStep s step p).2.fs := by
  unfold runStep
  cases step with
  | inform message =>
    dsimp only
    split <;> exact h
  | query question =>
    dsimp only
    rw [runQuery_fs]
    exact h
  | define name value =>
    dsimp only
    split <;> exact h
  | process =>
    dsimp only
    rw [settle_fs]
    exact Staging.processTemplates_enclosed h p.env
  | move source target description =>
    dsimp only
    split
    · exact h
    · next directory hdirectory =>
      obtain ⟨hrel, hinside⟩ := hstep directory hdirectory
      rw [settle_fs]
      exact Staging.moveFiles_enclosed h source hrel hinside
  | rename file name description =>
    dsimp only
    split
    · exact h
    · next newName hname =>
      obtain ⟨hrel, hinside, hnew⟩ := hstep
      obtain ⟨hrel', hinside'⟩ := hnew newName hname
      rw [settle_fs]
      exact Staging.renameFile_enclosed h hroot hrel hinside hrel' hinside'
  | delete files description =>
    dsimp only
    rw [settle_fs]
    exact Staging.deleteFiles_enclosed h files

/-- A run all of whose steps stay inside is enclosed in the staging tree, even if it fails. -/
theorem runAll_enclosed {script : List Instruction} (h : Enclosed fs₀ s.root p.fs)
    (hroot : s.root.text ≠ "")
    (hsteps : ∀ step q, Reaches s script p step q → step.StaysInside q.env) :
    Enclosed fs₀ s.root (runAll s script p).2.fs :=
  runAll_keeps (P := fun q => Enclosed fs₀ s.root q.fs) script p
    (fun step q hreach hq => runStep_enclosed hq hroot (hsteps step q hreach)) h

/-- A script whose moves and renames stay inside creates, changes, moves and removes nothing outside
of the staging tree, and the staging root stays where it is, whatever comes of the run. -/
theorem run_stays_inside (s : Setting) (script : List Instruction) (p : Progress)
    (hfs : p.fs.WellFormed) (hroot : p.fs.isDirectory s.root = true)
    (hapart : isBelow (p.fs.reading s.root) (p.fs.origin s.root) = false)
    (hsteps : ∀ step q, Reaches s script p step q → step.StaysInside q.env) :
    (∀ l, ¬ p.fs.reading s.root <+: l → (runAll s script p).2.fs.get? l = p.fs.get? l) ∧
      (runAll s script p).2.fs.isDirectoryAt (p.fs.reading s.root) = true ∧
      (runAll s script p).2.fs.reading s.root = p.fs.reading s.root := by
  obtain ⟨hlocate, hdir⟩ := FileSystem.isDirectory_iff.1 hroot
  have h := runAll_enclosed (.refl hfs.sound hdir hapart)
    (FileSystem.locate_text_ne_empty hlocate) hsteps
  refine ⟨fun l hl => h.get?_outside ?_, h.directory, h.reading_root⟩
  exact Bool.eq_false_iff.2 fun hbelow => hl (isBelow_iff.1 hbelow).1

/-! ### One file with another name -/

/-- A staging tree with one file. -/
def oneStaged : Progress :=
  { fs := { entries := [(["stage"], .directory), (["stage", "a.txt"], .file "x".toUTF8)] },
    env := {} }

/-- Its root. -/
def oneStagedSetting : Setting := { root := ⟨"/stage"⟩ }

/-- Gives the file another name. -/
def renamed (newName : String) : List Instruction := [.step none (.rename "a.txt" newName none)]

theorem run_stays_inside_of_renamed :
    (∀ l, ¬ oneStaged.fs.reading oneStagedSetting.root <+: l →
      (runAll oneStagedSetting (renamed "b.txt") oneStaged).2.fs.get? l = oneStaged.fs.get? l) ∧
      (runAll oneStagedSetting (renamed "b.txt") oneStaged).2.fs.isDirectoryAt
        (oneStaged.fs.reading oneStagedSetting.root) = true ∧
      (runAll oneStagedSetting (renamed "b.txt") oneStaged).2.fs.reading oneStagedSetting.root =
        oneStaged.fs.reading oneStagedSetting.root := by
  have hexpand : (expandText oneStaged.env "b.txt").toOption = some "b.txt" := by decide +kernel
  refine run_stays_inside oneStagedSetting (renamed "b.txt") oneStaged (by decide +kernel)
    (by decide +kernel) (by decide +kernel) fun step q hreach => ?_
  cases hreach with
  | here hopen =>
    refine ⟨by decide +kernel, by decide +kernel, fun newName hname => ?_⟩
    rw [hname] at hexpand
    obtain rfl : newName = "b.txt" := Option.some.inj hexpand
    exact ⟨by decide +kernel, by decide +kernel⟩
  | later hrun hreach => cases hreach

/-- Nothing refuses a new name that leads above the staging root: the file ends up outside. -/
theorem rename_leaves_root :
    ¬ ∀ l, ¬ oneStaged.fs.reading oneStagedSetting.root <+: l →
      (runAll oneStagedSetting (renamed "../b.txt") oneStaged).2.fs.get? l =
        oneStaged.fs.get? l := by
  intro h
  have hsame := h ["b.txt"] (by decide +kernel)
  revert hsame
  decide +kernel

end Scaffold
