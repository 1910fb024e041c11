import Scaffold.Script.Run

/-! # The steps that a run comes to

  Which steps of a script run depends on conditions and on everything before
  them. Whatever each step keeps that a run comes to, the whole run keeps.

  - `Reaches`: a run comes to a step.
  - `allSteps`: all steps of a script, at any depth.
  - `runAll_keeps`: an invariant of the steps is one of the run.
-/

namespace Scaffold

variable {s : Setting} {script : List Instruction} {p q : Progress} {step : Step}

/-- A run of a script from `p` comes to a step, and then has progressed to `q`. -/
inductive Reaches (s : Setting) : List Instruction → Progress → Step → Progress → Prop where
  /-- The first instruction is the step, and its condition holds. -/
  | here {condition step rest p} (hopen : isOpen p.env condition = .ok true) :
    Reaches s (.step condition step :: rest) p step p
  /-- The first instruction is a group whose condition holds, and its instructions come to the
  step. -/
  | inside {condition children rest p step q} (hopen : isOpen p.env condition = .ok true)
    (h : Reaches s children p step q) : Reaches s (.group condition children :: rest) p step q
  /-- The first instruction succeeds, and the others come to the step. -/
  | later {instruction rest p p' step q} (hrun : runInstruction s instruction p = (.ok (), p'))
    (h : Reaches s rest p' step q) : Reaches s (instruction :: rest) p step q

mutual

/-- The steps of an instruction, at any depth. -/
def Instruction.steps : Instruction → List Step
  | .step _ step => [step]
  | .group _ children => allSteps children

/-- The steps of a script, at any depth. -/
def allSteps : List Instruction → List Step
  | [] => []
  | instruction :: rest => instruction.steps ++ allSteps rest

end

/-- A run comes to steps of its script only. -/
theorem Reaches.mem_allSteps (h : Reaches s script p step q) : step ∈ allSteps script := by
  induction h with
  | here hopen => simp [allSteps, Instruction.steps]
  | inside hopen h ih => simp [allSteps, Instruction.steps, ih]
  | later hrun h ih => simp [allSteps, ih]

/-- What a run of one instruction comes to, a run that begins with it comes to. -/
theorem Reaches.of_first {instruction : Instruction} {rest : List Instruction}
    (h : Reaches s [instruction] p step q) : Reaches s (instruction :: rest) p step q := by
  cases h with
  | here hopen => exact .here hopen
  | inside hopen h => exact .inside hopen h
  | later hrun h => cases h

mutual

theorem runInstruction_keeps {P : Progress → Prop} (instruction : Instruction) (p : Progress)
    (hstep : ∀ step q, Reaches s [instruction] p step q → P q → P (runStep s step q).2)
    (hp : P p) : P (runInstruction s instruction p).2 := by
  cases instruction with
  | step condition step =>
    unfold runInstruction
    split
    · exact hp
    · exact hp
    · next hopen => exact hstep step p (.here hopen) hp
  | group condition children =>
    unfold runInstruction
    split
    · exact hp
    · exact hp
    · next hopen =>
      exact runAll_keeps children p (fun step q h => hstep step q (.inside hopen h)) hp

/-- What every step keeps that a run comes to, the run keeps, even if it fails. -/
theorem runAll_keeps {P : Progress → Prop} (script : List Instruction) (p : Progress)
    (hstep : ∀ step q, Reaches s script p step q → P q → P (runStep s step q).2)
    (hp : P p) : P (runAll s script p).2 := by
  cases script with
  | nil => exact hp
  | cons instruction rest =>
    have hfirst := runInstruction_keeps instruction p
      (fun step q h => hstep step q h.of_first) hp
    unfold runAll
    split
    · next hrun => rw [hrun] at hfirst; exact hfirst
    · next hrun =>
      rw [hrun] at hfirst
      exact runAll_keeps rest _ (fun step q h => hstep step q (.later hrun h)) hfirst

end

/-! ### The files of single steps -/

/-- The files are those that the operation leaves. -/
theorem settle_fs {α : Type} (p : Progress) (r : Except Error α × FileSystem) :
    (p.settle r).2.fs = r.2 := rfl

theorem obtain_fs (s : Setting) (p : Progress) (question : Question) (default : Option String)
    (validator : Option Builtin) : (obtain s p question default validator).2.fs = p.fs := by
  unfold obtain
  split
  · split <;> rfl
  · simp only
    split <;> rfl

theorem runQuery_fs (s : Setting) (question : Question) (p : Progress) :
    (runQuery s question p).2.fs = p.fs := by
  unfold runQuery
  split
  · rfl
  · split
    · rfl
    · next default _ _ validator _ =>
      have hfs := obtain_fs s p question default validator
      split
      · next hr => rw [hr] at hfs; exact hfs
      · next hr =>
        rw [hr] at hfs
        split <;> exact hfs

end Scaffold
