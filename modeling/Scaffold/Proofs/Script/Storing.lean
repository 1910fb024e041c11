import Scaffold.Proofs.Environment
import Scaffold.Proofs.Script.Grouping
import Scaffold.Proofs.Script.Reaching

/-! # What a run does to the variables

  Only steps that define or ask for a variable store a text, each under its own
  name and only if it completes. The variables behind a run are those before it
  with these texts, whether the run succeeds or not.

  - `visitsAll`: the steps that a run comes to, with the progress there.
  - `Step.stored`: what a step stores.
  - `runAll_env`: the variables behind a run.
  - `run_frames_environment`: the order of the names, and where values come from.
-/

namespace Scaffold

variable {s : Setting} {p q : Progress} {step : Step} {script : List Instruction}

/-! ### The steps of a run -/

mutual

/-- The steps that an instruction comes to, in order, each with the progress there. -/
def Instruction.visits (s : Setting) : Instruction → Progress → List (Step × Progress)
  | .step condition step, p =>
    match isOpen p.env condition with
    | .ok true => [(step, p)]
    | _ => []
  | .group condition children, p =>
    match isOpen p.env condition with
    | .ok true => visitsAll s children p
    | _ => []

/-- The steps that a run comes to, in order, each with the progress there. -/
def visitsAll (s : Setting) : List Instruction → Progress → List (Step × Progress)
  | [], _ => []
  | instruction :: rest, p =>
    match runInstruction s instruction p with
    | (.error _, _) => instruction.visits s p
    | (.ok (), q) => instruction.visits s p ++ visitsAll s rest q

end

mutual

theorem Instruction.map_visits (s : Setting) (instruction : Instruction) (p : Progress) :
    (instruction.visits s p).map (·.1) = instruction.executed s p := by
  cases instruction with
  | step condition step =>
    rw [Instruction.visits, Instruction.executed]
    cases isOpen p.env condition with
    | error e => rfl
    | ok verdict => cases verdict <;> rfl
  | group condition children =>
    rw [Instruction.visits, Instruction.executed]
    cases isOpen p.env condition with
    | error e => rfl
    | ok verdict =>
      cases verdict with
      | false => rfl
      | true => exact map_visitsAll s children p

/-- A run visits the steps that it executes. -/
theorem map_visitsAll (s : Setting) (script : List Instruction) (p : Progress) :
    (visitsAll s script p).map (·.1) = executedAll s script p := by
  cases script with
  | nil => rfl
  | cons instruction rest =>
    rw [visitsAll, executedAll]
    cases hrun : runInstruction s instruction p with
    | mk result q =>
      cases result with
      | error e => exact Instruction.map_visits s instruction p
      | ok =>
        dsimp only
        rw [List.map_append, Instruction.map_visits, map_visitsAll s rest]

end

mutual

theorem Instruction.reaches_of_mem_visits (instruction : Instruction) (p : Progress)
    (h : (step, q) ∈ instruction.visits s p) : Reaches s [instruction] p step q := by
  cases instruction with
  | step condition step =>
    rw [Instruction.visits] at h
    split at h
    · next hopen =>
      obtain ⟨rfl, rfl⟩ := Prod.mk.inj (List.mem_singleton.1 h)
      exact .here hopen
    · cases h
  | group condition children =>
    rw [Instruction.visits] at h
    split at h
    · next hopen => exact .inside hopen (reaches_of_mem_visitsAll children p h)
    · cases h

/-- A run comes to the steps that it visits. -/
theorem reaches_of_mem_visitsAll (script : List Instruction) (p : Progress)
    (h : (step, q) ∈ visitsAll s script p) : Reaches s script p step q := by
  cases script with
  | nil => cases h
  | cons instruction rest =>
    rw [visitsAll] at h
    split at h
    · exact (instruction.reaches_of_mem_visits p h).of_first
    · next p' hrun =>
      rcases List.mem_append.1 h with hfirst | hrest
      · exact (instruction.reaches_of_mem_visits p hfirst).of_first
      · exact .later hrun (reaches_of_mem_visitsAll rest p' hrest)

end

/-! ### What steps store -/

/-- The variable of a step that defines or asks for one. -/
def Step.boundName? : Step → Option String
  | .define name _ => some name
  | .query question => some question.name
  | _ => none

/-- The text that a question stores: the accepted answer, transformed. There is none if the question
fails. -/
def Question.stored? (s : Setting) (question : Question) (p : Progress) : Option String := do
  let default ← (suggestion p.env question.default).toOption
  let validator ← (namedValidator p.env question.validation).toOption
  let answer ← (obtain s p question default validator).1.toOption
  (transformed p.env question.transform answer).toOption

/-- The text that a step stores under the name of its variable, unless the step fails. -/
def Step.stored? (s : Setting) (step : Step) (p : Progress) : Option (String × String) :=
  match step with
  | .define name value => (expandText p.env value).toOption.map fun text => (name, text)
  | .query question => (question.stored? s p).map fun text => (question.name, text)
  | _ => none

/-- What the steps of a run store, in order. -/
def storedAll (s : Setting) (script : List Instruction) (p : Progress) : List (String × String) :=
  (visitsAll s script p).filterMap fun v => v.1.stored? s v.2

theorem obtain_env (s : Setting) (p : Progress) (question : Question) (default : Option String)
    (validator : Option Builtin) : (obtain s p question default validator).2.env = p.env := by
  unfold obtain
  split
  · split <;> rfl
  · simp only
    split <;> rfl

/-- A question stores its text and leaves all other variables as they are. -/
theorem runQuery_env (s : Setting) (question : Question) (p : Progress) :
    (runQuery s question p).2.env = p.env.setTexts
      ((question.stored? s p).map fun text => (question.name, text)).toList ∧
    ((question.stored? s p).isSome ↔ (runQuery s question p).1 = .ok ()) := by
  -- Where nothing is stored, the question has failed.
  have hfailed : ∀ e : Error,
      (none : Option String).isSome ↔ (.error e : Except Error Unit) = .ok () :=
    fun e => ⟨fun h => (by cases h), fun h => (by cases h)⟩
  unfold runQuery Question.stored?
  cases suggestion p.env question.default with
  | error e => exact ⟨rfl, hfailed _⟩
  | ok default =>
    cases hvalidator : namedValidator p.env question.validation with
    | error e =>
      simp only [Except.toOption]
      exact ⟨rfl, hfailed _⟩
    | ok validator =>
      have henv := obtain_env s p question default validator
      cases hanswer : obtain s p question default validator with
      | mk result p' =>
        rw [hanswer] at henv
        simp only at henv
        cases result with
        | error e =>
          simp only [Except.toOption, hanswer, Option.bind_eq_bind, Option.bind_some,
            Option.bind_none]
          exact ⟨henv, hfailed _⟩
        | ok answer =>
          simp only [Except.toOption, hanswer, henv, Option.bind_eq_bind, Option.bind_some]
          cases transformed p.env question.transform answer with
          | error e => exact ⟨henv, hfailed _⟩
          | ok text => exact ⟨rfl, fun _ => rfl, fun _ => rfl⟩

/-- A step stores its text and leaves all other variables as they are. It stores one if it has a
variable and completes. -/
theorem runStep_env (s : Setting) (step : Step) (p : Progress) :
    (runStep s step p).2.env = p.env.setTexts (step.stored? s p).toList ∧
    ((step.stored? s p).isSome ↔ step.boundName?.isSome ∧ (runStep s step p).1 = .ok ()) := by
  unfold runStep
  cases step with
  | inform message =>
    dsimp only
    split <;> exact ⟨rfl, nofun, nofun⟩
  | query question =>
    obtain ⟨henv, hdone⟩ := runQuery_env s question p
    refine ⟨henv, ?_⟩
    simp only [Step.stored?, Step.boundName?, Option.isSome_map, Option.isSome_some, true_and]
    exact hdone
  | define name value =>
    unfold Step.stored?
    dsimp only
    cases expandText p.env value with
    | error e => exact ⟨rfl, nofun, nofun⟩
    | ok text => exact ⟨rfl, fun _ => ⟨rfl, rfl⟩, fun _ => rfl⟩
  | process => exact ⟨rfl, nofun, nofun⟩
  | move source target description =>
    dsimp only
    split <;> exact ⟨rfl, nofun, nofun⟩
  | rename file name description =>
    dsimp only
    split <;> exact ⟨rfl, nofun, nofun⟩
  | delete files description => exact ⟨rfl, nofun, nofun⟩

/-- A step stores under the name of its variable. -/
theorem Step.boundName?_of_stored? {name text : String} (h : step.stored? s p = some (name, text)) :
    step.boundName? = some name := by
  unfold stored? at h
  cases step with
  | define name value =>
    obtain ⟨text, -, heq⟩ := Option.map_eq_some_iff.1 h
    exact congrArg some (Prod.mk.inj heq).1
  | query question =>
    obtain ⟨text, -, heq⟩ := Option.map_eq_some_iff.1 h
    exact congrArg some (Prod.mk.inj heq).1
  | _ => cases h

/-! ### Whole runs -/

mutual

theorem runInstruction_env (s : Setting) (instruction : Instruction) (p : Progress) :
    (runInstruction s instruction p).2.env =
      p.env.setTexts ((instruction.visits s p).filterMap fun v => v.1.stored? s v.2) := by
  cases instruction with
  | step condition step =>
    rw [runInstruction, Instruction.visits]
    cases isOpen p.env condition with
    | error e => rfl
    | ok verdict =>
      cases verdict with
      | false => rfl
      | true =>
        dsimp only
        rw [(runStep_env s step p).1]
        cases h : step.stored? s p <;> simp [h]
  | group condition children =>
    rw [runInstruction, Instruction.visits]
    cases isOpen p.env condition with
    | error e => rfl
    | ok verdict =>
      cases verdict with
      | false => rfl
      | true => exact runAll_env s children p

/-- The variables behind a run are those before it with the texts that its steps store, even if it
fails. -/
theorem runAll_env (s : Setting) (script : List Instruction) (p : Progress) :
    (runAll s script p).2.env = p.env.setTexts (storedAll s script p) := by
  unfold storedAll
  cases script with
  | nil =>
    rw [runAll]
    rfl
  | cons instruction rest =>
    have hfirst := runInstruction_env s instruction p
    rw [runAll, visitsAll]
    cases hrun : runInstruction s instruction p with
    | mk result q =>
      rw [hrun] at hfirst
      cases result with
      | error e => exact hfirst
      | ok =>
        dsimp only at hfirst ⊢
        rw [List.filterMap_append, Environment.setTexts_append, ← hfirst]
        exact runAll_env s rest q

end

/-- An instruction that is a step and fails leaves the variables as they are. -/
theorem runInstruction_step_error {condition : Option String} {e : Error}
    (h : runInstruction s (.step condition step) p = (.error e, q)) : q.env = p.env := by
  rw [runInstruction] at h
  split at h
  · exact congrArg Progress.env (Prod.mk.inj h).2.symm
  · cases h
  · obtain ⟨henv, hdone⟩ := runStep_env s step p
    rw [h] at henv hdone
    -- A step that fails stores nothing.
    cases hstored : step.stored? s p with
    | none => rwa [hstored] at henv
    | some b =>
      rw [hstored] at hdone
      cases (hdone.1 rfl).2

/-! ### Where values come from -/

/-- The last step of a run that is about a variable and completes has stored the text, which is the
variable's value right behind the step. -/
def LastStored (s : Setting) (script : List Instruction) (p : Progress) (name text : String) :
    Prop :=
  ∃ front step q back, visitsAll s script p = front ++ (step, q) :: back ∧
    (step.boundName? = some name ∧ (runStep s step q).1 = .ok ()) ∧
    (step.stored? s q = some (name, text) ∧
      (runStep s step q).2.env.get? name = some (.text text)) ∧
    ∀ v ∈ back, v.1.boundName? = some name → (runStep s v.1 v.2).1 ≠ .ok ()

/-- No step of a run that is about a variable completes. -/
def NothingStored (s : Setting) (script : List Instruction) (p : Progress) (name : String) : Prop :=
  ∀ v ∈ visitsAll s script p, v.1.boundName? = some name → (runStep s v.1 v.2).1 ≠ .ok ()

/-- A step that is about a variable and completes stores a text for it. -/
theorem Step.stored?_of_ok {name : String} (hname : step.boundName? = some name)
    (hok : (runStep s step q).1 = .ok ()) : ∃ text, step.stored? s q = some (name, text) := by
  have hsome := (runStep_env s step q).2.2 ⟨by rw [hname]; rfl, hok⟩
  obtain ⟨⟨other, text⟩, hstored⟩ := Option.isSome_iff_exists.1 hsome
  obtain rfl : other = name :=
    Option.some.inj ((boundName?_of_stored? hstored).symm.trans hname)
  exact ⟨text, hstored⟩

/-- What a step stores is there behind it. -/
theorem runStep_get?_of_stored? {name text : String} (h : step.stored? s q = some (name, text)) :
    (runStep s step q).2.env.get? name = some (.text text) := by
  rw [(runStep_env s step q).1, h]
  exact (Environment.get?_set q.env name name (.text text)).trans (if_pos rfl)

theorem nothingStored_of_lookup {name : String}
    (h : (storedAll s script p).reverse.lookup name = none) : NothingStored s script p name := by
  rintro ⟨step, q⟩ hv hname hok
  obtain ⟨text, hstored⟩ := Step.stored?_of_ok hname hok
  have hmem : (name, text) ∈ (storedAll s script p).reverse :=
    List.mem_reverse.2 (List.mem_filterMap.2 ⟨(step, q), hv, hstored⟩)
  simpa using List.lookup_eq_none_iff.1 h (name, text) hmem

theorem lastStored_of_lookup {name text : String}
    (h : (storedAll s script p).reverse.lookup name = some text) :
    LastStored s script p name text := by
  obtain ⟨later, earlier, hreverse, hlater⟩ := List.lookup_eq_some_iff.1 h
  have hstored : storedAll s script p = earlier.reverse ++ (name, text) :: later.reverse := by
    rw [← List.reverse_reverse (storedAll s script p), hreverse]
    simp
  -- What is stored comes from the visited steps in their order.
  obtain ⟨front, rest, hvisits, -, hrest⟩ := List.filterMap_eq_append_iff.1 hstored
  obtain ⟨idle, ⟨step, q⟩, back, rfl, -, hstep, hback⟩ := List.filterMap_eq_cons_iff.1 hrest
  have hdone := (runStep_env s step q).2.1 (by rw [hstep]; rfl)
  refine ⟨front ++ idle, step, q, back, by rw [hvisits, List.append_assoc],
    ⟨Step.boundName?_of_stored? hstep, hdone.2⟩, ⟨hstep, runStep_get?_of_stored? hstep⟩, ?_⟩
  rintro ⟨step', q'⟩ hv hname hok
  obtain ⟨text', hstored'⟩ := Step.stored?_of_ok hname hok
  have hmem : (name, text') ∈ later := by
    rw [← List.mem_reverse, ← hback]
    exact List.mem_filterMap.2 ⟨(step', q'), hv, hstored'⟩
  simpa using hlater (name, text') hmem

/-- Behind a run, whether it succeeds or not, the names that were bound before stand where they
stood, and behind them the new ones in the order in which they were stored first, each of them once.
The value of a name is the one before the run if no step about it has completed, and otherwise the
text that the last of them has stored. An instruction that is a step and fails leaves the variables
as they are. The answer that a question binds for its transform is not visible behind the question,
and a variable of this name keeps its value. -/
theorem run_frames_environment (s : Setting) (script : List Instruction) (p : Progress) :
    ((runAll s script p).2.env.names = p.env.names ++
        (((storedAll s script p).map (·.1)).filter (· ∉ p.env.names)).eraseDups ∧
      (p.env.names.Nodup → (runAll s script p).2.env.names.Nodup)) ∧
    (∀ name,
      ((runAll s script p).2.env.get? name = p.env.get? name ∧ NothingStored s script p name) ∨
      ∃ text, (runAll s script p).2.env.get? name = some (.text text) ∧
        LastStored s script p name text) ∧
    ((visitsAll s script p).map (·.1) = executedAll s script p ∧
      ∀ v ∈ visitsAll s script p, Reaches s script p v.1 v.2) ∧
    (∀ condition step q e q', runInstruction s (.step condition step) q = (.error e, q') →
      q'.env = q.env) ∧
    ∀ question q, question.name ≠ Environment.transformValue →
      (runStep s (.query question) q).2.env.get? Environment.transformValue =
        q.env.get? Environment.transformValue := by
  have henv := runAll_env s script p
  refine ⟨⟨?_, ?_⟩, ?_, ⟨map_visitsAll s script p, ?_⟩, ?_, ?_⟩
  · rw [henv, Environment.names_setTexts]
  · intro hnodup
    rw [henv]
    exact Environment.nodup_names_setTexts hnodup _
  · intro name
    rw [henv, Environment.get?_setTexts]
    cases hlast : (storedAll s script p).reverse.lookup name with
    | none => exact .inl ⟨rfl, nothingStored_of_lookup hlast⟩
    | some text => exact .inr ⟨text, rfl, lastStored_of_lookup hlast⟩
  · rintro ⟨step, q⟩ hv
    exact reaches_of_mem_visitsAll script p hv
  · intro condition step q e q' h
    exact runInstruction_step_error h
  · intro question q hname
    rw [(runStep_env s (.query question) q).1, Environment.get?_setTexts]
    show (((((question.stored? s q).map fun text => (question.name, text)).toList).reverse.lookup
      _).map Binding.text).or _ = _
    cases question.stored? s q with
    | none => rfl
    | some text =>
      simp only [Option.map_some, Option.toList_some, List.reverse_singleton]
      rw [lookup_cons_of_ne hname.symm]
      rfl

/-- A variable `value`, a question that stores another text than the answer, and a definition that
fails. -/
def transforming : List Instruction :=
  [.step none (.define "value" "mine"),
    .step none (.query { name := "flag", prompt := "?", transform := some "stored" }),
    .step none (.define "flag" "$\x7b")]

/-- Where the user is going to say yes. -/
def affirmative : Progress := { emptyProgress with replies := ["yes"] }

theorem run_frames_environment_of_transforming :
    (runAll emptySetting transforming affirmative).1.isOk = false ∧
    (runAll emptySetting transforming affirmative).2.env.names = ["value", "flag"] ∧
    (∃ text, (runAll emptySetting transforming affirmative).2.env.get? "flag" =
        some (.text text) ∧ LastStored emptySetting transforming affirmative "flag" text) ∧
    (∀ q e q', runInstruction emptySetting (.step none (.define "flag" "$\x7b")) q =
      (.error e, q') → q'.env = q.env) ∧
    (runStep emptySetting (.query { name := "flag", prompt := "?", transform := some "stored" })
      affirmative).2.env.get? "value" = affirmative.env.get? "value" := by
  obtain ⟨⟨hnames, -⟩, hvalues, -, hfails, htransform⟩ :=
    run_frames_environment emptySetting transforming affirmative
  refine ⟨by decide +kernel, hnames.trans (by decide +kernel), ?_, hfails none _,
    htransform _ affirmative (by decide)⟩
  have hflag : (runAll emptySetting transforming affirmative).2.env.get? "flag" =
      some (.text "stored") := by decide +kernel
  rcases hvalues "flag" with ⟨hsame, -⟩ | hlast
  · rw [hflag] at hsame
    cases hsame
  · exact hlast

end Scaffold
