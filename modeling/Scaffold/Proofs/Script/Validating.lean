import Scaffold.Proofs.Script.Asking
import Scaffold.Proofs.Script.Storing

/-! # Questions with a named validator

  Validators are looked up among the variables, which a script can bind again.
  A run starts with every built-in under its own name and stores nothing but
  texts, so that a name of a validator either still stands for this validator or
  for a text that an earlier step has stored.

  - `OwnNames`: built-ins stand under their own names.
  - `visitsAll_env`: the variables at a step that a run comes to.
  - `Validated`: what a question with a named validator comes to.
  - `validators_are_never_skipped`: every such question of a run.
-/

namespace Scaffold

variable {s : Setting} {p q : Progress} {step : Step} {script : List Instruction}
  {front back : List (Step × Progress)} {question : Question} {name : String} {folder : String}

/-! ### Built-ins under their own names -/

namespace Environment

variable {env : Environment}

/-- Every built-in value stands under its own name. -/
def OwnNames (env : Environment) : Prop :=
  ∀ name builtin, env.get? name = some (.builtin builtin) → name = builtin.name

theorem OwnNames.setText (h : env.OwnNames) (name text : String) :
    (env.setText name text).OwnNames := by
  intro other builtin hother
  rw [Environment.setText, get?_set] at hother
  by_cases hname : other = name
  · rw [if_pos hname] at hother
    cases hother
  · rw [if_neg hname] at hother
    exact h other builtin hother

theorem OwnNames.setTexts (h : env.OwnNames) (stored : List (String × String)) :
    (env.setTexts stored).OwnNames := by
  induction stored generalizing env with
  | nil => exact h
  | cons first rest ih => exact ih (h.setText first.1 first.2)

theorem OwnNames.setBuiltin (h : env.OwnNames) (builtin : Builtin) :
    (env.set builtin.name (.builtin builtin)).OwnNames := by
  intro other value hother
  rw [get?_set] at hother
  by_cases hname : other = builtin.name
  · rw [if_pos hname] at hother
    cases hother
    exact hname
  · rw [if_neg hname] at hother
    exact h other value hother

/-- A new run has every built-in under its own name, and no built-in elsewhere. -/
theorem ownNames_initial (folder : String) : (initial folder).OwnNames := by
  have hbuiltins : ∀ (builtins : List Builtin) (env : Environment), env.OwnNames →
      (builtins.foldl (fun env builtin => env.set builtin.name (.builtin builtin))
        env).OwnNames := by
    intro builtins
    induction builtins with
    | nil => exact fun _ h => h
    | cons builtin rest ih => exact fun env h => ih _ (h.setBuiltin builtin)
  have hempty : ({} : Environment).OwnNames := nofun
  exact hbuiltins Builtin.all _ (hempty.setText projectFolder folder)

/-- A new run has every built-in. -/
theorem get?_initial (folder : String) (builtin : Builtin) :
    (initial folder).get? builtin.name = some (.builtin builtin) := by
  cases builtin <;> rfl

/-- The names of the validators. -/
def validatorNames : List String := ["isNotEmpty", "isPackage", "isYesNo"]

theorem mem_validatorNames {name : String} :
    name ∈ validatorNames ↔
      ∃ builtin : Builtin, builtin.kind = .validator ∧ builtin.name = name := by
  constructor
  · intro h
    simp only [validatorNames, List.mem_cons, List.not_mem_nil, or_false] at h
    rcases h with rfl | rfl | rfl
    · exact ⟨.isNotEmpty, rfl, rfl⟩
    · exact ⟨.isPackage, rfl, rfl⟩
    · exact ⟨.isYesNo, rfl, rfl⟩
  · rintro ⟨builtin, hkind, rfl⟩
    cases builtin with
    | isNotEmpty | isPackage | isYesNo => decide
    | _ => cases hkind

/-- A name is no validator in an environment iff it is the name of none, or a text has been bound to
it since the run began. -/
theorem validator?_setTexts_initial (folder : String) (stored : List (String × String))
    (name : String) : ((initial folder).setTexts stored).validator? name = none ↔
      name ∉ validatorNames ∨ ∃ text, (name, text) ∈ stored := by
  rw [validator?, get?_setTexts]
  cases hlast : stored.reverse.lookup name with
  | some text =>
    -- The text hides whatever the name has stood for.
    have hmem : (name, text) ∈ stored := by
      obtain ⟨later, earlier, hreverse, -⟩ := List.lookup_eq_some_iff.1 hlast
      rw [← List.mem_reverse, hreverse]
      simp
    exact iff_of_true rfl (.inr ⟨text, hmem⟩)
  | none =>
    have hnone : ¬∃ text, (name, text) ∈ stored := by
      rintro ⟨text, hmem⟩
      simpa using List.lookup_eq_none_iff.1 hlast (name, text) (List.mem_reverse.2 hmem)
    rw [or_iff_left hnone, Option.map_none, Option.none_or, mem_validatorNames]
    constructor
    · rintro hvalidator ⟨builtin, hkind, rfl⟩
      rw [get?_initial] at hvalidator
      dsimp only at hvalidator
      rw [if_pos hkind] at hvalidator
      cases hvalidator
    · intro hunnamed
      cases hget : (initial folder).get? name with
      | none => rfl
      | some binding =>
        cases binding with
        | text text => rfl
        | builtin builtin =>
          have hkind : builtin.kind ≠ .validator := fun hkind =>
            hunnamed ⟨builtin, hkind, (ownNames_initial folder name builtin hget).symm⟩
          exact if_neg hkind

/-- What an environment gives as the validator of a name is a validator, and has this name. -/
theorem OwnNames.validator? {builtin : Builtin} (h : env.OwnNames)
    (hvalidator : env.validator? name = some builtin) :
    builtin.kind = .validator ∧ builtin.name = name := by
  unfold Environment.validator? at hvalidator
  split at hvalidator
  · next found hget =>
    split at hvalidator
    · next hkind =>
      cases hvalidator
      exact ⟨hkind, (h name _ hget).symm⟩
    · cases hvalidator
  · cases hvalidator

end Environment

/-! ### The variables at a step -/

theorem mem_visitsAll_of_first {v : Step × Progress} {instruction : Instruction}
    (rest : List Instruction) (h : v ∈ instruction.visits s p) :
    v ∈ visitsAll s (instruction :: rest) p := by
  rw [visitsAll]
  split
  · exact h
  · exact List.mem_append_left _ h

/-- A run visits the steps that it comes to. -/
theorem mem_visitsAll_of_reaches (h : Reaches s script p step q) :
    (step, q) ∈ visitsAll s script p := by
  induction h with
  | here hopen =>
    refine mem_visitsAll_of_first _ ?_
    rw [Instruction.visits, hopen]
    exact List.mem_singleton.2 rfl
  | inside hopen h ih =>
    refine mem_visitsAll_of_first _ ?_
    rw [Instruction.visits, hopen]
    exact ih
  | later hrun h ih =>
    rw [visitsAll, hrun]
    exact List.mem_append_right _ ih

/-- What a list of steps stores. -/
def storedBy (s : Setting) (steps : List (Step × Progress)) : List (String × String) :=
  steps.filterMap fun v => v.1.stored? s v.2

mutual

theorem Instruction.visits_env {q : Progress} {front back : List (Step × Progress)} (s : Setting)
    (instruction : Instruction) (p : Progress)
    (h : instruction.visits s p = front ++ (step, q) :: back) :
    q.env = p.env.setTexts (storedBy s front) := by
  cases instruction with
  | step condition only =>
    rw [Instruction.visits] at h
    split at h
    · obtain ⟨rfl, hvisit⟩ | ⟨v, hfront, hback⟩ := List.cons_eq_append_iff.1 h
      · obtain ⟨heq, -⟩ := List.cons.inj hvisit
        cases heq
        rfl
      · simp at hback
    · simp at h
  | group condition children =>
    rw [Instruction.visits] at h
    split at h
    · exact visitsAll_env s children p h
    · simp at h

/-- The variables at a step that a run comes to are those before the run with the texts that the
steps before it store. -/
theorem visitsAll_env {q : Progress} {front back : List (Step × Progress)} (s : Setting)
    (script : List Instruction) (p : Progress)
    (h : visitsAll s script p = front ++ (step, q) :: back) :
    q.env = p.env.setTexts (storedBy s front) := by
  cases script with
  | nil => simp [visitsAll] at h
  | cons instruction rest =>
    rw [visitsAll] at h
    split at h
    · exact instruction.visits_env s p h
    · next p' hrun =>
      rcases List.append_eq_append_iff.1 h with ⟨mid, rfl, hrest⟩ | ⟨mid, hfirst, hmid⟩
      · -- The step comes behind all that the first instruction visits.
        have hfirst := runInstruction_env s instruction p
        rw [hrun] at hfirst
        rw [visitsAll_env s rest p' hrest, hfirst, storedBy, storedBy, List.filterMap_append,
          Environment.setTexts_append]
      · cases mid with
        | nil =>
          have hfirst' := runInstruction_env s instruction p
          rw [hrun, hfirst, List.append_nil] at hfirst'
          have hrest : visitsAll s rest p' = [] ++ (step, q) :: back := hmid.symm
          rw [visitsAll_env s rest p' hrest]
          exact hfirst'
        | cons v mid =>
          obtain ⟨rfl, -⟩ := List.cons.inj hmid
          exact instruction.visits_env s p hfirst

end

/-! ### Answers -/

/-- A question is answered by the answer that was supplied, or by a reply, and then the replies
behind it are left. -/
def Answered (s : Setting) (question : Question) (q : Progress) (answer : String)
    (left : List String) : Prop :=
  (s.answers.get? question.name = some answer ∧ left = q.replies) ∨
  (s.answers.get? question.name = none ∧ ∃ used, q.replies = used ++ answer :: left)

/-- A question obtains an answer that its validator accepts, or it fails for a reason that has
nothing to do with its name. -/
theorem obtain_cases (s : Setting) (p : Progress) (question : Question) (default : Option String)
    (validator : Option Builtin) :
    (∃ answer p', obtain s p question default validator = (.ok answer, p') ∧
      complaint validator answer = "" ∧ Answered s question p answer p'.replies) ∨
    ∃ e p', obtain s p question default validator = (.error e, p') ∧
      ∀ name, e ≠ .unknownValidator name := by
  cases hanswer : s.answers.get? question.name with
  | some answer =>
    rw [obtain_supplied p default validator hanswer]
    by_cases haccept : complaint validator answer = ""
    · rw [if_pos haccept]
      exact .inl ⟨answer, p, rfl, haccept, .inl ⟨hanswer, rfl⟩⟩
    · rw [if_neg haccept]
      exact .inr ⟨_, p, rfl, fun _ => nofun⟩
  | none =>
    rcases exists_first_accepted validator p.replies with
      ⟨used, accepted, rest, hreplies, hused, haccepted⟩ | hall
    · have htalk : converse (.ask question.name question.prompt default) validator p.replies =
          ⟨_, some accepted, rest⟩ := hreplies ▸ converse_accepted _ hused haccepted
      rw [obtain_of_none hanswer htalk]
      exact .inl ⟨accepted, _, rfl, haccepted, .inr ⟨hanswer, used, hreplies⟩⟩
    · rw [obtain_of_none hanswer (converse_rejected _ hall)]
      exact .inr ⟨_, _, rfl, fun _ => nofun⟩

/-- A transform that cannot be expanded fails as a template. -/
theorem transformed_error {env : Environment} {transform : Option String} {answer : String}
    {e : Error} (h : transformed env transform answer = .error e) :
    ∃ failure, e = .template failure := by
  cases transform with
  | none => cases h
  | some template => exact expandText_error h

/-- A question that obtains an answer does not fail for its validator. -/
theorem store_ne_unknownValidator {r : Except Error String × Progress} {name : String}
    (h : ∀ e, r.1 = .error e → e ≠ .unknownValidator name) :
    (question.store r).1 ≠ .error (.unknownValidator name) := by
  obtain ⟨result, q⟩ := r
  cases result with
  | error e => exact fun hfail => h e rfl (Except.error.inj hfail)
  | ok answer =>
    unfold Question.store
    dsimp only
    split
    · next e herror =>
      obtain ⟨failure, rfl⟩ := transformed_error herror
      exact nofun
    · exact nofun

/-- The validator of a question with a name is what the environment gives for the name. -/
theorem validator?_of_namedValidator {env : Environment} {validator : Option Builtin}
    (h : namedValidator env (some name) = .ok validator) :
    ∃ builtin, env.validator? name = some builtin ∧ validator = some builtin := by
  rw [namedValidator] at h
  split at h
  · next builtin hfound => exact ⟨builtin, hfound, (Except.ok.inj h).symm⟩
  · cases h

/-- A question that completes stores what the transform makes of an accepted answer. -/
theorem runQuery_ok (hok : (runQuery s question q).1 = .ok ()) :
    ∃ (validator : Option Builtin) (answer text : String),
      namedValidator q.env question.validation = .ok validator ∧
      complaint validator answer = "" ∧
      Answered s question q answer (runQuery s question q).2.replies ∧
      transformed q.env question.transform answer = .ok text ∧
      (runQuery s question q).2.env = q.env.setText question.name text := by
  cases hdefault : suggestion q.env question.default with
  | error e =>
    unfold runQuery at hok
    rw [hdefault] at hok
    cases hok
  | ok default =>
    cases hvalidator : namedValidator q.env question.validation with
    | error e =>
      unfold runQuery at hok
      rw [hdefault] at hok
      dsimp only at hok
      rw [hvalidator] at hok
      cases hok
    | ok validator =>
      have henv := obtain_env s q question default validator
      rw [runQuery_eq s hdefault hvalidator] at hok ⊢
      rcases obtain_cases s q question default validator with
        ⟨answer, p', hobtain, haccept, hanswered⟩ | ⟨e, p', hobtain, -⟩
      · rw [hobtain] at henv
        rw [hobtain, Question.store] at hok ⊢
        dsimp only at henv hok ⊢
        rw [henv] at hok ⊢
        cases htext : transformed q.env question.transform answer with
        | error e =>
          rw [htext] at hok
          cases hok
        | ok text => exact ⟨validator, answer, text, rfl, haccept, hanswered, htext, rfl⟩
      · rw [hobtain] at hok
        cases hok

/-! ### Questions of a run -/

/-- Some of the steps has stored a text under the name. -/
def StoredBefore (s : Setting) (steps : List (Step × Progress)) (name : String) : Prop :=
  ∃ v ∈ steps, v.1.boundName? = some name ∧ (runStep s v.1 v.2).1 = .ok ()

theorem storedBefore_iff (s : Setting) (steps : List (Step × Progress)) (name : String) :
    StoredBefore s steps name ↔ ∃ text, (name, text) ∈ storedBy s steps := by
  constructor
  · rintro ⟨v, hv, hname, hok⟩
    obtain ⟨text, hstored⟩ := Step.stored?_of_ok hname hok
    exact ⟨text, List.mem_filterMap.2 ⟨v, hv, hstored⟩⟩
  · rintro ⟨text, hmem⟩
    obtain ⟨v, hv, hstored⟩ := List.mem_filterMap.1 hmem
    have hdone := (runStep_env s v.1 v.2).2.1 (by rw [hstored]; rfl)
    exact ⟨v, hv, Step.boundName?_of_stored? hstored, hdone.2⟩

/-- What a question with a named validator comes to, behind these steps of a run. -/
structure Validated (s : Setting) (steps : List (Step × Progress)) (question : Question)
    (name : String) (q : Progress) : Prop where
  /-- The question fails for its validator iff the name is that of no validator, or one of the
  steps has stored a text under it. -/
  unknown : ∀ default, suggestion q.env question.default = .ok default →
    ((runStep s (.query question) q).1 = .error (.unknownValidator name) ↔
      name ∉ Environment.validatorNames ∨ StoredBefore s steps name)
  /-- If the question stores a text, this is what the transform makes of an answer that the
  validator of this name accepts. -/
  accepted : (runStep s (.query question) q).1 = .ok () →
    ∃ (validator : Builtin) (answer text : String),
      (validator.kind = .validator ∧ validator.name = name) ∧
      validator.call answer = "" ∧
      Answered s question q answer (runStep s (.query question) q).2.replies ∧
      transformed q.env question.transform answer = .ok text ∧
      (runStep s (.query question) q).2.env = q.env.setText question.name text
  /-- If the question fails, it stores nothing. -/
  failed : (runStep s (.query question) q).1 ≠ .ok () →
    (runStep s (.query question) q).2.env = q.env

/-- A question with a named validator does what it should in every environment that binds texts
only, on top of a new one. -/
theorem validated {steps : List (Step × Progress)}
    (henv : q.env = (Environment.initial folder).setTexts (storedBy s steps))
    (hname : question.validation = some name) : Validated s steps question name q where
  unknown := by
    intro default hdefault
    have hvalidator := Environment.validator?_setTexts_initial folder (storedBy s steps) name
    rw [← henv, ← storedBefore_iff] at hvalidator
    rw [← hvalidator]
    show (runQuery s question q).1 = _ ↔ _
    cases hfound : q.env.validator? name with
    | none =>
      refine iff_of_true ?_ rfl
      unfold runQuery namedValidator
      rw [hdefault, hname]
      dsimp only
      rw [hfound]
    | some validator =>
      refine iff_of_false ?_ nofun
      have hnamed : namedValidator q.env question.validation = .ok (some validator) := by
        rw [hname, namedValidator, hfound]
      rw [runQuery_eq s hdefault hnamed]
      apply store_ne_unknownValidator
      intro e herror
      rcases obtain_cases s q question default (some validator) with
        ⟨answer, p', hobtain, -⟩ | ⟨e', p', hobtain, hother⟩
      · rw [hobtain] at herror
        cases herror
      · rw [hobtain] at herror
        cases herror
        exact hother name
  accepted := by
    intro hok
    have hown : q.env.OwnNames := henv ▸ (Environment.ownNames_initial folder).setTexts _
    obtain ⟨validator, answer, text, hvalidator, haccept, hrest⟩ := runQuery_ok hok
    rw [hname] at hvalidator
    obtain ⟨builtin, hfound, rfl⟩ := validator?_of_namedValidator hvalidator
    exact ⟨builtin, answer, text, hown.validator? hfound, haccept, hrest⟩
  failed := by
    intro hfail
    obtain ⟨hstored, hdone⟩ := runStep_env s (.query question) q
    cases hnone : (Step.query question).stored? s q with
    | none => rw [hstored, hnone]; rfl
    | some b => exact absurd (hdone.1 (by rw [hnone]; rfl)).2 hfail

/-- What a run starts with: the variables of a new run, and whatever files, replies and events
there are. -/
def Progress.fresh (folder : String) (fs : FileSystem) (replies : List String)
    (events : List Event) : Progress where
  fs := fs
  env := Environment.initial folder
  replies := replies
  events := events

/-- At every step that a run comes to, behind it, and behind the run, every built-in value stands
under its own name. The steps that a run comes to are those that it visits, and every question with
a named validator among them is validated, behind the steps that are visited before it: it fails for
its validator exactly if the name is that of no validator or an earlier step has stored a text under
it, and if it stores a text, this comes from an answer that the validator of this name accepts. -/
theorem validators_are_never_skipped (s : Setting) (script : List Instruction) (folder : String)
    (fs : FileSystem) (replies : List String) (events : List Event) :
    (∀ step q, Reaches s script (.fresh folder fs replies events) step q →
      q.env.OwnNames ∧ (runStep s step q).2.env.OwnNames) ∧
    (runAll s script (.fresh folder fs replies events)).2.env.OwnNames ∧
    (∀ step q, Reaches s script (.fresh folder fs replies events) step q ↔
      (step, q) ∈ visitsAll s script (.fresh folder fs replies events)) ∧
    ∀ front question q back name,
      visitsAll s script (.fresh folder fs replies events) =
        front ++ (.query question, q) :: back →
      question.validation = some name → Validated s front question name q := by
  have hinitial := Environment.ownNames_initial folder
  refine ⟨?_, ?_, ?_, ?_⟩
  · intro step q hreaches
    obtain ⟨front, back, hvisits⟩ := List.append_of_mem (mem_visitsAll_of_reaches hreaches)
    have hown : q.env.OwnNames := by
      rw [visitsAll_env s script _ hvisits]
      exact hinitial.setTexts _
    refine ⟨hown, ?_⟩
    rw [(runStep_env s step q).1]
    exact hown.setTexts _
  · rw [runAll_env]
    exact hinitial.setTexts _
  · intro step q
    exact ⟨mem_visitsAll_of_reaches, reaches_of_mem_visitsAll script _⟩
  · intro front question q back name hvisits hname
    exact validated (visitsAll_env s script _ hvisits) hname

/-- A question with a named validator. -/
def packageQuestion : Question where
  name := "package"
  prompt := "Package?"
  validation := some "isPackage"

/-- A question behind a group that binds the name of its validator. -/
def hidden : List Instruction :=
  [.group none [.step (some "true") (.define "isPackage" "x")],
    .step none (.query packageQuestion)]

theorem validators_are_never_skipped_of_hidden :
    ∃ front q, visitsAll unprepared hidden (.fresh "demo" {} ["a.b"] []) =
        front ++ [(.query packageQuestion, q)] ∧
      (runStep unprepared (.query packageQuestion) q).1 =
        .error (.unknownValidator "isPackage") := by
  obtain ⟨-, -, -, hquestions⟩ :=
    validators_are_never_skipped unprepared hidden "demo" {} ["a.b"] []
  have hshape : (visitsAll unprepared hidden (.fresh "demo" {} ["a.b"] [])).map
      (fun v => (v.1, (runStep unprepared v.1 v.2).1.toOption)) =
        [(.define "isPackage" "x", some ()), (.query packageQuestion, none)] := by decide +kernel
  obtain ⟨v, rest, hvisits, hfirst, hrest⟩ := List.map_eq_cons_iff.1 hshape
  obtain ⟨v', rest', hvisits', hsecond, hrest'⟩ := List.map_eq_cons_iff.1 hrest
  obtain ⟨hdefine, hdefined⟩ := Prod.mk.inj hfirst
  obtain ⟨step', q⟩ := v'
  obtain rfl : step' = .query packageQuestion := (Prod.mk.inj hsecond).1
  obtain rfl : rest' = [] := List.map_eq_nil_iff.1 hrest'
  have hall : visitsAll unprepared hidden (.fresh "demo" {} ["a.b"] []) =
      [v] ++ (.query packageQuestion, q) :: [] := by rw [hvisits, hvisits']; rfl
  refine ⟨[v], q, hall, ?_⟩
  -- The definition in the group has stored a text under the name of the validator.
  have hstored : StoredBefore unprepared [v] "isPackage" :=
    ⟨v, List.mem_singleton.2 rfl, by rw [hdefine]; rfl, eq_ok_of_toOption hdefined⟩
  exact ((hquestions [v] packageQuestion q [] "isPackage" hall rfl).unknown none rfl).2
    (.inr hstored)

end Scaffold
