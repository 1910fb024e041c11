import Scaffold.Proofs.Script.Reaching

/-! # Supplied and typed answers

  An answer can be supplied before a run, or typed when the question is asked.
  Unless a supplied answer is rejected, a run with supplied answers has a twin
  without any, where they are typed in reply to the questions.

  - `typedReplies`: the replies, with each supplied answer put where the run
    comes to its question.
  - `Twin`: two runs that differ in the questions with supplied answers only.
  - `supplied_answers_can_be_typed`: the twin of a run.
-/

namespace Scaffold

variable {s : Setting} {p p' : Progress} {left : List String}

/-! ### The replies of the twin -/

/-- The same setting without answers. -/
def Setting.unanswered (s : Setting) : Setting := { s with answers := {} }

/-- The replies that a part of a run from `p` to `q` has used up. -/
def Progress.taken (p q : Progress) : List String :=
  p.replies.take (p.replies.length - q.replies.length)

/-- What is typed at a step: a supplied answer, or the replies that a question takes. -/
def Step.typed (s : Setting) (step : Step) (p : Progress) : List String :=
  match step with
  | .query question =>
    match s.answers.get? question.name with
    | some answer => [answer]
    | none => p.taken (runQuery s question p).2
  | _ => []

mutual

/-- What is typed while an instruction runs. -/
def Instruction.typed (s : Setting) : Instruction → Progress → List String
  | .step condition step, p =>
    match isOpen p.env condition with
    | .ok true => step.typed s p
    | _ => []
  | .group condition children, p =>
    match isOpen p.env condition with
    | .ok true => typedAll s children p
    | _ => []

/-- What is typed while instructions run. -/
def typedAll (s : Setting) : List Instruction → Progress → List String
  | [], _ => []
  | instruction :: rest, p =>
    instruction.typed s p ++
      match runInstruction s instruction p with
      | (.ok (), q) => typedAll s rest q
      | (.error _, _) => []

end

/-- The replies of a run, with each supplied answer put where the run comes to its question. -/
def typedReplies (s : Setting) (script : List Instruction) (p : Progress) : List String :=
  typedAll s script p ++ (runAll s script p).2.replies

/-! ### Twins -/

/-- An event that asks for the value of a variable with a supplied answer. -/
def Event.asksSupplied (answers : Answers) : Event → Bool
  | .ask name _ _ => (answers.get? name).isSome
  | _ => false

/-- The second run is where the first one is. It has asked the questions of the first run and some
that have supplied answers. -/
structure Twin (s : Setting) (p p' : Progress) : Prop where
  /-- The files are the same. -/
  fs : p'.fs = p.fs
  /-- The variables are the same, in the same order. -/
  env : p'.env = p.env
  /-- The events are the same, but for questions with supplied answers. -/
  events : p'.events.filter (fun event => !event.asksSupplied s.answers) = p.events

/-- A part of the second run comes to what the part of the first run comes to, and if it does not
fail, it leaves the replies `left`. -/
structure Twins {α : Type} (s : Setting) (left : List String) (r r' : Except Error α × Progress) :
    Prop where
  /-- The result is the same. -/
  result : r'.1 = r.1
  /-- The second run is where the first one is. -/
  progress : Twin s r.2 r'.2
  /-- What has been typed is used up. -/
  replies : r.1.isOk → r'.2.replies = left

theorem Twin.emit {event : Event} (h : Twin s p p')
    (hevent : event.asksSupplied s.answers = false) :
    Twin s (p.emit event) (p'.emit event) where
  fs := h.fs
  env := h.env
  events := by
    unfold Progress.emit
    rw [List.filter_append, h.events]
    simp [hevent]

/-- Where both runs fail with the same error, they remain twins. -/
theorem Twin.failed {α : Type} (h : Twin s p p') (e : Error) :
    Twins (α := α) s left (.error e, p) (.error e, p') :=
  ⟨rfl, h, nofun⟩

/-- Operations on the same files do the same to both. -/
theorem Twin.settle {α : Type} (h : Twin s p p') (hleft : p'.replies = left)
    (r : Except Error α × FileSystem) : Twins s left (p.settle r) (p'.settle r) :=
  ⟨rfl, ⟨rfl, h.env, h.events⟩, fun _ => hleft⟩

/-! ### Questions -/

/-- Without an accepted reply all replies are used up. -/
theorem converse_of_none {question : Event} {validator : Option Builtin} {events : List Event}
    {replies rest : List String} (h : converse question validator replies = ⟨events, none, rest⟩) :
    rest = [] := by
  induction replies generalizing events with
  | nil =>
    cases h
    rfl
  | cons reply replies ih =>
    unfold converse at h
    split at h
    · cases h
    · obtain ⟨-, hanswer, hrest⟩ := Conversation.mk.inj h
      have hlater : converse question validator replies =
          ⟨(converse question validator replies).events, none, rest⟩ := by
        rw [← hanswer, ← hrest]
      exact ih hlater

/-- An accepted reply ends the conversation, whatever other replies are left. -/
theorem converse_of_some {question : Event} {validator : Option Builtin} {events : List Event}
    {answer : String} {replies rest : List String}
    (h : converse question validator replies = ⟨events, some answer, rest⟩) :
    ∃ used, replies = used ++ rest ∧
      ∀ left, converse question validator (used ++ left) = ⟨events, some answer, left⟩ := by
  induction replies generalizing events with
  | nil => cases h
  | cons reply replies ih =>
    unfold converse at h
    split at h
    · next haccept =>
      cases h
      refine ⟨[answer], rfl, fun left => ?_⟩
      rw [List.singleton_append, converse, haccept]
    · next reason hreject =>
      obtain ⟨rfl, hanswer, hrest⟩ := Conversation.mk.inj h
      have hlater : converse question validator replies =
          ⟨(converse question validator replies).events, some answer, rest⟩ := by
        rw [← hanswer, ← hrest]
      obtain ⟨used, hused, hmore⟩ := ih hlater
      refine ⟨reply :: used, congrArg (reply :: ·) hused, fun left => ?_⟩
      rw [List.cons_append, converse, hreject]
      dsimp only
      rw [hmore left]

/-- The replies that are used up come before those that are left. -/
theorem taken_of_append {used : List String} {q : Progress} (h : p.replies = used ++ q.replies) :
    p.taken q = used := by
  unfold Progress.taken
  rw [h, List.length_append, Nat.add_sub_cancel, List.take_left]

/-- A conversation about a variable without supplied answer asks for no other variable. -/
theorem asksSupplied_of_mem_converse {name prompt : String} {default : Option String}
    {validator : Option Builtin} {replies : List String} {event : Event}
    (hname : s.answers.get? name = none)
    (h : event ∈ (converse (.ask name prompt default) validator replies).events) :
    event.asksSupplied s.answers = false := by
  induction replies with
  | nil =>
    obtain rfl := List.mem_singleton.1 h
    simp [Event.asksSupplied, hname]
  | cons reply rest ih =>
    unfold converse at h
    split at h
    · obtain rfl := List.mem_singleton.1 h
      simp [Event.asksSupplied, hname]
    · rcases List.mem_cons.1 h with rfl | h
      · simp [Event.asksSupplied, hname]
      · rcases List.mem_cons.1 h with rfl | h
        · rfl
        · exact ih h

/-- The progress behind a conversation. -/
def Progress.heard (p : Progress) (c : Conversation) : Progress :=
  { p with replies := c.replies, events := p.events ++ c.events }

/-- What a conversation answers. -/
def Conversation.result (c : Conversation) (silence : PromptFault) : Except Error String :=
  match c.answer? with
  | some answer => .ok answer
  | none => .error (.prompt silence)

/-- Without a supplied answer the question is asked. -/
theorem obtain_of_none {question : Question} {default : Option String}
    {validator : Option Builtin} {c : Conversation} (h : s.answers.get? question.name = none)
    (hc : converse (.ask question.name question.prompt default) validator p.replies = c) :
    obtain s p question default validator = (c.result s.silence, p.heard c) := by
  unfold obtain Conversation.result
  rw [h]
  dsimp only
  rw [hc]
  cases c.answer? <;> rfl

/-- Both runs go on where their conversations end, if those differ in questions with supplied
answers only. -/
theorem Twin.heard {c c' : Conversation} (h : Twin s p p')
    (hevents : c'.events.filter (fun event => !event.asksSupplied s.answers) = c.events) :
    Twin s (p.heard c) (p'.heard c') where
  fs := h.fs
  env := h.env
  events := by
    unfold Progress.heard
    rw [List.filter_append, h.events, hevents]

/-- A conversation with supplied answers only is one that the first run does not have. -/
theorem Twin.overheard {c : Conversation} (h : Twin s p p')
    (hevents : c.events.filter (fun event => !event.asksSupplied s.answers) = []) :
    Twin s p (p'.heard c) where
  fs := h.fs
  env := h.env
  events := by
    unfold Progress.heard
    rw [List.filter_append, h.events, hevents, List.append_nil]

/-- A supplied answer that is accepted is accepted when it is typed. -/
theorem Twin.obtain_supplied {question : Question} {default : Option String}
    {validator : Option Builtin} {answer : String} (h : Twin s p p')
    (hanswer : s.answers.get? question.name = some answer)
    (haccept : rejection validator answer = none) (hreplies : p'.replies = answer :: left) :
    Twins s left (obtain s p question default validator)
      (obtain s.unanswered p' question default validator) := by
  have hsupplied : obtain s p question default validator = (.ok answer, p) := by
    unfold obtain
    rw [hanswer]
    dsimp only
    rw [haccept]
  have htalk : converse (.ask question.name question.prompt default) validator p'.replies =
      ⟨[.ask question.name question.prompt default], some answer, left⟩ := by
    rw [hreplies, converse, haccept]
  rw [hsupplied, obtain_of_none rfl htalk]
  refine ⟨rfl, h.overheard ?_, fun _ => rfl⟩
  simp [Event.asksSupplied, hanswer]

/-- A question without supplied answer is asked alike in both runs. -/
theorem Twin.obtain_asked {question : Question} {default : Option String}
    {validator : Option Builtin} (h : Twin s p p') (hnone : s.answers.get? question.name = none)
    (hreplies : p'.replies = p.taken (obtain s p question default validator).2 ++ left)
    (hend : (obtain s p question default validator).1.isOk = false →
      left = (obtain s p question default validator).2.replies) :
    Twins s left (obtain s p question default validator)
      (obtain s.unanswered p' question default validator) := by
  cases hc : converse (.ask question.name question.prompt default) validator p.replies with
  | mk events answer? rest =>
    -- The whole conversation belongs to the first run.
    have hfilter : events.filter (fun event => !event.asksSupplied s.answers) = events := by
      refine List.filter_eq_self.2 fun event hevent => ?_
      rw [asksSupplied_of_mem_converse hnone (by rw [hc]; exact hevent)]
      rfl
    rw [obtain_of_none hnone hc] at hreplies hend ⊢
    cases answer? with
    | none =>
      -- All replies are used up, and the twin has no other ones.
      obtain rfl := converse_of_none hc
      have hsame : p'.replies = p.replies := by
        rw [hreplies, hend rfl, taken_of_append (List.append_nil p.replies).symm]
        exact List.append_nil p.replies
      rw [← hsame] at hc
      rw [obtain_of_none rfl hc]
      exact ⟨rfl, h.heard hfilter, nofun⟩
    | some answer =>
      obtain ⟨used, hused, hmore⟩ := converse_of_some hc
      have htyped : p'.replies = used ++ left := by rw [hreplies, taken_of_append hused]
      rw [obtain_of_none rfl ((congrArg _ htyped).trans (hmore left))]
      exact ⟨rfl, h.heard hfilter, fun _ => rfl⟩

/-- What is made of an obtained answer. -/
def Question.store (question : Question) (r : Except Error String × Progress) : Outcome :=
  match r with
  | (.error e, p) => (.error e, p)
  | (.ok answer, p) =>
    match transformed p.env question.transform answer with
    | .error e => (.error e, p)
    | .ok value => (.ok (), { p with env := p.env.setText question.name value })

/-- A question that can be asked obtains an answer and stores it. -/
theorem runQuery_eq {question : Question} {default : Option String} {validator : Option Builtin}
    (s : Setting) (hdefault : suggestion p.env question.default = .ok default)
    (hvalidator : namedValidator p.env question.validation = .ok validator) :
    runQuery s question p = question.store (obtain s p question default validator) := by
  unfold runQuery
  rw [hdefault]
  dsimp only
  rw [hvalidator]
  rfl

/-- Storing an answer neither asks nor uses up replies. -/
theorem Question.store_spec (question : Question) (r : Except Error String × Progress) :
    (question.store r).2.replies = r.2.replies ∧ (question.store r).2.events = r.2.events := by
  obtain ⟨result, q⟩ := r
  cases result with
  | error e => exact ⟨rfl, rfl⟩
  | ok answer =>
    unfold store
    dsimp only
    split <;> exact ⟨rfl, rfl⟩

/-- Both runs store the same for an answer that they both have obtained. -/
theorem Twins.store {r r' : Except Error String × Progress} (h : Twins s left r r')
    (question : Question) : Twins s left (question.store r) (question.store r') := by
  obtain ⟨result, q⟩ := r
  obtain ⟨result', q'⟩ := r'
  obtain ⟨hresult, hq, hleft⟩ := h
  obtain rfl : result' = result := hresult
  cases result' with
  | error e => exact hq.failed e
  | ok answer =>
    have henv : q'.env = q.env := hq.env
    unfold Question.store
    dsimp only
    rw [henv]
    cases transformed q.env question.transform answer with
    | error e => exact hq.failed e
    | ok value => exact ⟨rfl, ⟨hq.fs, rfl, hq.events⟩, fun _ => hleft rfl⟩

/-- A question comes to the same in both runs. -/
theorem Twin.runQuery {question : Question} (h : Twin s p p')
    (hreplies : p'.replies = (Step.query question).typed s p ++ left)
    (hend : (runQuery s question p).1.isOk = false → left = (runQuery s question p).2.replies)
    (haccepted : ∀ name answer reason,
      (runQuery s question p).1 ≠ .error (.rejectedAnswer name answer reason)) :
    Twins s left (runQuery s question p) (runQuery s.unanswered question p') := by
  -- The suggestion and the validator depend on the variables only, which are the same.
  cases hdefault : suggestion p.env question.default with
  | error e =>
    unfold Scaffold.runQuery
    rw [h.env, hdefault]
    exact h.failed e
  | ok default =>
    cases hvalidator : namedValidator p.env question.validation with
    | error e =>
      unfold Scaffold.runQuery
      rw [h.env, hdefault]
      dsimp only
      rw [hvalidator]
      exact h.failed e
    | ok validator =>
      have htyped : Scaffold.runQuery s.unanswered question p' =
          question.store (obtain s.unanswered p' question default validator) :=
        runQuery_eq s.unanswered (by rwa [h.env]) (by rwa [h.env])
      rw [htyped, runQuery_eq s hdefault hvalidator]
      rw [runQuery_eq s hdefault hvalidator] at hend haccepted
      refine Twins.store ?_ question
      unfold Step.typed at hreplies
      cases hanswer : s.answers.get? question.name with
      | some answer =>
        simp only [hanswer, List.singleton_append] at hreplies
        refine h.obtain_supplied hanswer ?_ hreplies
        -- The first run would have failed at an answer that is rejected.
        cases hreject : rejection validator answer with
        | none => rfl
        | some reason =>
          refine absurd ?_ (haccepted question.name answer reason)
          simp only [obtain, hanswer, hreject, Question.store]
      | none =>
        simp only [hanswer] at hreplies
        rw [runQuery_eq s hdefault hvalidator] at hreplies
        refine h.obtain_asked hanswer ?_ fun hfailed => ?_
        · rw [hreplies]
          unfold Progress.taken
          rw [(question.store_spec _).1]
        · rw [hend ?_, (question.store_spec _).1]
          cases hr : obtain s p question default validator with
          | mk result q =>
            rw [hr] at hfailed
            cases result with
            | error e => rfl
            | ok answer => cases hfailed

/-! ### Runs -/

/-- A step comes to the same in both runs. -/
theorem Twin.runStep {step : Step} (h : Twin s p p')
    (hreplies : p'.replies = step.typed s p ++ left)
    (hend : (runStep s step p).1.isOk = false → left = (runStep s step p).2.replies)
    (haccepted : ∀ name answer reason,
      (runStep s step p).1 ≠ .error (.rejectedAnswer name answer reason)) :
    Twins s left (runStep s step p) (runStep s.unanswered step p') := by
  cases step with
  | inform message =>
    unfold Scaffold.runStep
    dsimp only
    rw [h.env]
    cases expandText p.env message with
    | error e => exact h.failed e
    | ok text => exact ⟨rfl, h.emit rfl, fun _ => hreplies⟩
  | query question => exact h.runQuery hreplies hend haccepted
  | define name value =>
    unfold Scaffold.runStep
    dsimp only
    rw [h.env]
    cases expandText p.env value with
    | error e => exact h.failed e
    | ok text => exact ⟨rfl, ⟨h.fs, rfl, h.events⟩, fun _ => hreplies⟩
  | process =>
    unfold Scaffold.runStep
    dsimp only
    rw [h.env, h.fs]
    exact (h.emit rfl).settle hreplies _
  | move source target description =>
    unfold Scaffold.runStep
    dsimp only
    rw [h.env, h.fs]
    cases expandText p.env target with
    | error e => exact h.failed e
    | ok directory => exact (h.emit rfl).settle hreplies _
  | rename file name description =>
    unfold Scaffold.runStep
    dsimp only
    rw [h.env, h.fs]
    cases expandText p.env name with
    | error e => exact h.failed e
    | ok newName => exact (h.emit rfl).settle hreplies _
  | delete files description =>
    unfold Scaffold.runStep
    dsimp only
    rw [h.fs]
    exact (h.emit rfl).settle hreplies _

mutual

theorem Twin.runInstruction {p p' : Progress} {left : List String} (instruction : Instruction)
    (h : Twin s p p') (hreplies : p'.replies = instruction.typed s p ++ left)
    (hend : (runInstruction s instruction p).1.isOk = false →
      left = (runInstruction s instruction p).2.replies)
    (haccepted : ∀ name answer reason,
      (runInstruction s instruction p).1 ≠ .error (.rejectedAnswer name answer reason)) :
    Twins s left (runInstruction s instruction p)
      (runInstruction s.unanswered instruction p') := by
  cases instruction with
  | step condition step =>
    rw [Instruction.typed] at hreplies
    rw [Scaffold.runInstruction] at hend haccepted ⊢
    rw [Scaffold.runInstruction, h.env]
    cases hopen : isOpen p.env condition with
    | error e => exact h.failed e
    | ok verdict =>
      rw [hopen] at hreplies hend haccepted
      cases verdict with
      | false => exact ⟨rfl, h, fun _ => hreplies⟩
      | true => exact h.runStep hreplies hend haccepted
  | group condition children =>
    rw [Instruction.typed] at hreplies
    rw [Scaffold.runInstruction] at hend haccepted ⊢
    rw [Scaffold.runInstruction, h.env]
    cases hopen : isOpen p.env condition with
    | error e => exact h.failed e
    | ok verdict =>
      rw [hopen] at hreplies hend haccepted
      cases verdict with
      | false => exact ⟨rfl, h, fun _ => hreplies⟩
      | true => exact Twin.runAll children h hreplies hend haccepted

/-- A script comes to the same in both runs, if the second one is typed what the first one reads. -/
theorem Twin.runAll {p p' : Progress} {left : List String} (script : List Instruction)
    (h : Twin s p p') (hreplies : p'.replies = typedAll s script p ++ left)
    (hend : (runAll s script p).1.isOk = false → left = (runAll s script p).2.replies)
    (haccepted : ∀ name answer reason,
      (runAll s script p).1 ≠ .error (.rejectedAnswer name answer reason)) :
    Twins s left (runAll s script p) (runAll s.unanswered script p') := by
  cases script with
  | nil =>
    rw [Scaffold.runAll, Scaffold.runAll]
    rw [typedAll] at hreplies
    exact ⟨rfl, h, fun _ => hreplies⟩
  | cons instruction rest =>
    rw [typedAll, List.append_assoc] at hreplies
    rw [Scaffold.runAll] at hend haccepted ⊢
    rw [Scaffold.runAll]
    cases hfirst : Scaffold.runInstruction s instruction p with
    | mk result q =>
      cases hsecond : Scaffold.runInstruction s.unanswered instruction p' with
      | mk result' q' =>
        rw [hfirst] at hreplies hend haccepted
        cases result with
        | error e =>
          -- The run ends here, and so does what is typed.
          have htwins := Twin.runInstruction instruction h hreplies (by rw [hfirst]; exact hend)
            (by rw [hfirst]; exact haccepted)
          rw [hfirst, hsecond] at htwins
          obtain rfl : result' = .error e := htwins.result
          exact htwins.progress.failed e
        | ok =>
          have htwins := Twin.runInstruction instruction h hreplies (by rw [hfirst]; exact nofun)
            (by rw [hfirst]; exact nofun)
          rw [hfirst, hsecond] at htwins
          obtain rfl : result' = .ok () := htwins.result
          exact Twin.runAll rest htwins.progress (htwins.replies rfl) hend haccepted

end

/-! ### What is typed and what is asked -/

/-- A question fails before it is asked, or it obtains an answer and stores it. -/
theorem runQuery_cases (s : Setting) (question : Question) (p : Progress) :
    (∃ e, runQuery s question p = (.error e, p)) ∨
      ∃ default validator,
        runQuery s question p = question.store (obtain s p question default validator) := by
  cases hdefault : suggestion p.env question.default with
  | error e =>
    refine .inl ⟨e, ?_⟩
    unfold runQuery
    rw [hdefault]
  | ok default =>
    cases hvalidator : namedValidator p.env question.validation with
    | error e =>
      refine .inl ⟨e, ?_⟩
      unfold runQuery
      rw [hdefault]
      dsimp only
      rw [hvalidator]
    | ok validator => exact .inr ⟨default, validator, runQuery_eq s hdefault hvalidator⟩

/-- A question whose answer is supplied is not asked. -/
theorem runQuery_of_some {question : Question} {answer : String} (p : Progress)
    (hanswer : s.answers.get? question.name = some answer) :
    (runQuery s question p).2.replies = p.replies ∧
      (runQuery s question p).2.events = p.events := by
  rcases runQuery_cases s question p with ⟨e, h⟩ | ⟨default, validator, h⟩
  · rw [h]
    exact ⟨rfl, rfl⟩
  · have hsame : (obtain s p question default validator).2 = p := by
      unfold obtain
      rw [hanswer]
      dsimp only
      split <;> rfl
    obtain ⟨hreplies, hevents⟩ := question.store_spec (obtain s p question default validator)
    rw [h, hreplies, hevents, hsame]
    exact ⟨rfl, rfl⟩

/-- A question that is asked uses up replies at the beginning. -/
theorem runQuery_of_none {question : Question} (p : Progress)
    (hnone : s.answers.get? question.name = none) :
    p.taken (runQuery s question p).2 ++ (runQuery s question p).2.replies = p.replies := by
  rcases runQuery_cases s question p with ⟨e, h⟩ | ⟨default, validator, h⟩
  · rw [h, taken_of_append (List.nil_append p.replies).symm]
    rfl
  · obtain ⟨used, hused⟩ : ∃ used, p.replies = used ++ (runQuery s question p).2.replies := by
      rw [h, (question.store_spec _).1]
      cases hc : converse (.ask question.name question.prompt default) validator p.replies with
      | mk events answer? rest =>
        rw [obtain_of_none hnone hc]
        cases answer? with
        | none =>
          rw [converse_of_none hc]
          exact ⟨p.replies, (List.append_nil p.replies).symm⟩
        | some answer =>
          obtain ⟨used, hused, -⟩ := converse_of_some hc
          exact ⟨used, hused⟩
    rw [taken_of_append hused, ← hused]

/-- Steps other than questions use up no replies and ask nothing. -/
theorem runStep_of_no_query {step : Step} (p : Progress)
    (hstep : ∀ question, step ≠ .query question) :
    (runStep s step p).2.replies = p.replies ∧
      ∀ event ∈ (runStep s step p).2.events, event ∈ p.events ∨
        ∀ name prompt default, event ≠ .ask name prompt default := by
  have hemit : ∀ last : Event, (∀ name prompt default, last ≠ .ask name prompt default) →
      ∀ event ∈ (p.emit last).events, event ∈ p.events ∨
        ∀ name prompt default, event ≠ .ask name prompt default := by
    intro last hlast event hevent
    refine (List.mem_append.1 hevent).imp_right fun hmem => ?_
    rw [List.mem_singleton.1 hmem]
    exact hlast
  unfold runStep
  cases step with
  | inform message =>
    dsimp only
    split
    · exact ⟨rfl, fun _ => .inl⟩
    · exact ⟨rfl, hemit _ nofun⟩
  | query question => exact absurd rfl (hstep question)
  | define name value =>
    dsimp only
    split <;> exact ⟨rfl, fun _ => .inl⟩
  | process => exact ⟨rfl, hemit _ nofun⟩
  | move source target description =>
    dsimp only
    split
    · exact ⟨rfl, fun _ => .inl⟩
    · exact ⟨rfl, hemit _ nofun⟩
  | rename file name description =>
    dsimp only
    split
    · exact ⟨rfl, fun _ => .inl⟩
    · exact ⟨rfl, hemit _ nofun⟩
  | delete files description => exact ⟨rfl, hemit _ nofun⟩

/-- What is typed at a step adds to the replies that the step uses up. -/
theorem Step.typed_sublist (s : Setting) (step : Step) (p : Progress) :
    p.replies.Sublist (step.typed s p ++ (runStep s step p).2.replies) := by
  by_cases hstep : ∃ question, step = .query question
  · obtain ⟨question, rfl⟩ := hstep
    show p.replies.Sublist (_ ++ (runQuery s question p).2.replies)
    unfold typed
    cases hanswer : s.answers.get? question.name with
    | some answer =>
      simp only [hanswer, (runQuery_of_some p hanswer).1]
      exact List.sublist_append_right _ _
    | none =>
      simp only [hanswer, runQuery_of_none p hanswer]
      exact List.Sublist.refl _
  · rw [(runStep_of_no_query p fun question h => hstep ⟨question, h⟩).1]
    exact List.sublist_append_right _ _

mutual

theorem Instruction.typed_sublist (s : Setting) (instruction : Instruction) (p : Progress) :
    p.replies.Sublist (instruction.typed s p ++ (runInstruction s instruction p).2.replies) := by
  cases instruction with
  | step condition step =>
    rw [Instruction.typed, runInstruction]
    cases isOpen p.env condition with
    | error e => exact List.Sublist.refl _
    | ok verdict =>
      cases verdict with
      | false => exact List.Sublist.refl _
      | true => exact step.typed_sublist s p
  | group condition children =>
    rw [Instruction.typed, runInstruction]
    cases isOpen p.env condition with
    | error e => exact List.Sublist.refl _
    | ok verdict =>
      cases verdict with
      | false => exact List.Sublist.refl _
      | true => exact sublist_typedReplies s children p

/-- The replies of the twin are those of the run with supplied answers put between them. -/
theorem sublist_typedReplies (s : Setting) (script : List Instruction) (p : Progress) :
    p.replies.Sublist (typedReplies s script p) := by
  unfold typedReplies
  cases script with
  | nil =>
    rw [typedAll, runAll]
    exact List.Sublist.refl _
  | cons instruction rest =>
    have hfirst := Instruction.typed_sublist s instruction p
    rw [typedAll, runAll]
    cases hr : runInstruction s instruction p with
    | mk result q =>
      rw [hr] at hfirst
      cases result with
      | error e =>
        dsimp only
        rw [List.append_nil]
        exact hfirst
      | ok =>
        dsimp only
        rw [List.append_assoc]
        exact hfirst.trans ((List.Sublist.refl _).append (sublist_typedReplies s rest q))

end

/-- Where the answers to all questions that a run comes to are supplied, the run asks nothing. -/
theorem runAll_asks_nothing (script : List Instruction) (p : Progress)
    (hsupplied : ∀ question q, Reaches s script p (.query question) q →
      (s.answers.get? question.name).isSome) :
    ∀ event ∈ (runAll s script p).2.events, event ∈ p.events ∨
      ∀ name prompt default, event ≠ .ask name prompt default := by
  refine runAll_keeps (P := fun q => ∀ event ∈ q.events, event ∈ p.events ∨
    ∀ name prompt default, event ≠ .ask name prompt default) script p ?_ fun _ => .inl
  intro step q hreaches hq event hevent
  by_cases hstep : ∃ question, step = .query question
  · obtain ⟨question, rfl⟩ := hstep
    obtain ⟨answer, hanswer⟩ := Option.isSome_iff_exists.1 (hsupplied question q hreaches)
    exact hq event ((runQuery_of_some q hanswer).2 ▸ hevent)
  · rcases (runStep_of_no_query q fun question h => hstep ⟨question, h⟩).2 event hevent with
      hold | hother
    · exact hq event hold
    · exact .inr hother

/-- Every value but a map is the same as no answers. -/
theorem Answers.ofContent_of_not_map {c : Content} (h : ∀ entries, c ≠ .map entries) :
    Answers.ofContent c = {} := by
  cases c with
  | map entries => exact absurd rfl (h entries)
  | scalar scalar => rfl
  | list items => rfl

/-- Unless a supplied answer is rejected, a run with supplied answers has a twin without any, where
they are typed: among the replies, which keep their order, each of them is put where the run comes
to its question. The twin comes to the same result, the same variables in the same order and the
same files. Its events are those of the run and questions with supplied answers. If the answers to
all questions that a run comes to are supplied, the run asks nothing. Answers that are no map are
the same as none. -/
theorem supplied_answers_can_be_typed (s : Setting) (script : List Instruction) (fs : FileSystem)
    (env : Environment) (replies : List String) :
    ((∀ name answer reason, (runAll s script { fs, env, replies }).1 ≠
        .error (.rejectedAnswer name answer reason)) →
      replies.Sublist (typedReplies s script { fs, env, replies }) ∧
      ∃ q, runAll s.unanswered script
            { fs, env, replies := typedReplies s script { fs, env, replies } } =
          ((runAll s script { fs, env, replies }).1, q) ∧
        q.env = (runAll s script { fs, env, replies }).2.env ∧
        q.fs = (runAll s script { fs, env, replies }).2.fs ∧
        q.events.filter (fun event => !event.asksSupplied s.answers) =
          (runAll s script { fs, env, replies }).2.events) ∧
    ((∀ question q, Reaches s script { fs, env, replies } (.query question) q →
        (s.answers.get? question.name).isSome) →
      ∀ name prompt default, .ask name prompt default ∉
        (runAll s script { fs, env, replies }).2.events) ∧
    ∀ c : Content, (∀ entries, c ≠ .map entries) →
      runAll { s with answers := Answers.ofContent c } script { fs, env, replies } =
        runAll s.unanswered script { fs, env, replies } := by
  refine ⟨fun haccepted => ⟨sublist_typedReplies s script { fs, env, replies }, ?_⟩,
    fun hsupplied => ?_, ?_⟩
  · have hstart : Twin s { fs, env, replies }
        { fs, env, replies := typedReplies s script { fs, env, replies } } := ⟨rfl, rfl, rfl⟩
    have htwins := hstart.runAll script rfl (fun _ => rfl) haccepted
    cases htyped : runAll s.unanswered script
        { fs, env, replies := typedReplies s script { fs, env, replies } } with
    | mk result q =>
      rw [htyped] at htwins
      obtain rfl : result = (runAll s script { fs, env, replies }).1 := htwins.result
      exact ⟨q, rfl, htwins.progress.env, htwins.progress.fs, htwins.progress.events⟩
  · intro name prompt default hmem
    rcases runAll_asks_nothing script _ hsupplied _ hmem with hnil | hother
    · cases hnil
    · exact hother name prompt default rfl
  · intro c hc
    rw [Answers.ofContent_of_not_map hc]
    rfl

/-! ### A run with one supplied answer -/

/-- A question that takes no blank answer, and one in a group. -/
def twoQuestions : List Instruction :=
  [.step none (.query ⟨"title", "Title", none, some "isNotEmpty", none⟩),
    .group (some "true") [.step none (.query ⟨"version", "Version", none, none, none⟩)]]

/-- Only the answer to the second question is supplied. -/
def versionSupplied : Setting := { root := ⟨"stage"⟩, answers := ⟨[("version", "1")]⟩ }

/-- The answers to both questions are supplied. -/
def bothSupplied : Setting :=
  { root := ⟨"stage"⟩, answers := ⟨[("title", "Demo"), ("version", "1")]⟩ }

/-- Where the runs of the two questions begin. -/
def beforeQuestions (replies : List String) : Progress :=
  { fs := {}, env := Environment.initial "demo", replies }

theorem supplied_answers_can_be_typed_of_twoQuestions :
    (∃ q, runAll versionSupplied.unanswered twoQuestions (beforeQuestions ["", "Demo", "1"]) =
        (.ok (), q) ∧
      q.env = (runAll versionSupplied twoQuestions (beforeQuestions ["", "Demo"])).2.env) ∧
    (∀ name prompt default, .ask name prompt default ∉
      (runAll bothSupplied twoQuestions (beforeQuestions [])).2.events) ∧
    runAll { versionSupplied with answers := Answers.ofContent (.scalar (.text "version")) }
        twoQuestions (beforeQuestions []) =
      runAll versionSupplied.unanswered twoQuestions (beforeQuestions []) := by
  refine ⟨?_, ?_, ?_⟩
  · have hok : (runAll versionSupplied twoQuestions (beforeQuestions ["", "Demo"])).1 = .ok () := by
      have hends : (runAll versionSupplied twoQuestions
          (beforeQuestions ["", "Demo"])).1.isOk = true := by
        decide +kernel
      cases hr : (runAll versionSupplied twoQuestions (beforeQuestions ["", "Demo"])).1 with
      | error e =>
        rw [hr] at hends
        cases hends
      | ok => rfl
    have htyped : typedReplies versionSupplied twoQuestions (beforeQuestions ["", "Demo"]) =
        ["", "Demo", "1"] := by
      decide +kernel
    obtain ⟨-, q, hq, henv, -, -⟩ := (supplied_answers_can_be_typed versionSupplied twoQuestions {}
      (Environment.initial "demo") ["", "Demo"]).1 fun name answer reason h => by
        cases hok.symm.trans h
    refine ⟨q, ?_, henv⟩
    rw [← hok, ← htyped]
    exact hq
  · refine (supplied_answers_can_be_typed bothSupplied twoQuestions {} (Environment.initial "demo")
      []).2.1 fun question q hreaches => ?_
    have hmem := hreaches.mem_allSteps
    simp only [twoQuestions, allSteps, Instruction.steps, List.append_nil, List.singleton_append,
      List.mem_cons, Step.query.injEq, List.not_mem_nil, or_false] at hmem
    rcases hmem with rfl | rfl <;> decide
  · refine (supplied_answers_can_be_typed versionSupplied twoQuestions {}
      (Environment.initial "demo") []).2.2 _ fun entries h => ?_
    cases h

end Scaffold
