import Scaffold.Proofs.Script.Answering

/-! # How often a question is asked

  A question that has no supplied answer is asked again after every reply that
  the validator rejects, and never after one that it accepts. So the events tell
  how many replies have been used up, and only an accepted answer is stored.

  - `complaint`, `rejection_eq`: what a validator has to say about a reply.
  - `dialogue`: the events of a question that is asked several times.
  - `converse_accepted`, `converse_rejected`: the two ends of a conversation.
  - `StoresAnswer`: what becomes of an accepted answer.
  - `question_asked_until_accepted`: the course of a question.
-/

namespace Scaffold

variable {s : Setting} {p q : Progress} {question : Question} {validator : Option Builtin}
  {ask : Event} {reply accepted : String} {front rest replies reasons : List String}

/-! ### Complaints -/

/-- The message of a validator about a reply. It is empty if the reply is accepted, and if there is
no validator. -/
def complaint (validator : Option Builtin) (reply : String) : String :=
  (validator.map fun builtin => builtin.call reply).getD ""

/-- A reply is rejected for a message that is not empty. -/
theorem rejection_eq (validator : Option Builtin) (reply : String) :
    rejection validator reply =
      if complaint validator reply = "" then none else some (complaint validator reply) := by
  cases validator with
  | none => rfl
  | some builtin => rfl

theorem rejection_of_accepted (h : complaint validator reply = "") :
    rejection validator reply = none := by
  rw [rejection_eq, if_pos h]

theorem rejection_of_rejected (h : complaint validator reply ≠ "") :
    rejection validator reply = some (complaint validator reply) := by
  rw [rejection_eq, if_neg h]

/-- Replies are rejected up to the first accepted one, or all of them are. -/
theorem exists_first_accepted (validator : Option Builtin) (replies : List String) :
    (∃ front accepted rest, replies = front ++ accepted :: rest ∧
      (∀ reply ∈ front, complaint validator reply ≠ "") ∧ complaint validator accepted = "") ∨
    ∀ reply ∈ replies, complaint validator reply ≠ "" := by
  induction replies with
  | nil => exact .inr nofun
  | cons reply replies ih =>
    by_cases haccept : complaint validator reply = ""
    · exact .inl ⟨[], reply, replies, rfl, nofun, haccept⟩
    · rcases ih with ⟨front, accepted, rest, rfl, hfront, haccepted⟩ | hall
      · refine .inl ⟨reply :: front, accepted, rest, rfl, ?_, haccepted⟩
        exact List.forall_mem_cons.2 ⟨haccept, hfront⟩
      · exact .inr (List.forall_mem_cons.2 ⟨haccept, hall⟩)

/-! ### Conversations -/

/-- The events of a question that is asked, rejected for each of the reasons and asked again. -/
def dialogue (ask : Event) (reasons : List String) : List Event :=
  (reasons.flatMap fun reason => [ask, .reject reason]) ++ [ask]

theorem dialogue_cons (ask : Event) (reason : String) (reasons : List String) :
    dialogue ask (reason :: reasons) = ask :: .reject reason :: dialogue ask reasons := by
  simp [dialogue]

/-- The question is asked once more than it is rejected. -/
theorem count_dialogue (hask : ∀ reason, ask ≠ .reject reason) (reasons : List String) :
    (dialogue ask reasons).count ask = reasons.length + 1 := by
  induction reasons with
  | nil => simp [dialogue]
  | cons reason reasons ih =>
    have hreject : Event.reject reason ≠ ask := fun h => hask reason h.symm
    rw [dialogue_cons, List.count_cons_self, List.count_cons_of_ne hreject, ih, List.length_cons]

/-- A conversation ends with the first accepted reply. The replies behind it are left. -/
theorem converse_accepted (ask : Event) (hfront : ∀ reply ∈ front, complaint validator reply ≠ "")
    (haccepted : complaint validator accepted = "") :
    converse ask validator (front ++ accepted :: rest) =
      ⟨dialogue ask (front.map (complaint validator)), some accepted, rest⟩ := by
  induction front with
  | nil =>
    show converse ask validator (accepted :: rest) = ⟨[ask], some accepted, rest⟩
    rw [converse, rejection_of_accepted haccepted]
  | cons reply front ih =>
    obtain ⟨hreply, hlater⟩ := List.forall_mem_cons.1 hfront
    -- One question and one rejection come before what the other replies come to.
    rw [List.cons_append, converse, rejection_of_rejected hreply, ih hlater, List.map_cons,
      dialogue_cons]

/-- A conversation in which every reply is rejected ends with a question that has no reply. -/
theorem converse_rejected (ask : Event)
    (hall : ∀ reply ∈ replies, complaint validator reply ≠ "") :
    converse ask validator replies =
      ⟨dialogue ask (replies.map (complaint validator)), none, []⟩ := by
  induction replies with
  | nil =>
    rw [converse]
    rfl
  | cons reply replies ih =>
    obtain ⟨hreply, hlater⟩ := List.forall_mem_cons.1 hall
    rw [converse, rejection_of_rejected hreply, ih hlater, List.map_cons, dialogue_cons]

/-! ### Accepted answers -/

/-- What becomes of an accepted answer: it is stored as it is, or the transform is expanded with
`value` standing for the answer and its text is stored, or the transform cannot be expanded and
everything stays. -/
inductive StoresAnswer (question : Question) (answer : String) (q : Progress) : Outcome → Prop where
  /-- There is no transform. -/
  | asGiven (htransform : question.transform = none) :
    StoresAnswer question answer q (.ok (), { q with env := q.env.setText question.name answer })
  /-- The transform expands. -/
  | transformed {template text : String} (htransform : question.transform = some template)
    (htext : expandText (q.env.setText "value" answer) template = .ok text) :
    StoresAnswer question answer q (.ok (), { q with env := q.env.setText question.name text })
  /-- The transform does not expand. -/
  | untransformed {template : String} {e : Error} (htransform : question.transform = some template)
    (herror : expandText (q.env.setText "value" answer) template = .error e) :
    StoresAnswer question answer q (.error e, q)

theorem storesAnswer_store (question : Question) (answer : String) (q : Progress) :
    StoresAnswer question answer q (question.store (.ok answer, q)) := by
  unfold Question.store Scaffold.transformed
  cases htransform : question.transform with
  | none => exact .asGiven htransform
  | some template =>
    dsimp only
    cases htext : expandText (q.env.setText Environment.transformValue answer) template with
    | error e => exact .untransformed htransform htext
    | ok text => exact .transformed htransform htext

/-- A text that cannot be expanded fails as a template. -/
theorem expandText_error {env : Environment} {text : String} {e : Error}
    (h : expandText env text = .error e) : ∃ failure, e = .template failure := by
  unfold expandText at h
  split at h
  · cases h
  · next failure _ => exact ⟨failure, (Except.error.inj h).symm⟩

/-- Storing an accepted answer does not reject it. -/
theorem StoresAnswer.not_rejected {answer reason : String} {q' : Progress}
    (h : StoresAnswer question answer q
      (.error (.rejectedAnswer question.name answer reason), q')) :
    False := by
  generalize he : Error.rejectedAnswer question.name answer reason = e at h
  cases h with
  | untransformed htransform herror =>
    obtain ⟨failure, rfl⟩ := expandText_error herror
    cases he

/-- A question whose supplied answer is accepted stores it, and one whose supplied answer is
rejected fails. Neither asks anything. -/
theorem obtain_supplied {answer : String} (p : Progress) (default : Option String)
    (validator : Option Builtin) (hanswer : s.answers.get? question.name = some answer) :
    obtain s p question default validator =
      if complaint validator answer = "" then (.ok answer, p)
      else (.error (.rejectedAnswer question.name answer (complaint validator answer)), p) := by
  unfold obtain
  rw [hanswer]
  dsimp only
  rw [rejection_eq]
  by_cases haccept : complaint validator answer = ""
  · rw [if_pos haccept, if_pos haccept]
  · rw [if_neg haccept, if_neg haccept]

/-! ### The course of a question -/

/-- A question fails before it is asked if its suggestion does not expand or its validator is
unknown. Otherwise, if no answer is supplied, it is asked once for each reply up to the first one
that the validator accepts, which is then stored, and between these questions stand the messages
about the rejected replies; the replies behind it are left. If every reply is rejected, it is asked
once more than there are replies, and then fails with the variables as they were. A supplied answer
is stored in the same way if the validator accepts it, and else the question fails without having
been asked. -/
theorem question_asked_until_accepted (s : Setting) (question : Question) (p : Progress) :
    (∀ e, suggestion p.env question.default = .error e →
      runStep s (.query question) p = (.error e, p)) ∧
    (∀ default name, suggestion p.env question.default = .ok default →
      question.validation = some name → p.env.validator? name = none →
        runStep s (.query question) p = (.error (.unknownValidator name), p)) ∧
    ∀ default validator, suggestion p.env question.default = .ok default →
      namedValidator p.env question.validation = .ok validator →
      (s.answers.get? question.name = none →
        (∃ front accepted rest, p.replies = front ++ accepted :: rest ∧
          (∀ reply ∈ front, complaint validator reply ≠ "") ∧
          complaint validator accepted = "" ∧
          (dialogue (.ask question.name question.prompt default)
            (front.map (complaint validator))).count (.ask question.name question.prompt default) =
              front.length + 1 ∧
          StoresAnswer question accepted
            { p with
              replies := rest
              events := p.events ++ dialogue (.ask question.name question.prompt default)
                (front.map (complaint validator)) }
            (runStep s (.query question) p)) ∨
        ((∀ reply ∈ p.replies, complaint validator reply ≠ "") ∧
          (dialogue (.ask question.name question.prompt default)
            (p.replies.map (complaint validator))).count
              (.ask question.name question.prompt default) = p.replies.length + 1 ∧
          runStep s (.query question) p =
            (.error (.prompt s.silence),
              { p with
                replies := []
                events := p.events ++ dialogue (.ask question.name question.prompt default)
                  (p.replies.map (complaint validator)) }))) ∧
      ∀ answer, s.answers.get? question.name = some answer →
        (StoresAnswer question answer p (runStep s (.query question) p) ↔
          complaint validator answer = "") ∧
        (complaint validator answer ≠ "" → runStep s (.query question) p =
          (.error (.rejectedAnswer question.name answer (complaint validator answer)), p)) := by
  refine ⟨?_, ?_, ?_⟩
  · intro e hdefault
    show runQuery s question p = _
    unfold runQuery
    rw [hdefault]
  · intro default name hdefault hvalidation hunknown
    have hnamed : namedValidator p.env question.validation = .error (.unknownValidator name) := by
      rw [hvalidation, namedValidator, hunknown]
    show runQuery s question p = _
    unfold runQuery
    rw [hdefault]
    dsimp only
    rw [hnamed]
  · intro default validator hdefault hvalidator
    have hrun : runStep s (.query question) p =
        question.store (obtain s p question default validator) :=
      runQuery_eq s hdefault hvalidator
    have hcount : ∀ front : List String,
        (dialogue (.ask question.name question.prompt default)
          (front.map (complaint validator))).count (.ask question.name question.prompt default) =
            front.length + 1 := by
      intro front
      have hask : ∀ reason, Event.ask question.name question.prompt default ≠ .reject reason :=
        fun _ => nofun
      rw [count_dialogue hask, List.length_map]
    rw [hrun]
    constructor
    · intro hnone
      rcases exists_first_accepted validator p.replies with
        ⟨front, accepted, rest, hreplies, hfront, haccepted⟩ | hall
      · refine .inl ⟨front, accepted, rest, hreplies, hfront, haccepted, hcount front, ?_⟩
        have htalk : converse (.ask question.name question.prompt default) validator p.replies =
            ⟨_, some accepted, rest⟩ := hreplies ▸ converse_accepted _ hfront haccepted
        rw [obtain_of_none hnone htalk]
        exact storesAnswer_store question accepted _
      · refine .inr ⟨hall, hcount p.replies, ?_⟩
        rw [obtain_of_none hnone (converse_rejected _ hall)]
        rfl
    · intro answer hanswer
      rw [obtain_supplied p default validator hanswer]
      by_cases haccept : complaint validator answer = ""
      · rw [if_pos haccept]
        exact ⟨iff_of_true (storesAnswer_store question answer p) haccept, absurd haccept⟩
      · rw [if_neg haccept]
        exact ⟨iff_of_false StoresAnswer.not_rejected haccept, fun _ => rfl⟩

theorem eq_ok_of_toOption {ε α : Type} {r : Except ε α} {a : α} (h : r.toOption = some a) :
    r = .ok a := by
  cases r with
  | error e => cases h
  | ok b => rw [Option.some.inj h]

/-- A question that takes yes or no and stores a truth value. -/
def agreement : Question where
  name := "agreed"
  prompt := "Agreed?"
  default := some "no"
  validation := some "isYesNo"
  transform := some "$\x7b yesNoToBool(value) \x7d"

/-- A run without supplied answers. -/
def unprepared : Setting := { root := ⟨"stage"⟩ }

/-- The first reply is no answer to the question. -/
def hesitating : Progress where
  fs := {}
  env := Environment.initial "demo"
  replies := ["maybe", "Yes", "no"]

theorem question_asked_until_accepted_of_agreement :
    suggestion hesitating.env agreement.default = .ok (some "no") ∧
    namedValidator hesitating.env agreement.validation = .ok (some .isYesNo) ∧
    unprepared.answers.get? agreement.name = none ∧
    StoresAnswer agreement "Yes"
      { hesitating with
        replies := ["no"]
        events := [.ask "agreed" "Agreed?" (some "no"), .reject "Please answer yes or no",
          .ask "agreed" "Agreed?" (some "no")] }
      (runStep unprepared (.query agreement) hesitating) := by
  have hdefault : suggestion hesitating.env agreement.default = .ok (some "no") :=
    eq_ok_of_toOption (by decide +kernel)
  have hvalidator : namedValidator hesitating.env agreement.validation = .ok (some .isYesNo) :=
    eq_ok_of_toOption (by decide +kernel)
  refine ⟨hdefault, hvalidator, rfl, ?_⟩
  obtain ⟨-, -, hcourse⟩ := question_asked_until_accepted unprepared agreement hesitating
  obtain ⟨hasked, -⟩ := hcourse _ _ hdefault hvalidator
  have hmaybe : complaint (some .isYesNo) "maybe" = "Please answer yes or no" := by decide +kernel
  have hyes : complaint (some .isYesNo) "Yes" = "" := by decide +kernel
  rcases hasked rfl with
    ⟨front, accepted, rest, hreplies, hfront, haccepted, -, hstores⟩ | ⟨hall, -⟩
  · -- The first reply is rejected and the second one is accepted, so it is the second one.
    have hsplit : ["maybe", "Yes", "no"] = front ++ accepted :: rest := hreplies
    match front, hsplit, hfront, hstores with
    | [], hsplit, _, _ =>
      have hfirst : "maybe" = accepted := (List.cons.inj hsplit).1
      rw [← hfirst, hmaybe] at haccepted
      exact absurd haccepted (by decide)
    | [first], hsplit, _, hstores =>
      obtain ⟨hfirst, hsplit⟩ := List.cons.inj hsplit
      obtain ⟨hsecond, hrest⟩ := List.cons.inj hsplit
      rw [← hfirst, ← hsecond, ← hrest, List.map_singleton, hmaybe] at hstores
      exact hstores
    | first :: second :: more, hsplit, hfront, _ =>
      have hsecond : "Yes" = second := (List.cons.inj (List.cons.inj hsplit).2).1
      exact absurd hyes (hfront "Yes" (by simp [hsecond]))
  · exact absurd hyes (hall "Yes" (by decide))

end Scaffold
