import Scaffold.Proofs.Environment
import Scaffold.Proofs.Script.Asking
import Scaffold.Proofs.Script.Grouping
import Scaffold.Proofs.Template.Filling

/-! # Questions that open or close an instruction

  A question that takes yes or no and stores a truth value, before an instruction
  whose condition is the variable. The validator, the conversion, the call in the
  transform and the condition go by the same notion of yes: a reply that is not
  rejected opens the instruction if it means yes, and closes it if it means no.

  - `IsYes`, `IsNo`: what a reply means.
  - `evalExpr_call`, `expandText_truthTransform`: a call of a built-in, and a text that is one.
  - `Gated`: what an answer does to the run.
  - `yes_no_question_gates`: the question and the instruction.
-/

namespace Scaffold

/-! ### Yes and no -/

/-- The reply means yes, in any letter case and with blanks around it. -/
def IsYes (reply : String) : Prop :=
  Text.lowercase (Text.trim reply) ∈ ["yes", "y", "true"]

/-- The reply means no, in any letter case and with blanks around it. -/
def IsNo (reply : String) : Prop :=
  Text.lowercase (Text.trim reply) ∈ ["no", "n", "false"]

instance (reply : String) : Decidable (IsYes reply) := inferInstanceAs (Decidable (_ ∈ _))

instance (reply : String) : Decidable (IsNo reply) := inferInstanceAs (Decidable (_ ∈ _))

/-- No reply means both. -/
theorem IsNo.not_isYes {reply : String} (h : IsNo reply) : ¬ IsYes reply := by
  have hwords : ∀ word ∈ ["no", "n", "false"], word ∉ ["yes", "y", "true"] := by decide
  exact hwords _ h

theorem parseYesNo_eq (reply : String) : Builtin.parseYesNo reply =
    if IsYes reply then some true else if IsNo reply then some false else none := by
  unfold Builtin.parseYesNo
  simp only [IsYes, IsNo, List.mem_cons, List.not_mem_nil, or_false]

theorem complaint_some (builtin : Builtin) (reply : String) :
    complaint (some builtin) reply = builtin.call reply := rfl

/-- The validator rejects exactly what means neither yes nor no. -/
theorem complaint_isYesNo (reply : String) : complaint (some .isYesNo) reply =
    if IsYes reply ∨ IsNo reply then "" else "Please answer yes or no" := by
  rw [complaint_some, Builtin.call, Builtin.checkYesNo, parseYesNo_eq]
  by_cases hyes : IsYes reply
  · simp [hyes]
  · by_cases hno : IsNo reply <;> simp [hyes, hno]

theorem complaint_isYesNo_eq_empty {reply : String} :
    complaint (some .isYesNo) reply = "" ↔ IsYes reply ∨ IsNo reply := by
  rw [complaint_isYesNo]
  by_cases h : IsYes reply ∨ IsNo reply <;> simp [h]

theorem complaint_isYesNo_ne_empty {reply : String} :
    complaint (some .isYesNo) reply ≠ "" ↔ ¬ IsYes reply ∧ ¬ IsNo reply := by
  rw [Ne, complaint_isYesNo_eq_empty, not_or]

/-- All rejections have the same reason. -/
theorem map_complaint_isYesNo {replies : List String}
    (h : ∀ reply ∈ replies, ¬ IsYes reply ∧ ¬ IsNo reply) :
    replies.map (complaint (some .isYesNo)) = replies.map fun _ => "Please answer yes or no" := by
  refine List.map_congr_left fun reply hmem => ?_
  rw [complaint_isYesNo, if_neg (not_or.2 (h reply hmem))]

theorem call_yesNoToBool (reply : String) :
    Builtin.yesNoToBool.call reply = if IsYes reply then "true" else "false" := by
  rw [Builtin.call, Builtin.toTruth, parseYesNo_eq]
  by_cases hyes : IsYes reply
  · simp [hyes]
  · by_cases hno : IsNo reply <;> simp [hyes, hno]

/-- A truth value means what it is. -/
theorem isYes_call_yesNoToBool (reply : String) :
    IsYes (Builtin.yesNoToBool.call reply) ↔ IsYes reply := by
  have htrue : IsYes "true" := by decide +kernel
  have hfalse : ¬ IsYes "false" := by decide +kernel
  rw [call_yesNoToBool]
  by_cases hyes : IsYes reply <;> simp [hyes, htrue, hfalse]

/-- A truth value is an answer. -/
theorem accepted_call_yesNoToBool (reply : String) :
    IsYes (Builtin.yesNoToBool.call reply) ∨ IsNo (Builtin.yesNoToBool.call reply) := by
  have htrue : IsYes "true" := by decide +kernel
  have hfalse : IsNo "false" := by decide +kernel
  rw [call_yesNoToBool]
  by_cases hyes : IsYes reply <;> simp [hyes, htrue, hfalse]

theorem call_isYesNo_truth (reply : String) :
    Builtin.isYesNo.call (Builtin.yesNoToBool.call reply) = "" := by
  rw [← complaint_some]
  exact complaint_isYesNo_eq_empty.2 (accepted_call_yesNoToBool reply)

/-- The truth value of a truth value is itself. -/
theorem call_yesNoToBool_truth (reply : String) :
    Builtin.yesNoToBool.call (Builtin.yesNoToBool.call reply) =
      Builtin.yesNoToBool.call reply := by
  rw [call_yesNoToBool (Builtin.yesNoToBool.call reply)]
  simp only [isYes_call_yesNoToBool]
  exact (call_yesNoToBool reply).symm

/-! ### Calls of built-ins in texts -/

namespace Template

variable {host : Host} {calls : Calls} {m : Machine} {env : Environment}
variable {f a text : String} {b : Builtin}

/-- A built-in that is called with a text gives a text, and the state stays as it is. -/
theorem callName_builtin (hlookup : m.lookup host f = some (.function (.builtin f b)))
    (hf : f ≠ "super") (text : String) :
    callName host calls f [.ofText text] m = .ok (.ofText (b.call text), m) := by
  unfold callName
  rw [if_neg hf, bind_ok (get_eq m), hlookup]
  rfl

/-- A call with one name is the value of the built-in at what the name stands for. -/
theorem evalExpr_call (hlookup : m.lookup host f = some (.function (.builtin f b)))
    (hf : f ≠ "super") (hargument : m.lookup host a = some (.ofText text)) (line : Nat) :
    evalExpr host calls (.call (.var f line) [.positional (.var a line)] line) m =
      .ok (.ofText (b.call text), m) := by
  have hvalue : evalExpr host calls (.var a line) m = .ok (.ofText text, m) := by
    rw [evalExpr_var, hargument, Option.getD_some]
  have hpositions : evalPositions host calls [.positional (.var a line)] m =
      .ok ([(.ofText text, false)], m) := by
    rw [evalPositions, bind_ok hvalue, evalPositions]
    rfl
  have hnamed : evalNamed host calls [.positional (.var a line)] m = .ok ([], m) := by
    rw [evalNamed, evalNamed]
    rfl
  have hgiven : evalArgs host calls [.positional (.var a line)] m =
      .ok (⟨[(.ofText text, false)], []⟩, m) := by
    rw [evalArgs, bind_ok hpositions, bind_ok hnamed]
    rfl
  have hgather : (⟨[(.ofText text, false)], []⟩ : Arguments).gather m = .ok ([.ofText text], m) :=
    rfl
  rw [evalExpr, bind_ok hgiven]
  simp only [located, bind_ok hgather, callName_builtin hlookup hf text]

/-- The transform that turns an answer into a truth value. -/
def truthTransform : String := "$\x7b yesNoToBool(value) \x7d"

theorem parse_truthTransform (name : String) : Source.parse name truthTransform =
    .ok ⟨name, [.emit (.call (.var "yesNoToBool" 1) [.positional (.var "value" 1)] 1)], []⟩ := by
  with_unfolding_all rfl

/-- While the built-in is what its name says, the transform is the truth value of the answer. -/
theorem expandText_truthTransform (hb : env.get? "yesNoToBool" = some (.builtin .yesNoToBool))
    (hvalue : env.get? "value" = some (.text text)) :
    expandText env truthTransform = .ok (Builtin.yesNoToBool.call text) := by
  have hexpand : expand env truthTransform = .ok (Builtin.yesNoToBool.call text) := by
    refine renderNamed_wrote (parse_truthTransform inlineName) fun calls m htop => ?_
    have hfunction : m.lookup { context := contextOf env, load := fun _ => .missing }
        "yesNoToBool" = some (.function (.builtin "yesNoToBool" .yesNoToBool)) := by
      rw [htop.lookup_env rfl, hb]
      rfl
    have hargument : m.lookup { context := contextOf env, load := fun _ => .missing } "value" =
        some (.ofText text) := by
      rw [htop.lookup_env rfl, hvalue]
      rfl
    have htext : resultText (.ofText (Builtin.yesNoToBool.call text)) m =
        .ok ((Value.ofText (Builtin.yesNoToBool.call text)).render, m) :=
      resultText_render htop.escape (.inl ⟨_, rfl⟩)
    rw [evalBody_cons (evalStmt_emit htop (evalExpr_call hfunction (by decide) hargument 1) htext),
      evalBody, Value.ofText, Value.render]
    rfl
  rw [expandText, hexpand]

end Template

/-! ### The question and the condition -/

open Template

/-- The question takes yes or no, and stores a truth value. -/
structure IsYesNo (question : Question) : Prop where
  validation : question.validation = some "isYesNo"
  transform : question.transform = some truthTransform

/-- A script that asks a question and goes on with an instruction. -/
def Question.before (question : Question) (instruction : Instruction) (later : List Instruction) :
    List Instruction :=
  .step none (.query question) :: instruction :: later

/-- The condition that a variable is true. -/
def flagCondition (name : String) : String := "$\x7b " ++ name ++ " \x7d"

theorem markerFree_nil : MarkerFree [] := ⟨by decide, by decide, by decide⟩

/-- This condition as a text with a placeholder. -/
def flagLetter (name : String) (hname : IsIdentifier name) (hfree : name ∉ keywords) :
    FormLetter where
  lead := ""
  holes := [{
    before := " "
    name
    after := " "
    behind := ""
    before_blank := isInnerBlank_space
    after_blank := isInnerBlank_space
    name_identifier := hname
    name_free := hfree
    behind_free := markerFree_nil }]
  lead_free := markerFree_nil

/-- The condition on a variable holds if its text is `true`. -/
theorem isOpen_flagCondition {env : Environment} {name text : String} (hname : IsIdentifier name)
    (hfree : name ∉ keywords) (h : env.get? name = some (.text text)) :
    isOpen env (some (flagCondition name)) = .ok (text == "true") := by
  have htext : (flagLetter name hname hfree).text = flagCondition name := by
    rw [← String.toList_inj]
    simp [flagLetter, FormLetter.text, holesText, Hole.text, flagCondition]
  have hfilled : (flagLetter name hname hfree).filled (fun _ => text) = text := by
    simp [flagLetter, FormLetter.filled, holesFilled]
  have hexpand : expand env (flagCondition name) = .ok text := by
    rw [← htext, ← hfilled]
    refine renderNamed_filled _ inlineName fun hole hmem => ?_
    rw [List.mem_singleton.1 hmem]
    exact shown?_of_text h
  exact isOpen_of_expandText (by rw [expandText, hexpand])

/-- What an answer does to a run: it stores its truth value, and the instruction runs if that is
true. -/
inductive Gated (s : Setting) (name : String) (instruction : Instruction)
    (later : List Instruction) (answer : String) (q : Progress) : Outcome → Prop where
  /-- The answer means yes. -/
  | opened (hyes : IsYes answer) :
    Gated s name instruction later answer q
      (runAll s (instruction.unconditional :: later) { q with env := q.env.setText name "true" })
  /-- The answer means no. -/
  | closed (hno : IsNo answer) :
    Gated s name instruction later answer q
      (runAll s later { q with env := q.env.setText name "false" })

variable {s : Setting} {question : Question} {instruction : Instruction}
variable {later : List Instruction} {p q : Progress}

/-- The answer to a question that is asked is the first reply that means yes or no, and every reply
before it is rejected. Without such a reply there is no answer. -/
theorem obtain_asked {default : Option String} (hnone : s.answers.get? question.name = none) :
    (∃ front accepted rest, p.replies = front ++ accepted :: rest ∧
      (∀ reply ∈ front, ¬ IsYes reply ∧ ¬ IsNo reply) ∧ (IsYes accepted ∨ IsNo accepted) ∧
      obtain s p question default (some .isYesNo) = (.ok accepted,
        { p with
          replies := rest
          events := p.events ++ dialogue (.ask question.name question.prompt default)
            (front.map fun _ => "Please answer yes or no") })) ∨
    ((∀ reply ∈ p.replies, ¬ IsYes reply ∧ ¬ IsNo reply) ∧
      obtain s p question default (some .isYesNo) = (.error (.prompt s.silence),
        { p with
          replies := []
          events := p.events ++ dialogue (.ask question.name question.prompt default)
            (p.replies.map fun _ => "Please answer yes or no") })) := by
  rcases exists_first_accepted (some .isYesNo) p.replies with
    ⟨front, accepted, rest, hreplies, hrejected, haccepted⟩ | hrejected
  · have hfront : ∀ reply ∈ front, ¬ IsYes reply ∧ ¬ IsNo reply :=
      fun reply hmem => complaint_isYesNo_ne_empty.1 (hrejected reply hmem)
    have htalk : converse (.ask question.name question.prompt default) (some .isYesNo) p.replies =
        ⟨_, some accepted, rest⟩ := hreplies ▸ converse_accepted _ hrejected haccepted
    have hmeant : IsYes accepted ∨ IsNo accepted := complaint_isYesNo_eq_empty.1 haccepted
    refine .inl ⟨front, accepted, rest, hreplies, hfront, hmeant, ?_⟩
    rw [obtain_of_none hnone htalk, map_complaint_isYesNo hfront]
    rfl
  · have hall : ∀ reply ∈ p.replies, ¬ IsYes reply ∧ ¬ IsNo reply :=
      fun reply hmem => complaint_isYesNo_ne_empty.1 (hrejected reply hmem)
    refine .inr ⟨hall, ?_⟩
    rw [obtain_of_none hnone (converse_rejected _ hrejected), map_complaint_isYesNo hall]
    rfl

/-- Behind the question, the instruction is met with the truth value of the answer stored. -/
theorem gated_of_answer {answer : String} (hquestion : IsYesNo question)
    (hname : IsIdentifier question.name) (hfree : question.name ∉ keywords)
    (hcondition : instruction.condition = some (flagCondition question.name))
    (htruth : q.env.get? "yesNoToBool" = some (.builtin .yesNoToBool))
    (hanswer : IsYes answer ∨ IsNo answer) :
    Gated s question.name instruction later answer q
      (Outcome.andThen (question.store (.ok answer, q)) (runAll s (instruction :: later))) := by
  have htransformed : transformed q.env question.transform answer =
      .ok (Builtin.yesNoToBool.call answer) := by
    rw [hquestion.transform]
    refine expandText_truthTransform ?_ ?_
    · rw [Environment.setText, Environment.get?_set, if_neg (by decide), htruth]
    · rw [Environment.setText, Environment.get?_set]
      exact if_pos rfl
  have hstore : question.store (.ok answer, q) =
      (.ok (), { q with
        env := q.env.setText question.name (Builtin.yesNoToBool.call answer) }) := by
    unfold Question.store
    dsimp only
    rw [htransformed]
  have hopen : isOpen (q.env.setText question.name (Builtin.yesNoToBool.call answer))
      instruction.condition = .ok (Builtin.yesNoToBool.call answer == "true") := by
    rw [hcondition]
    refine isOpen_flagCondition hname hfree ?_
    rw [Environment.setText, Environment.get?_set, if_pos rfl]
  rw [hstore, Outcome.andThen, runAll_cons, runInstruction_eq]
  dsimp only
  rw [hopen, call_yesNoToBool]
  by_cases hyes : IsYes answer
  · rw [if_pos hyes]
    have hrun : Gated s question.name instruction later answer q _ := .opened hyes
    rw [runAll_cons] at hrun
    exact hrun
  · rw [if_neg hyes]
    exact .closed (hanswer.resolve_left hyes)

/-- A question for a truth value, before an instruction on the condition that it is true. If the
suggestion cannot be expanded, the run fails before anything is asked. Otherwise it rejects exactly
the replies that mean neither yes nor no, stores the truth value of the first other one, and goes on
with the instruction if that reply means yes and without it if it means no; if there is no other
reply, the run fails there. A supplied answer takes the place of the replies. The truth value of any
text is accepted, and is its own truth value. -/
theorem yes_no_question_gates (s : Setting) (question : Question) (instruction : Instruction)
    (later : List Instruction) (p : Progress) (hquestion : IsYesNo question)
    (hname : IsIdentifier question.name) (hfree : question.name ∉ keywords)
    (hcondition : instruction.condition = some (flagCondition question.name))
    (hvalidator : p.env.get? "isYesNo" = some (.builtin .isYesNo))
    (htruth : p.env.get? "yesNoToBool" = some (.builtin .yesNoToBool)) :
    (∀ e, suggestion p.env question.default = .error e →
      runAll s (question.before instruction later) p = (.error e, p)) ∧
    (∀ default, suggestion p.env question.default = .ok default →
      (s.answers.get? question.name = none →
        (∃ front accepted rest, p.replies = front ++ accepted :: rest ∧
          (∀ reply ∈ front, ¬ IsYes reply ∧ ¬ IsNo reply) ∧
          Gated s question.name instruction later accepted
            { p with
              replies := rest
              events := p.events ++ dialogue (.ask question.name question.prompt default)
                (front.map fun _ => "Please answer yes or no") }
            (runAll s (question.before instruction later) p)) ∨
        ((∀ reply ∈ p.replies, ¬ IsYes reply ∧ ¬ IsNo reply) ∧
          runAll s (question.before instruction later) p = (.error (.prompt s.silence),
            { p with
              replies := []
              events := p.events ++ dialogue (.ask question.name question.prompt default)
                (p.replies.map fun _ => "Please answer yes or no") }))) ∧
      ∀ answer, s.answers.get? question.name = some answer →
        (IsYes answer ∨ IsNo answer → Gated s question.name instruction later answer p
          (runAll s (question.before instruction later) p)) ∧
        (¬ IsYes answer ∧ ¬ IsNo answer → runAll s (question.before instruction later) p =
          (.error (.rejectedAnswer question.name answer "Please answer yes or no"), p))) ∧
    ∀ text, Builtin.isYesNo.call (Builtin.yesNoToBool.call text) = "" ∧
      Builtin.yesNoToBool.call (Builtin.yesNoToBool.call text) =
        Builtin.yesNoToBool.call text := by
  have hrun : runAll s (question.before instruction later) p =
      Outcome.andThen (runStep s (.query question) p) (runAll s (instruction :: later)) := by
    rw [Question.before, runAll_cons, runInstruction]
    rfl
  have hnamed : namedValidator p.env question.validation = .ok (some .isYesNo) := by
    rw [hquestion.validation, namedValidator, Environment.validator?, hvalidator]
    rfl
  refine ⟨?_, ?_, ?_⟩
  · intro e hdefault
    have hfails : runStep s (.query question) p = (.error e, p) := by
      show runQuery s question p = _
      unfold runQuery
      rw [hdefault]
    rw [hrun, hfails]
    rfl
  · intro default hdefault
    have hstep : runStep s (.query question) p =
        question.store (obtain s p question default (some .isYesNo)) :=
      runQuery_eq s hdefault hnamed
    rw [hrun, hstep]
    constructor
    · intro hnone
      rcases obtain_asked hnone with
        ⟨front, accepted, rest, hreplies, hfront, haccepted, hobtained⟩ | ⟨hall, hobtained⟩
      · refine .inl ⟨front, accepted, rest, hreplies, hfront, ?_⟩
        rw [hobtained]
        exact gated_of_answer hquestion hname hfree hcondition htruth haccepted
      · refine .inr ⟨hall, ?_⟩
        rw [hobtained]
        rfl
    · intro answer hanswer
      rw [obtain_supplied p default (some .isYesNo) hanswer]
      constructor
      · intro haccepted
        rw [if_pos (complaint_isYesNo_eq_empty.2 haccepted)]
        exact gated_of_answer hquestion hname hfree hcondition htruth haccepted
      · intro hrejected
        rw [if_neg (complaint_isYesNo_ne_empty.2 hrejected), complaint_isYesNo,
          if_neg (not_or.2 hrejected)]
        rfl
  · exact fun text => ⟨call_isYesNo_truth text, call_yesNoToBool_truth text⟩

/-- Replies are split at the first accepted one in one way only. -/
theorem first_accepted_unique {P : String → Prop} {front front' rest rest' : List String}
    {accepted accepted' : String} (h : front ++ accepted :: rest = front' ++ accepted' :: rest')
    (hfront : ∀ reply ∈ front, ¬ P reply) (hfront' : ∀ reply ∈ front', ¬ P reply)
    (haccepted : P accepted) (haccepted' : P accepted') :
    front = front' ∧ accepted = accepted' ∧ rest = rest' := by
  induction front generalizing front' with
  | nil =>
    cases front' with
    | nil => exact ⟨rfl, List.cons.inj h⟩
    | cons first more =>
      obtain ⟨rfl, -⟩ := List.cons.inj h
      exact absurd haccepted (hfront' accepted (List.mem_cons_self ..))
  | cons first more ih =>
    obtain ⟨hfirst, hmore⟩ := List.forall_mem_cons.1 hfront
    cases front' with
    | nil =>
      obtain ⟨rfl, -⟩ := List.cons.inj h
      exact absurd haccepted' hfirst
    | cons first' more' =>
      obtain ⟨rfl, htail⟩ := List.cons.inj h
      obtain ⟨rfl, hrest⟩ := ih htail hmore (List.forall_mem_cons.1 hfront').2
      exact ⟨rfl, hrest⟩

theorem Gated.accepted {name answer : String} {r : Outcome}
    (h : Gated s name instruction later answer q r) : IsYes answer ∨ IsNo answer := by
  cases h with
  | opened hyes => exact .inl hyes
  | closed hno => exact .inr hno

/-- The second reply means yes, in capitals and between blanks that are not ASCII. -/
def emphatic : Progress := { hesitating with replies := ["maybe", "\u2003YES\u00a0", "no"] }

/-- A group that asks for the answer, around a step that asks for it again. -/
def thanks : Instruction :=
  .group (some "$\x7b agreed \x7d") [.step (some "$\x7b agreed \x7d") (.inform "Thank you")]

theorem yes_no_question_gates_of_emphatic :
    runAll unprepared (agreement.before thanks []) emphatic =
      runAll unprepared [thanks.unconditional]
        { emphatic with
          env := emphatic.env.setText "agreed" "true"
          replies := ["no"]
          events := [.ask "agreed" "Agreed?" (some "no"), .reject "Please answer yes or no",
            .ask "agreed" "Agreed?" (some "no")] } := by
  have hname : IsIdentifier agreement.name :=
    ⟨'a', "greed".toList, by decide +kernel, rfl, List.all_eq_true.1 (by decide +kernel)⟩
  have hdefault : suggestion emphatic.env agreement.default = .ok (some "no") :=
    eq_ok_of_toOption (by decide +kernel)
  have hmaybe : ¬ IsYes "maybe" ∧ ¬ IsNo "maybe" := by decide +kernel
  have hyes : IsYes "\u2003YES\u00a0" := by decide +kernel
  obtain ⟨-, hcourse, -⟩ := yes_no_question_gates unprepared agreement thanks [] emphatic
    ⟨rfl, rfl⟩ hname (by decide) rfl (by decide +kernel) (by decide +kernel)
  obtain ⟨hasked, -⟩ := hcourse _ hdefault
  rcases hasked rfl with ⟨front, accepted, rest, hreplies, hfront, hgated⟩ | ⟨hall, -⟩
  · have hsplit : ["maybe"] ++ "\u2003YES\u00a0" :: ["no"] = front ++ accepted :: rest := hreplies
    have hanswer : ∀ reply ∈ ["maybe"], ¬ (IsYes reply ∨ IsNo reply) := by
      simpa [not_or] using hmaybe
    obtain ⟨rfl, rfl, rfl⟩ := first_accepted_unique (P := fun reply => IsYes reply ∨ IsNo reply)
      hsplit hanswer (fun reply hmem => not_or.2 (hfront reply hmem)) (.inl hyes) hgated.accepted
    generalize hrun : runAll unprepared (agreement.before thanks []) emphatic = r at hgated
    cases hgated with
    | opened => rfl
    | closed hno => exact absurd hyes hno.not_isYes
  · exact absurd hyes (hall _ (by decide)).1

end Scaffold
