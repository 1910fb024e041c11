import Mathlib.Logic.Relation
import Scaffold.Script.Run

/-! # Groups and conditions

  A script is a tree, but its run is a sequence: a group does what its
  instructions do one after the other, and a condition is looked at once, when
  the run comes to its instruction. So what a part of a script does depends on
  the progress in which the run comes to it, and on nothing else.

  - `Gap`: a script with a place where instructions can be put.
  - `runAll_fill_congr`: in a gap, parts that run alike can be exchanged.
  - `runAll_executed`: a run is the run of the steps that it executes.
  - `groups_vanish_and_conditions_gate`: what groups and conditions come to.
-/

namespace Scaffold

variable {s : Setting} {p q final : Progress} {e : Error} {script a b : List Instruction}
  {instruction : Instruction}

/-! ### One part after the other -/

/-- Goes on after a part of a run, unless it has failed. -/
def Outcome.andThen (r : Outcome) (next : Progress → Outcome) : Outcome :=
  match r with
  | (.error e, p) => (.error e, p)
  | (.ok (), p) => next p

theorem Outcome.andThen_assoc (r : Outcome) (f g : Progress → Outcome) :
    (r.andThen f).andThen g = r.andThen fun p => (f p).andThen g := by
  obtain ⟨result, p⟩ := r
  cases result <;> rfl

theorem Outcome.andThen_ok (r : Outcome) : (r.andThen fun p => (.ok (), p)) = r := by
  obtain ⟨result, p⟩ := r
  cases result <;> rfl

/-- What goes on after a part depends on the progress that the part succeeds with. -/
theorem Outcome.andThen_congr {r : Outcome} {f g : Progress → Outcome}
    (h : ∀ q, r = (.ok (), q) → f q = g q) : r.andThen f = r.andThen g := by
  obtain ⟨result, q⟩ := r
  cases result with
  | error e => rfl
  | ok => exact h q rfl

theorem runAll_cons (s : Setting) (instruction : Instruction) (rest : List Instruction)
    (p : Progress) : runAll s (instruction :: rest) p =
      Outcome.andThen (runInstruction s instruction p) (runAll s rest) := by
  rw [runAll]
  rfl

/-- A script runs one part after the other. -/
theorem runAll_append (s : Setting) (a b : List Instruction) (p : Progress) :
    runAll s (a ++ b) p = Outcome.andThen (runAll s a p) (runAll s b) := by
  induction a generalizing p with
  | nil => simp only [List.nil_append, runAll, Outcome.andThen]
  | cons instruction rest ih =>
    rw [List.cons_append, runAll_cons, runAll_cons, Outcome.andThen_assoc]
    exact Outcome.andThen_congr fun q _ => ih q

theorem runAll_singleton (s : Setting) (instruction : Instruction) (p : Progress) :
    runAll s [instruction] p = runInstruction s instruction p := by
  rw [runAll_cons]
  exact (Outcome.andThen_congr fun q _ => by rw [runAll]).trans (Outcome.andThen_ok _)

/-! ### Conditions -/

/-- The same instruction without its condition. -/
def Instruction.unconditional : Instruction → Instruction
  | .step _ s => .step none s
  | .group _ children => .group none children

/-- An instruction looks at its condition and then does what it does without one. -/
theorem runInstruction_eq (s : Setting) (instruction : Instruction) (p : Progress) :
    runInstruction s instruction p =
      match isOpen p.env instruction.condition with
      | .error e => (.error e, p)
      | .ok false => (.ok (), p)
      | .ok true => runInstruction s instruction.unconditional p := by
  cases instruction with
  | step condition step => rw [runInstruction, Instruction.unconditional, runInstruction]; rfl
  | group condition children =>
    rw [runInstruction, Instruction.unconditional, runInstruction]
    rfl

/-- A group without a condition does what its instructions do. -/
theorem runInstruction_group (s : Setting) (children : List Instruction) (p : Progress) :
    runInstruction s (.group none children) p = runAll s children p := by
  rw [runInstruction]
  rfl

/-- A condition holds if it expands to the text `true` and to no other one. -/
theorem isOpen_of_expandText {env : Environment} {condition text : String}
    (h : expandText env condition = .ok text) :
    isOpen env (some condition) = .ok (text == "true") := by
  have hexpand : Template.expand env condition = .ok text := by
    unfold expandText at h
    split at h
    · next result hresult => rw [hresult, Except.ok.inj h]
    · cases h
  show conditionHolds env condition = .ok (text == "true")
  unfold conditionHolds Template.isTrue
  rw [hexpand]
  rfl

/-! ### Gaps -/

/-- A script with a place where instructions can be put, at any depth. -/
inductive Gap where
  /-- The place is between instructions. -/
  | here (before after : List Instruction)
  /-- The place is in a group, which stands between instructions. -/
  | inside (before : List Instruction) (condition : Option String) (gap : Gap)
    (after : List Instruction)

namespace Gap

/-- The script that has a part at the place. -/
def fill : Gap → List Instruction → List Instruction
  | here before after, part => before ++ (part ++ after)
  | inside before condition gap after, part =>
    before ++ (.group condition (gap.fill part) :: after)

/-- The progress in which a run from `p` comes to the place, if it does. -/
def arrival? (s : Setting) : Gap → Progress → Option Progress
  | here before _, p =>
    match runAll s before p with
    | (.ok (), q) => some q
    | (.error _, _) => none
  | inside before condition gap _, p =>
    match runAll s before p with
    | (.ok (), q) =>
      if (isOpen q.env condition).toOption = some true then gap.arrival? s q else none
    | (.error _, _) => none

/-- The gap without everything that comes after the place. -/
def cut : Gap → Gap
  | here before _ => here before []
  | inside before condition gap _ => inside before condition gap.cut []

theorem arrival?_cut (s : Setting) (gap : Gap) (p : Progress) :
    gap.cut.arrival? s p = gap.arrival? s p := by
  induction gap generalizing p with
  | here before after => rfl
  | inside before condition gap after ih => simp only [cut, arrival?, ih]

/-- The same place with one more instruction before it. -/
def behind (first : Instruction) : Gap → Gap
  | here before after => here (first :: before) after
  | inside before condition gap after => inside (first :: before) condition gap after

theorem fill_behind (first : Instruction) (gap : Gap) (part : List Instruction) :
    (gap.behind first).fill part = first :: gap.fill part := by
  cases gap <;> rfl

theorem arrival?_behind {first : Instruction} {gap : Gap}
    (hfirst : runInstruction s first p = (.ok (), q)) :
    (gap.behind first).arrival? s p = gap.arrival? s q := by
  cases gap <;> rw [behind, arrival?, arrival?, runAll_cons, hfirst] <;> rfl

end Gap

variable {gap gap' : Gap}

/-- In a gap, parts can be exchanged that run alike from where the run comes to the place. If it
does not come there, any part can take the place. -/
theorem runAll_fill_congr (h : ∀ q, gap.arrival? s p = some q → runAll s a q = runAll s b q) :
    runAll s (gap.fill a) p = runAll s (gap.fill b) p := by
  induction gap generalizing p with
  | here before after =>
    rw [Gap.fill, Gap.fill, runAll_append, runAll_append]
    refine Outcome.andThen_congr fun q hq => ?_
    rw [runAll_append, runAll_append, h q (by simp only [Gap.arrival?, hq])]
  | inside before condition gap after ih =>
    rw [Gap.fill, Gap.fill, runAll_append, runAll_append]
    refine Outcome.andThen_congr fun q hq => ?_
    rw [runAll_cons, runAll_cons]
    congr 1
    rw [runInstruction, runInstruction]
    cases hopen : isOpen q.env condition with
    | error e => rfl
    | ok verdict =>
      cases verdict with
      | false => rfl
      | true =>
        refine ih fun q' hq' => h q' ?_
        simpa only [Gap.arrival?, hq, hopen, Except.toOption, if_true] using hq'

/-- A part that fails where the run comes to it is the end of the run. -/
theorem runAll_fill_error (harrival : gap.arrival? s p = some q)
    (h : runAll s a q = (.error e, final)) : runAll s (gap.fill a) p = (.error e, final) := by
  induction gap generalizing p with
  | here before after =>
    unfold Gap.arrival? at harrival
    split at harrival
    · next hbefore =>
      obtain rfl := Option.some.inj harrival
      simp only [Gap.fill, runAll_append, hbefore, Outcome.andThen, h]
    · cases harrival
  | inside before condition gap after ih =>
    unfold Gap.arrival? at harrival
    split at harrival
    · next q' hbefore =>
      split at harrival
      · next hopen =>
        have hopen' : isOpen q'.env condition = .ok true := by
          cases hc : isOpen q'.env condition with
          | error e => rw [hc] at hopen; cases hopen
          | ok verdict => rw [hc] at hopen; rw [Option.some.inj hopen]
        simp only [Gap.fill, runAll_append, hbefore, Outcome.andThen, runAll_cons, runInstruction,
          hopen', ih harrival]
      · cases harrival
    · cases harrival

/-- What comes after a place where a run fails is never run: anything can stand there. -/
theorem runAll_fill_of_cut (hcut : gap'.cut = gap.cut) (harrival : gap.arrival? s p = some q)
    (h : runAll s a q = (.error e, final)) : runAll s (gap'.fill a) p = (.error e, final) := by
  refine runAll_fill_error ?_ h
  rw [← Gap.arrival?_cut, hcut, Gap.arrival?_cut, harrival]

/-! ### Groups without conditions -/

/-- One script has, at some depth, the instructions of a group where the other one has the group. -/
def Ungroups (a b : List Instruction) : Prop :=
  ∃ (gap : Gap) (children : List Instruction),
    a = gap.fill [.group none children] ∧ b = gap.fill children

theorem Ungroups.runAll_eq (h : Ungroups a b) (s : Setting) (p : Progress) :
    runAll s a p = runAll s b p := by
  obtain ⟨gap, children, rfl, rfl⟩ := h
  refine runAll_fill_congr fun q _ => ?_
  rw [runAll_singleton, runInstruction_group]

/-! ### Executed steps -/

mutual

/-- The steps that an instruction comes to, in order. Only the last one can have failed. -/
def Instruction.executed (s : Setting) : Instruction → Progress → List Step
  | .step condition step, p =>
    match isOpen p.env condition with
    | .ok true => [step]
    | _ => []
  | .group condition children, p =>
    match isOpen p.env condition with
    | .ok true => executedAll s children p
    | _ => []

/-- The steps that a run comes to, in order. Only the last one can have failed. -/
def executedAll (s : Setting) : List Instruction → Progress → List Step
  | [], _ => []
  | instruction :: rest, p =>
    match runInstruction s instruction p with
    | (.error _, _) => instruction.executed s p
    | (.ok (), q) => instruction.executed s p ++ executedAll s rest q

end

/-- Steps as a script without groups and conditions. -/
def flatScript (steps : List Step) : List Instruction := steps.map (.step none)

theorem runAll_flatScript_append (s : Setting) (front back : List Step) (p : Progress) :
    runAll s (flatScript (front ++ back)) p =
      Outcome.andThen (runAll s (flatScript front) p) (runAll s (flatScript back)) := by
  unfold flatScript
  rw [List.map_append, runAll_append]

theorem runAll_flatScript_singleton (s : Setting) (step : Step) (p : Progress) :
    runAll s (flatScript [step]) p = runStep s step p := by
  unfold flatScript
  rw [List.map_singleton, runAll_singleton, runInstruction]
  rfl

/-- An instruction fails by itself: its condition cannot be expanded, and nothing is executed, or
the instruction is a step that fails when it is executed. -/
inductive FailsAt (s : Setting) (q : Progress) (e : Error) :
    Instruction → List Step → Progress → Prop where
  /-- The condition cannot be expanded. -/
  | condition (culprit : Instruction) (h : isOpen q.env culprit.condition = .error e) :
    FailsAt s q e culprit [] q
  /-- The step fails. -/
  | step (condition : Option String) (step : Step) (final : Progress)
    (hopen : isOpen q.env condition = .ok true) (h : runStep s step q = (.error e, final)) :
    FailsAt s q e (.step condition step) [step] final

theorem FailsAt.runAll_eq {last : List Step} (h : FailsAt s q e instruction last final) :
    runAll s [instruction] q = (.error e, final) := by
  rw [runAll_singleton]
  cases h with
  | condition culprit h => rw [runInstruction_eq, h]
  | step condition step final hopen h => rw [runInstruction, hopen, h]

/-- A failing run has executed the steps `front`, and then an instruction at a gap of the script has
failed by itself. -/
def EndsAt (s : Setting) (script : List Instruction) (p : Progress) (e : Error) (final : Progress)
    (gap : Gap) (culprit : Instruction) (q : Progress) (front last : List Step) : Prop :=
  script = gap.fill [culprit] ∧ gap.arrival? s p = some q ∧
    runAll s (flatScript front) p = (.ok (), q) ∧ FailsAt s q e culprit last final ∧
    executedAll s script p = front ++ last

mutual

theorem runInstruction_executed {q : Progress} (instruction : Instruction) (p : Progress)
    (h : runInstruction s instruction p = (.ok (), q)) :
    runAll s (flatScript (instruction.executed s p)) p = (.ok (), q) := by
  cases instruction with
  | step condition step =>
    rw [runInstruction] at h
    rw [Instruction.executed]
    split at h
    · cases h
    · next hopen =>
      rw [hopen]
      exact h
    · next hopen =>
      rw [hopen]
      exact (runAll_flatScript_singleton s step p).trans h
  | group condition children =>
    rw [runInstruction] at h
    rw [Instruction.executed]
    split at h
    · cases h
    · next hopen =>
      rw [hopen]
      exact h
    · next hopen =>
      rw [hopen]
      exact runAll_executed children p h

/-- A run that succeeds comes to what the executed steps come to one after the other. -/
theorem runAll_executed {q : Progress} (script : List Instruction) (p : Progress)
    (h : runAll s script p = (.ok (), q)) :
    runAll s (flatScript (executedAll s script p)) p = (.ok (), q) := by
  cases script with
  | nil => exact h
  | cons instruction rest =>
    rw [runAll] at h
    rw [executedAll]
    cases hfirst : runInstruction s instruction p with
    | mk result p' =>
      rw [hfirst] at h
      cases result with
      | error e => cases h
      | ok =>
        dsimp only
        rw [runAll_flatScript_append, runInstruction_executed instruction p hfirst]
        exact runAll_executed rest p' h

end

/-- An instruction whose condition cannot be expanded comes to no step. -/
theorem executed_of_error (hopen : isOpen p.env instruction.condition = .error e) :
    instruction.executed s p = [] := by
  cases instruction with
  | step condition step =>
    have hcondition : isOpen p.env condition = .error e := hopen
    rw [Instruction.executed, hcondition]
  | group condition children =>
    have hcondition : isOpen p.env condition = .error e := hopen
    rw [Instruction.executed, hcondition]

/-- A run ends at an instruction whose condition cannot be expanded. -/
theorem endsAt_condition (instruction : Instruction) (rest : List Instruction) (p : Progress)
    (hopen : isOpen p.env instruction.condition = .error e) :
    EndsAt s (instruction :: rest) p e p (.here [] rest) instruction p [] [] := by
  refine ⟨rfl, ?_, rfl, .condition instruction hopen, ?_⟩
  · rw [Gap.arrival?, runAll]
  · have hrun : runInstruction s instruction p = (.error e, p) := by rw [runInstruction_eq, hopen]
    rw [executedAll, hrun]
    exact executed_of_error hopen

/-- A run that ends behind its first instruction ends there if the first one is run before. -/
theorem EndsAt.behind {gap : Gap} {culprit : Instruction} {p' q : Progress} {front last : List Step}
    {rest : List Instruction} (hfirst : runInstruction s instruction p = (.ok (), p'))
    (h : EndsAt s rest p' e final gap culprit q front last) :
    EndsAt s (instruction :: rest) p e final (gap.behind instruction) culprit q
      (instruction.executed s p ++ front) last := by
  obtain ⟨hscript, harrival, hfront, hfails, hexecuted⟩ := h
  refine ⟨?_, ?_, ?_, hfails, ?_⟩
  · rw [Gap.fill_behind, hscript]
  · rw [Gap.arrival?_behind hfirst, harrival]
  · rw [runAll_flatScript_append, runInstruction_executed instruction p hfirst]
    exact hfront
  · rw [executedAll, hfirst]
    dsimp only
    rw [hexecuted, List.append_assoc]

mutual

theorem runInstruction_endsAt {e : Error} {final : Progress} (instruction : Instruction)
    (p : Progress) (h : runInstruction s instruction p = (.error e, final))
    (rest : List Instruction) : ∃ gap culprit q front last,
      EndsAt s (instruction :: rest) p e final gap culprit q front last := by
  have hall : executedAll s (instruction :: rest) p = instruction.executed s p := by
    rw [executedAll, h]
  cases instruction with
  | step condition step =>
    rw [Instruction.executed] at hall
    rw [runInstruction] at h
    split at h
    · next e' hopen =>
      obtain ⟨he, rfl⟩ := Prod.mk.inj h
      obtain rfl := Except.error.inj he
      exact ⟨_, _, _, _, _, endsAt_condition (.step condition step) rest p hopen⟩
    · cases h
    · next hopen =>
      refine ⟨.here [] rest, .step condition step, p, [], [step], rfl, ?_, rfl,
        .step condition step final hopen h, ?_⟩
      · rw [Gap.arrival?, runAll]
      · rw [hall, hopen]
        rfl
  | group condition children =>
    rw [Instruction.executed] at hall
    rw [runInstruction] at h
    split at h
    · next e' hopen =>
      obtain ⟨he, rfl⟩ := Prod.mk.inj h
      obtain rfl := Except.error.inj he
      exact ⟨_, _, _, _, _, endsAt_condition (.group condition children) rest p hopen⟩
    · cases h
    · next hopen =>
      -- A place in the group is a place in the script.
      obtain ⟨gap, culprit, q, front, last, hscript, harrival, hfront, hfails, hexecuted⟩ :=
        runAll_endsAt children p h
      refine ⟨.inside [] condition gap rest, culprit, q, front, last, ?_, ?_, hfront, hfails, ?_⟩
      · rw [hscript]
        rfl
      · rw [Gap.arrival?, runAll]
        simp only [hopen, Except.toOption, if_true, harrival]
      · rw [hall, hopen]
        exact hexecuted

/-- A run that fails has come to an instruction that fails by itself. -/
theorem runAll_endsAt {e : Error} {final : Progress} (script : List Instruction) (p : Progress)
    (h : runAll s script p = (.error e, final)) :
    ∃ gap culprit q front last, EndsAt s script p e final gap culprit q front last := by
  cases script with
  | nil => cases h
  | cons instruction rest =>
    rw [runAll] at h
    split at h
    · next hfirst =>
      exact runInstruction_endsAt instruction p (hfirst.trans h) rest
    · next p' hfirst =>
      obtain ⟨gap, culprit, q, front, last, hends⟩ := runAll_endsAt rest p' h
      exact ⟨_, _, _, _, _, hends.behind hfirst⟩

end

/-! ### What groups and conditions come to -/

/-- A group without a condition can be replaced by its instructions, at any depth and any number of
times. An instruction that a run comes to is as good as none if its condition expands to another
text than `true`, whatever it is, and as good as the same instruction without the condition if it
expands to `true`. A run is as good as the flat sequence of the steps that it executes: all of them
if it succeeds, and those up to the first failure if it fails, and then it does not matter what
comes after the place of the failure. -/
theorem groups_vanish_and_conditions_gate (s : Setting) (p : Progress) :
    (∀ a b, Relation.ReflTransGen Ungroups a b → runAll s a p = runAll s b p) ∧
    (∀ gap instruction q condition text, Gap.arrival? s gap p = some q →
      instruction.condition = some condition → expandText q.env condition = .ok text →
      text ≠ "true" →
        runAll s (gap.fill [instruction]) p = runAll s (gap.fill []) p) ∧
    (∀ gap instruction q condition, Gap.arrival? s gap p = some q →
      instruction.condition = some condition → expandText q.env condition = .ok "true" →
        runAll s (gap.fill [instruction]) p = runAll s (gap.fill [instruction.unconditional]) p) ∧
    (∀ script q, runAll s script p = (.ok (), q) →
      runAll s (flatScript (executedAll s script p)) p = (.ok (), q)) ∧
    (∀ script e final, runAll s script p = (.error e, final) →
      ∃ gap culprit q front last, EndsAt s script p e final gap culprit q front last ∧
        (last ≠ [] → runAll s (flatScript (front ++ last)) p = (.error e, final)) ∧
        ∀ (gap' : Gap) culprit' last', gap'.cut = gap.cut → FailsAt s q e culprit' last' final →
          runAll s (gap'.fill [culprit']) p = (.error e, final)) := by
  refine ⟨?_, ?_, ?_, ?_, ?_⟩
  · intro a b h
    induction h with
    | refl => rfl
    | tail _ hlast ih => exact ih.trans (hlast.runAll_eq s p)
  · intro gap instruction q condition text harrival hcondition htext hother
    refine runAll_fill_congr fun q' hq' => ?_
    obtain rfl := Option.some.inj (harrival.symm.trans hq')
    have hclosed : (text == "true") = false := beq_eq_false_iff_ne.2 hother
    rw [runAll_singleton, runInstruction_eq, hcondition, isOpen_of_expandText htext, hclosed,
      runAll]
  · intro gap instruction q condition harrival hcondition htext
    refine runAll_fill_congr fun q' hq' => ?_
    obtain rfl := Option.some.inj (harrival.symm.trans hq')
    rw [runAll_singleton, runAll_singleton, runInstruction_eq, hcondition,
      isOpen_of_expandText htext]
    rfl
  · intro script q h
    exact runAll_executed script p h
  · intro script e final h
    obtain ⟨gap, culprit, q, front, last, hends⟩ := runAll_endsAt script p h
    obtain ⟨-, harrival, hfront, hfails, -⟩ := id hends
    refine ⟨gap, culprit, q, front, last, hends, fun hlast => ?_, ?_⟩
    · rw [runAll_flatScript_append, hfront]
      cases hfails with
      | condition _ _ => exact absurd rfl hlast
      | step condition step final hopen hstep =>
        exact (runAll_flatScript_singleton s step q).trans hstep
    · intro gap' culprit' last' hcut hfails'
      exact runAll_fill_of_cut hcut harrival hfails'.runAll_eq

/-- The place of an instruction that is skipped: in an open group that stands in a group without
condition. Behind it a step fails, so that the message behind the groups is never shown. -/
def skippedGap : Gap :=
  .inside [] none
    (.inside [.step none (.define "a" "1")] (some "true")
      (.here [] [.step none (.delete "[" none)]) [])
    [.step none (.inform "never")]

/-- The place of the open group. -/
def openGap : Gap :=
  .inside [] none (.here [.step none (.define "a" "1")] []) [.step none (.inform "never")]

/-- A run without files, variables and replies. -/
def emptySetting : Setting := { root := ⟨"stage"⟩ }

/-- Where it begins. -/
def emptyProgress : Progress := { fs := {}, env := {} }

theorem exists_arrival {condition text : String} (h : (gap.arrival? s p).map
    (fun q => (expandText q.env condition).toOption) = some (some text)) :
    ∃ q, gap.arrival? s p = some q ∧ expandText q.env condition = .ok text := by
  obtain ⟨q, hq, htext⟩ := Option.map_eq_some_iff.1 h
  refine ⟨q, hq, ?_⟩
  cases hr : expandText q.env condition with
  | error e => rw [hr] at htext; cases htext
  | ok result => rw [hr] at htext; rw [Option.some.inj htext]

theorem gates_of_skippedGap :
    runAll emptySetting (skippedGap.fill [.step (some "no") (.inform "skipped")]) emptyProgress =
      runAll emptySetting (skippedGap.fill []) emptyProgress ∧
    runAll emptySetting (openGap.fill [.group (some "true") [.step none (.delete "[" none)]])
        emptyProgress =
      runAll emptySetting (openGap.fill [.group none [.step none (.delete "[" none)]])
        emptyProgress ∧
    runAll emptySetting (openGap.fill [.group none [.step none (.delete "[" none)]])
        emptyProgress =
      runAll emptySetting (openGap.fill [.step none (.delete "[" none)]) emptyProgress ∧
    (∃ q, runAll emptySetting [.group (some "true") [.step none (.define "a" "1")]]
        emptyProgress = (.ok (), q) ∧
      runAll emptySetting (flatScript (executedAll emptySetting
        [.group (some "true") [.step none (.define "a" "1")]] emptyProgress)) emptyProgress =
          (.ok (), q)) ∧
    ∃ e final gap culprit q front last,
      EndsAt emptySetting (skippedGap.fill []) emptyProgress e final gap culprit q front last := by
  obtain ⟨hungroup, hskip, hfree, hok, herror⟩ :=
    groups_vanish_and_conditions_gate emptySetting emptyProgress
  refine ⟨?_, ?_, ?_, ?_, ?_⟩
  · obtain ⟨q, hq, htext⟩ : ∃ q, skippedGap.arrival? emptySetting emptyProgress = some q ∧
        expandText q.env "no" = .ok "no" := exists_arrival (by decide +kernel)
    exact hskip skippedGap _ q "no" "no" hq rfl htext (by decide)
  · obtain ⟨q, hq, htext⟩ : ∃ q, openGap.arrival? emptySetting emptyProgress = some q ∧
        expandText q.env "true" = .ok "true" := exists_arrival (by decide +kernel)
    exact hfree openGap _ q "true" hq rfl htext
  · exact hungroup _ _ (.single ⟨openGap, _, rfl, rfl⟩)
  · have hruns : (runAll emptySetting [.group (some "true") [.step none (.define "a" "1")]]
        emptyProgress).1.isOk = true := by decide +kernel
    cases hr : runAll emptySetting [.group (some "true") [.step none (.define "a" "1")]]
        emptyProgress with
    | mk result q =>
      cases result with
      | error e => rw [hr] at hruns; cases hruns
      | ok => exact ⟨q, rfl, hok _ q hr⟩
  · have hfails : (runAll emptySetting (skippedGap.fill []) emptyProgress).1.isOk = false := by
      decide +kernel
    cases hr : runAll emptySetting (skippedGap.fill []) emptyProgress with
    | mk result final =>
      cases result with
      | ok => rw [hr] at hfails; cases hfails
      | error e =>
        obtain ⟨gap, culprit, q, front, last, hends, -, -⟩ := herror _ e final hr
        exact ⟨e, final, gap, culprit, q, front, last, hends⟩

end Scaffold
