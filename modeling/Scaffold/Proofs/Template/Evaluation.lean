import Scaffold.Proofs.Template.Agreement
import Scaffold.Template.Render

/-! # Rendering without other templates

  A template that uses no other one is rendered alike with all loaders. The
  proof follows the evaluation: every computation agrees with its counterpart
  under another loader, from the elementary ones up to whole templates.

  - `evalExpr_agree`, `evalStmt_agree`: expressions and statements, by recursion
    on their syntax.
  - `callsOf_agree`: bodies that run elsewhere, by induction on the levels.
  - `renderNamed_congr`: the outcome of a rendering.
-/

namespace Scaffold.Template

open Value (ofText)

/-! ### Elementary computations -/

theorem pushFrame_agree (frame : Frame) : Agree (pushFrame frame) (pushFrame frame) := by
  unfold pushFrame
  refine .get fun m hm => .ite (.fail _) (.set ?_)
  exact hm.congr rfl rfl rfl rfl

theorem popFrame_agree : Agree popFrame popFrame :=
  .modify fun _ hm => hm.congr rfl rfl rfl rfl

theorem mark_agree (v : Value) : Agree (mark v) (mark v) := by
  intro m hm
  refine ⟨rfl, fun w m' h => ?_⟩
  obtain ⟨-, rfl⟩ := Prod.mk.inj (Except.ok.inj h)
  exact hm.congr rfl rfl rfl rfl

theorem store_agree (name : String) (v : Value) : Agree (store name v) (store name v) := by
  refine (mark_agree v).bind fun w => .modify fun m hm => ?_
  split
  · exact hm
  · exact hm.congr rfl rfl rfl rfl

theorem forgetNames_agree : Agree forgetNames forgetNames := by
  refine .modify fun m hm => ?_
  split
  · exact hm
  · exact hm.congr rfl rfl rfl rfl

theorem write_agree (s : String) : Agree (write s) (write s) := by
  refine .modify fun m hm => ?_
  split
  · exact hm
  · exact hm.congr rfl rfl rfl rfl

theorem captureOutput_agree {α : Type} {f g : Eval α} (h : Agree f g) :
    Agree (captureOutput f) (captureOutput g) := by
  unfold captureOutput
  refine .get fun before _ => ?_
  refine .bind (.modify fun m hm => hm.congr rfl rfl rfl rfl) fun _ => ?_
  refine h.bind fun a => .get fun m hm => ?_
  refine .bind (.set (hm.congr rfl rfl rfl rfl)) fun _ => .value _

theorem withCaptured_agree {α : Type} {f g : Eval α} (v : Value) (h : Agree f g) :
    Agree (withCaptured v f) (withCaptured v g) := by
  unfold withCaptured
  refine .get fun before _ => ?_
  refine .bind (.modify fun m hm => hm.congr rfl rfl rfl rfl) fun _ => ?_
  refine h.bind fun a => ?_
  refine .bind (.modify fun m hm => hm.congr rfl rfl rfl rfl) fun _ => .value a

theorem resolved_agree (v : Value) : Agree (resolved v) (resolved v) :=
  .get fun _ _ => .value _

theorem opened_agree (v : Value) : Agree (opened v) (opened v) :=
  .get fun _ _ => .value _

theorem withoutState_agree (f : List Value → Outcome Value) (args : List Value) :
    Agree (withoutState f args) (withoutState f args) := by
  unfold withoutState
  refine (Agree.mapM resolved_agree args).bind fun vs => ?_
  exact (Agree.lift (f vs)).bind fun v => .value v.released

theorem memberOf_agree (v key : Value) : Agree (memberOf v key) (memberOf v key) := by
  unfold memberOf
  refine .get fun m _ => ?_
  split <;> exact .value _

/-! ### Values -/

theorem truth_agree (v : Value) : Agree (truth v) (truth v) := by
  unfold truth
  split
  · exact .fail _
  · exact (opened_agree _).bind fun w => .value w.truth

theorem bound_agree (v : Value) : Agree (bound v) (bound v) := by
  unfold bound
  split
  · exact .fail _
  · exact .value ()

theorem compareValues_agree (op : Comparison) (a b : Value) :
    Agree (compareValues op a b) (compareValues op a b) := by
  unfold compareValues
  refine (bound_agree a).bind fun _ => (bound_agree b).bind fun _ => ?_
  exact (resolved_agree a).bind fun v => (resolved_agree b).bind fun w => .lift (op.apply v w)

theorem operate_agree (op : Operator) (a b : Value) : Agree (operate op a b) (operate op a b) := by
  unfold operate
  split
  · refine (bound_agree a).bind fun _ => (bound_agree b).bind fun _ => ?_
    exact (resolved_agree a).bind fun v => (resolved_agree b).bind fun w => .lift _
  · exact .lift _

theorem memberOrMissing_agree (v key : Value) :
    Agree (memberOrMissing v key) (memberOrMissing v key) := by
  unfold memberOrMissing
  refine (memberOf_agree v key).bind fun found => ?_
  split
  · exact .value _
  · exact .ite (.fail _) (.value _)

theorem setMember_agree (v : Value) (name : String) (w : Value) :
    Agree (setMember v name w) (setMember v name w) := by
  unfold setMember
  split
  · exact (mark_agree w).bind fun w => .modify fun m hm => hm.congr rfl rfl rfl rfl
  · exact .fail _

theorem gather_agree (args : Arguments) : Agree args.gather args.gather := by
  unfold Arguments.gather
  refine (Agree.mapM ?_ args.named).bind fun named => (Agree.mapM ?_ args.positions).bind
    fun positions => .ite (.value _) (.value _)
  · intro given
    split
    · exact .value _
    · exact (opened_agree _).bind fun v => .lift (spreadEntries v)
  · intro given
    dsimp only
    exact .ite ((opened_agree _).bind fun v => .lift (walkAny v)) (.value _)

theorem resultText_agree (v : Value) : Agree (resultText v) (resultText v) := by
  unfold resultText
  exact .get fun m _ => (resolved_agree v).bind fun w => .lift _

/-! ### Blocks and loops -/

theorem setBlockDepth_agree (name : String) (depth : Nat) :
    Agree (setBlockDepth name depth) (setBlockDepth name depth) := by
  refine .modify fun m hm => ⟨hm.macros, hm.loops, fun b hb => ?_, hm.parent⟩
  -- The depth changes, the bodies do not.
  obtain ⟨old, hold, rfl⟩ := List.mem_map.1 hb
  have hbodies := hm.blocks old hold
  split
  · exact hbodies
  · exact hbodies

theorem moveLoop_agree (id i : Nat) : Agree (moveLoop id i) (moveLoop id i) :=
  .modify fun _ hm => hm.modifyLoop id fun _ => rfl

theorem enterLoop_agree (items : List Value) (counted visible : Bool)
    {recursion : Option Recursion}
    (hrecursion : ∀ again, recursion = some again → isSelfContainedBody again.body) :
    Agree (enterLoop items counted visible recursion)
      (enterLoop items counted visible recursion) := by
  unfold enterLoop
  refine .get fun m _ => (pushFrame_agree _).bind fun _ => ?_
  exact .bind (.modify fun m hm => hm.pushLoop hrecursion) fun _ => .value _

theorem eachItem_agree (id : Nat) {bind bind' : Value → Eval Unit} {body body' : Eval Flow}
    (hbind : ∀ v, Agree (bind v) (bind' v)) (hbody : Agree body body') (i : Nat)
    (items : List Value) :
    Agree (eachItem id bind body i items) (eachItem id bind' body' i items) := by
  induction items generalizing i with
  | nil => exact moveLoop_agree id i
  | cons v rest ih =>
    unfold eachItem
    refine (moveLoop_agree id i).bind fun _ => forgetNames_agree.bind fun _ => ?_
    refine (hbind v).bind fun _ => hbody.bind fun flow => ?_
    split
    · exact .value ()
    · exact ih (i + 1)

theorem passing_agree {bind bind' : Value → Eval Unit} {condition condition' : Eval Bool}
    (hbind : ∀ v, Agree (bind v) (bind' v)) (hcondition : Agree condition condition')
    (items : List Value) :
    Agree (passing bind condition items) (passing bind' condition' items) := by
  induction items with
  | nil => exact .value []
  | cons v rest ih =>
    unfold passing
    refine forgetNames_agree.bind fun _ => (hbind v).bind fun _ => ?_
    exact hcondition.bind fun passed => ih.bind fun others => .value _

/-! ### Bodies that run elsewhere -/

/-- Two ways to run bodies agree on all that use no other template. -/
structure CallsAgree (calls calls' : Calls) : Prop where
  /-- On statements. -/
  stmts : ∀ body, isSelfContainedBody body → Agree (calls.stmts body) (calls'.stmts body)
  /-- On expressions. -/
  expr : ∀ e, Agree (calls.expr e) (calls'.expr e)

section

variable {calls calls' : Calls} (h : CallsAgree calls calls')

include h

theorem assignParams_agree (params : List (Param × Value)) :
    Agree (assignParams calls params) (assignParams calls' params) := by
  induction params with
  | nil => exact .value ()
  | cons pair rest ih =>
    unfold assignParams
    refine ih.bind fun _ => ?_
    split
    · next e _ _ => exact (h.expr e).bind fun v => store_agree _ v
    · exact store_agree _ _

theorem callMacro_agree (id : Nat) (args : List Value) :
    Agree (callMacro calls id args) (callMacro calls' id args) := by
  unfold callMacro
  refine .get fun m hm => ?_
  split
  · exact .fail _
  · next body hbody =>
    dsimp only
    refine (Agree.lift _).bind fun values => .ite (.fail _) (.ite (.fail _) ?_)
    -- The macro runs without blocks and without a parent, whatever its caller has.
    refine .bind (.set ⟨hm.macros, hm.loops, nofun, rfl⟩) fun _ => ?_
    refine (assignParams_agree h _).bind fun _ => ?_
    refine (h.stmts _ (hm.macros id body hbody)).bind fun _ => .get fun after hafter => ?_
    exact .bind (.set ⟨hafter.macros, hafter.loops, hm.blocks, hm.parent⟩) fun _ => .value _

theorem callValue_agree (f : Value) (args : List Value) :
    Agree (callValue calls f args) (callValue calls' f args) := by
  unfold callValue
  split
  · exact withoutState_agree _ args
  · exact withoutState_agree _ args
  · exact withoutState_agree _ args
  · refine (Agree.mapM opened_agree args).bind fun vs => (Agree.lift _).bind fun members => ?_
    refine (Agree.mapM (fun f => (mark_agree f.2).bind fun v => .value (f.1, v)) members).bind
      fun members => .get fun m hm => ?_
    exact .bind (.set (hm.congr rfl rfl rfl rfl)) fun _ => .value _
  · exact withoutState_agree _ args
  · exact callMacro_agree h _ args
  · exact .fail _
  · exact .fail _

theorem callMethod_agree (v : Value) (name : String) (args : List Value) :
    Agree (callMethod calls v name args) (callMethod calls' v name args) := by
  unfold callMethod
  refine .get fun m hm => ?_
  dsimp only
  split
  · exact .value _
  · refine .ite (.bind (.set ?_) fun _ => .value _) (.value _)
    exact hm.modifyLoop _ fun _ => rfl
  · split
    · exact .fail _
    · refine (memberOf_agree _ _).bind fun found => ?_
      split
      · exact callValue_agree h _ args
      · exact .fail _

theorem runBlockBody_agree {stack : BlockStack}
    (hstack : ∀ body ∈ stack.bodies, isSelfContainedBody body.2) :
    Agree (runBlockBody calls stack) (runBlockBody calls' stack) := by
  unfold runBlockBody
  split
  · exact .fail _
  · next template body hbody =>
    refine .get fun m _ => (pushFrame_agree _).bind fun _ => ?_
    refine .bind (.modify fun st hst => hst.congr rfl rfl rfl rfl) fun _ => ?_
    refine (h.stmts body (hstack _ (List.mem_of_getElem? hbody))).bind fun _ => ?_
    refine popFrame_agree.bind fun _ => .modify fun st hst => hst.congr rfl rfl rfl rfl

theorem callBlock_agree (name : String) (mandatory : Bool) :
    Agree (callBlock calls name mandatory) (callBlock calls' name mandatory) := by
  unfold callBlock
  refine .get fun m hm => .ite (.value ()) ?_
  split
  · exact .fail _
  · next stack hstack =>
    have hbodies := hm.bodies_of_lookup hstack
    refine .guard _ ?_
    refine .bind (.modify fun st hst => hst.congr rfl rfl rfl rfl) fun _ => ?_
    refine (runBlockBody_agree h hbodies).bind fun _ => ?_
    exact .modify fun st hst => hst.congr rfl rfl rfl rfl

theorem callSuper_agree : Agree (callSuper calls) (callSuper calls') := by
  unfold callSuper
  refine .get fun m _ => ?_
  split
  · exact .fail _
  · next name _ =>
    refine .get fun m hm => ?_
    split
    · exact .fail _
    · next stack hstack =>
      have hbodies := hm.bodies_of_lookup hstack
      refine .ite (.fail _) ((setBlockDepth_agree name _).bind fun _ => ?_)
      have hbody : Agree (runBlockBody calls { stack with depth := stack.depth + 1 })
          (runBlockBody calls' { stack with depth := stack.depth + 1 }) :=
        runBlockBody_agree h hbodies
      -- A failure of the replaced body is told as one of the block.
      let tell : Machine → Failure → Failure := fun _ failure => .because .badBlock failure
      refine .bind (hbody.mapFailure tell ?_ ?_) fun _ => ?_
      · intro m
        cases runBlockBody calls { stack with depth := stack.depth + 1 } m <;> rfl
      · intro m
        cases runBlockBody calls' { stack with depth := stack.depth + 1 } m <;> rfl
      refine (setBlockDepth_agree name _).bind fun _ => ?_
      exact .modify fun st hst => hst.congr rfl rfl rfl rfl

theorem recurse_agree (id : Nat) (args : List Value) :
    Agree (recurse calls id args) (recurse calls' id args) := by
  unfold recurse
  split
  · refine .get fun m hm => ?_
    split
    · exact .fail _
    · next r hr =>
      obtain ⟨loop, hloop, hagain⟩ := Option.bind_eq_some_iff.1 hr
      have hbody := hm.loops id loop r hloop hagain
      refine (captureOutput_agree (h.stmts _ ?_)).bind fun _ => .get fun _ _ => .value _
      -- The loop that runs again has the body of the first one and no other.
      simp [isSelfContainedBody, Stmt.isSelfContained, hbody]
  · exact .fail _

/-- A template that uses no other one is run alike. -/
theorem runSource_agree {source : Source} (hsource : source.isSelfContained) :
    Agree (runSource calls source) (runSource calls' source) := by
  unfold Source.isSelfContained at hsource
  rw [Bool.and_eq_true] at hsource
  unfold runSource
  refine .get fun m hm => ?_
  refine .bind (.set ⟨hm.macros, hm.loops, hm.blocks, rfl⟩) fun _ => ?_
  refine (h.stmts _ hsource.1).bind fun _ => .get fun after hafter => ?_
  -- No statement has named a parent, so the template ends here.
  rw [hafter.parent]
  exact .set ⟨hafter.macros, hafter.loops, hafter.blocks, hm.parent⟩

end

/-! ### Expressions -/

section

variable {host host' : Host} (hcontext : host.context = host'.context)

include hcontext

/-- What a name stands for does not depend on the templates that can be loaded. -/
theorem lookup_eq (m : Machine) (name : String) : m.lookup host name = m.lookup host' name := by
  unfold Machine.lookup Machine.inFrame
  rw [hcontext]

theorem capture_agree (names : List String) : Agree (capture host names) (capture host' names) := by
  have hlookup : ∀ m : Machine, m.lookup host = m.lookup host' :=
    fun m => funext (lookup_eq hcontext m)
  unfold capture
  refine .get fun m hm => ?_
  rw [hlookup]
  split
  · exact .value 0
  · exact .bind (.set (hm.congr rfl rfl rfl rfl)) fun _ => .value _

theorem defineMacro_agree (name : String) (params : List Param) {body : List Stmt}
    (hbody : isSelfContainedBody body) :
    Agree (defineMacro host name params body) (defineMacro host' name params body) := by
  unfold defineMacro
  refine (capture_agree hcontext _).bind fun closure => .get fun m hm => ?_
  exact .bind (.set (hm.pushMacro hbody)) fun _ => .value _

end

section

variable {host host' : Host} {calls calls' : Calls} (h : CallsAgree calls calls')
  (hcontext : host.context = host'.context)

include h hcontext

-- In a mutual block some theorems use the variables through the others only.
set_option linter.unusedSectionVars false

theorem callName_agree (name : String) (args : List Value) :
    Agree (callName host calls name args) (callName host' calls' name args) := by
  unfold callName
  refine .ite (.ite ?_ (.fail _)) (.get fun m _ => ?_)
  · exact (captureOutput_agree (callSuper_agree h)).bind fun _ => .get fun _ _ => .value _
  · rw [lookup_eq hcontext]
    split
    · exact recurse_agree h _ args
    · exact callValue_agree h _ args
    · exact .fail _

mutual

theorem evalExpr_agree (e : Expr) : Agree (evalExpr host calls e) (evalExpr host' calls' e) := by
  cases e with
  | const v _ =>
    rw [evalExpr, evalExpr]
    exact .value v
  | var name _ =>
    rw [evalExpr, evalExpr]
    refine .get fun m _ => ?_
    rw [lookup_eq hcontext]
    exact .value _
  | captured _ =>
    rw [evalExpr, evalExpr]
    exact .get fun m _ => .value m.captured
  | slice e start stop step line =>
    rw [evalExpr, evalExpr]
    refine (evalExpr_agree e).bind fun v => ?_
    refine (evalOption_agree start).bind fun first => ?_
    refine (evalOption_agree stop).bind fun last => ?_
    refine (evalOption_agree step).bind fun width => ?_
    exact .located _ (.lift _)
  | not e _ =>
    rw [evalExpr, evalExpr]
    refine (evalExpr_agree e).bind fun v => ?_
    exact (Agree.located _ (truth_agree v)).bind fun t => .value _
  | neg e line =>
    rw [evalExpr, evalExpr]
    exact (evalExpr_agree e).bind fun v => .located _ (.lift (negate v))
  | binary op left right _ =>
    rw [evalExpr, evalExpr]
    refine (evalExpr_agree left).bind fun a => ?_
    exact (evalExpr_agree right).bind fun b => .located _ (operate_agree op a b)
  | and left right _ =>
    rw [evalExpr, evalExpr]
    refine (evalExpr_agree left).bind fun a => ?_
    refine (Agree.located _ (truth_agree a)).bind fun t => ?_
    exact .ite (evalExpr_agree right) (.value a)
  | or left right _ =>
    rw [evalExpr, evalExpr]
    refine (evalExpr_agree left).bind fun a => ?_
    refine (Agree.located _ (truth_agree a)).bind fun t => ?_
    exact .ite (.value a) (evalExpr_agree right)
  | chain first links _ =>
    rw [evalExpr, evalExpr]
    refine (evalExpr_agree first).bind fun a => ?_
    exact (evalLinks_agree a links).bind fun holds => .value _
  | choose test yes no _ =>
    rw [evalExpr, evalExpr]
    refine (evalExpr_agree test).bind fun v => ?_
    refine (Agree.located _ (truth_agree v)).bind fun t => ?_
    refine .ite (evalExpr_agree yes) ?_
    exact (evalOption_agree no).bind fun w => .value _
  | filter name e args line =>
    rw [evalExpr, evalExpr]
    refine (evalExpr_agree e).bind fun v => ?_
    refine (evalArgs_agree args).bind fun given => .located _ ?_
    exact (gather_agree given).bind fun found => .get fun m _ => withoutState_agree _ _
  | test name e args line =>
    rw [evalExpr, evalExpr]
    refine (evalExpr_agree e).bind fun v => ?_
    refine (evalArgs_agree args).bind fun given => .located _ ?_
    exact (gather_agree given).bind fun found => withoutState_agree _ _
  | attr e name _ =>
    rw [evalExpr, evalExpr]
    exact (evalExpr_agree e).bind fun v => .located _ (memberOrMissing_agree v _)
  | item e key _ =>
    rw [evalExpr, evalExpr]
    refine (evalExpr_agree e).bind fun v => ?_
    exact (evalExpr_agree key).bind fun k => .located _ (memberOrMissing_agree v k)
  | call callee args line =>
    -- What is called decides how: a name, a block of `self`, a method, or any other value.
    unfold evalExpr
    dsimp only
    split
    · refine (evalArgs_agree args).bind fun given => .located _ ?_
      exact (gather_agree given).bind fun found => callName_agree h hcontext _ found
    · refine (captureOutput_agree (.located _ (callBlock_agree h _ _))).bind fun _ => ?_
      exact .get fun m _ => .value _
    · refine (evalExpr_agree _).bind fun v => ?_
      refine (evalArgs_agree args).bind fun given => .located _ ?_
      exact (gather_agree given).bind fun found => callMethod_agree h v _ found
    · refine (evalExpr_agree callee).bind fun f => ?_
      refine (evalArgs_agree args).bind fun given => .located _ ?_
      exact (gather_agree given).bind fun found => callValue_agree h f found
  | list items _ =>
    rw [evalExpr, evalExpr]
    exact (evalItems_agree items).bind fun vs => .value _
  | map entries _ =>
    rw [evalExpr, evalExpr]
    exact (evalPairs_agree entries).bind fun vs => .value _

theorem evalOption_agree (e : Option Expr) :
    Agree (evalOption host calls e) (evalOption host' calls' e) := by
  cases e with
  | none =>
    rw [evalOption, evalOption]
    exact .value none
  | some e =>
    rw [evalOption, evalOption]
    exact (evalExpr_agree e).bind fun v => .value (some v)

theorem evalLinks_agree (left : Value) (links : List Link) :
    Agree (evalLinks host calls left links) (evalLinks host' calls' left links) := by
  cases links with
  | nil =>
    rw [evalLinks, evalLinks]
    exact .value true
  | cons link rest =>
    cases link with
    | mk op e =>
      rw [evalLinks, evalLinks]
      refine (evalExpr_agree e).bind fun right => ?_
      refine (Agree.located _ (compareValues_agree op left right)).bind fun holds => ?_
      exact .ite (evalLinks_agree right rest) (.value false)

theorem evalArgs_agree (args : List Arg) :
    Agree (evalArgs host calls args) (evalArgs host' calls' args) := by
  rw [evalArgs, evalArgs]
  refine (evalPositions_agree args).bind fun positions => ?_
  exact (evalNamed_agree args).bind fun named => .value _

theorem evalPositions_agree (args : List Arg) :
    Agree (evalPositions host calls args) (evalPositions host' calls' args) := by
  cases args with
  | nil =>
    rw [evalPositions, evalPositions]
    exact .value []
  | cons arg rest =>
    have hrest := evalPositions_agree rest
    cases arg with
    | positional e | spread e =>
      rw [evalPositions, evalPositions]
      exact (evalExpr_agree e).bind fun v => hrest.bind fun vs => .value _
    | keyword name e | spreadKeywords e =>
      rw [evalPositions, evalPositions]
      exact hrest

theorem evalNamed_agree (args : List Arg) :
    Agree (evalNamed host calls args) (evalNamed host' calls' args) := by
  cases args with
  | nil =>
    rw [evalNamed, evalNamed]
    exact .value []
  | cons arg rest =>
    have hrest := evalNamed_agree rest
    cases arg with
    | positional e | spread e =>
      rw [evalNamed, evalNamed]
      exact hrest
    | keyword name e | spreadKeywords e =>
      rw [evalNamed, evalNamed]
      exact (evalExpr_agree e).bind fun v => hrest.bind fun vs => .value _

theorem evalItems_agree (items : List Expr) :
    Agree (evalItems host calls items) (evalItems host' calls' items) := by
  cases items with
  | nil =>
    rw [evalItems, evalItems]
    exact .value []
  | cons e rest =>
    rw [evalItems, evalItems]
    refine (evalExpr_agree e).bind fun v => ?_
    exact (evalItems_agree rest).bind fun vs => .value (v :: vs)

theorem evalPairs_agree (entries : List Pair) :
    Agree (evalPairs host calls entries) (evalPairs host' calls' entries) := by
  cases entries with
  | nil =>
    rw [evalPairs, evalPairs]
    exact .value []
  | cons entry rest =>
    cases entry with
    | mk k v =>
      rw [evalPairs, evalPairs]
      refine (evalExpr_agree k).bind fun key => ?_
      refine (evalExpr_agree v).bind fun value => ?_
      exact (evalPairs_agree rest).bind fun others => .value _

end

/-! ### Statements -/

mutual

theorem assign_agree (goal : Target) (v : Value) :
    Agree (assign host calls goal v) (assign host' calls' goal v) := by
  cases goal with
  | name name _ =>
    unfold assign
    exact store_agree name v
  | member e name _ =>
    unfold assign
    refine (evalExpr_agree h hcontext e).bind fun owner => ?_
    exact .located _ (setMember_agree owner name v)
  | list items line =>
    unfold assign
    refine (Agree.located _ ((opened_agree v).bind fun w => .lift _)).bind fun parts => ?_
    exact assignAll_agree items parts

theorem assignAll_agree (goals : List Target) (vs : List Value) :
    Agree (assignAll host calls goals vs) (assignAll host' calls' goals vs) := by
  cases goals with
  | nil =>
    unfold assignAll
    exact .value ()
  | cons goal rest =>
    cases vs with
    | nil =>
      unfold assignAll
      exact .value ()
    | cons v vs =>
      unfold assignAll
      exact (assign_agree goal v).bind fun _ => assignAll_agree rest vs

end

mutual

theorem evalStmt_agree (stmt : Stmt) (hstmt : stmt.isSelfContained) :
    Agree (evalStmt host calls stmt) (evalStmt host' calls' stmt) := by
  cases stmt with
  | raw text _ =>
    unfold evalStmt
    exact (write_agree text).bind fun _ => .value _
  | emit e =>
    unfold evalStmt
    refine (evalExpr_agree h hcontext e).bind fun v => ?_
    refine (Agree.located _ (resultText_agree v)).bind fun text => ?_
    exact (write_agree text).bind fun _ => .value _
  | forLoop goal iter filter recursive body orElse =>
    unfold Stmt.isSelfContained at hstmt
    rw [Bool.and_eq_true] at hstmt
    obtain ⟨hbody, horElse⟩ := hstmt
    have hassign := assign_agree h hcontext goal
    -- The rounds are the same with and without a filter, so they are run once here.
    have hrounds : ∀ (items : List Value) (counted : Bool), Agree
        (do
          let again := if recursive then some ⟨goal, body, iter.settled⟩ else none
          let id ← located iter.settled (enterLoop items counted true again)
          eachItem id (assign host calls goal) (evalBody host calls body) 0 items
          popFrame
          if items.isEmpty then evalBody host calls orElse else return .next)
        (do
          let again := if recursive then some ⟨goal, body, iter.settled⟩ else none
          let id ← located iter.settled (enterLoop items counted true again)
          eachItem id (assign host' calls' goal) (evalBody host' calls' body) 0 items
          popFrame
          if items.isEmpty then evalBody host' calls' orElse else return .next) := by
      intro items counted
      refine (Agree.located _ (enterLoop_agree items counted true ?_)).bind fun id => ?_
      · intro again hagain
        split at hagain
        · obtain rfl := Option.some.inj hagain
          exact hbody
        · cases hagain
      · refine (eachItem_agree id hassign (evalBody_agree body hbody) 0 items).bind
          fun _ => popFrame_agree.bind fun _ => ?_
        exact .ite (evalBody_agree orElse horElse) (.value _)
    unfold evalStmt
    refine (evalExpr_agree h hcontext iter).bind fun v => (opened_agree v).bind fun v => ?_
    refine (Agree.located _ (.lift (walk v))).bind fun all => ?_
    dsimp only
    split
    · exact (Agree.value all).bind fun items => hrounds items _
    · next condition =>
      have hnone : ∀ again : Recursion, none = some again → isSelfContainedBody again.body := nofun
      refine (Agree.located _ (enterLoop_agree all (isCounted v) false hnone)).bind fun _ => ?_
      have hcondition := (evalExpr_agree h hcontext condition).bind fun w =>
        Agree.located condition.settled (truth_agree w)
      refine (passing_agree hassign hcondition all).bind fun kept => popFrame_agree.bind fun _ => ?_
      exact (Agree.value kept).bind fun items => hrounds items _
  | ifCond test yes no =>
    unfold Stmt.isSelfContained at hstmt
    rw [Bool.and_eq_true] at hstmt
    unfold evalStmt
    refine (evalExpr_agree h hcontext test).bind fun v => ?_
    refine (Agree.located _ (truth_agree v)).bind fun t => ?_
    exact .ite (evalBody_agree yes hstmt.1) (evalBody_agree no hstmt.2)
  | withBlock bindings body =>
    unfold Stmt.isSelfContained at hstmt
    unfold evalStmt
    refine (pushFrame_agree _).bind fun _ => ?_
    refine .bind (.forM (fun binding => ?_) bindings) fun _ => ?_
    · exact (evalExpr_agree h hcontext binding.2).bind fun v => assign_agree h hcontext binding.1 v
    · refine (evalBody_agree body hstmt).bind fun flow => ?_
      exact popFrame_agree.bind fun _ => .value flow
  | set goal e =>
    unfold evalStmt
    refine (evalExpr_agree h hcontext e).bind fun v => ?_
    exact (assign_agree h hcontext goal v).bind fun _ => .value _
  | setBlock goal filter body =>
    unfold Stmt.isSelfContained at hstmt
    unfold evalStmt
    refine (captureOutput_agree (evalBody_agree body hstmt)).bind fun result => ?_
    refine .get fun m _ => ?_
    dsimp only
    split
    · refine (Agree.value _).bind fun v => ?_
      exact (assign_agree h hcontext goal v).bind fun _ => .value _
    · next e =>
      refine (withCaptured_agree _ (evalExpr_agree h hcontext e)).bind fun v => ?_
      exact (assign_agree h hcontext goal v).bind fun _ => .value _
  | autoEscape e body =>
    unfold Stmt.isSelfContained at hstmt
    unfold evalStmt
    refine (evalExpr_agree h hcontext e).bind fun v => .get fun before _ => ?_
    refine (Agree.located _ (.lift (escapeOf v))).bind fun new => ?_
    refine .bind (.modify fun m hm => hm.congr rfl rfl rfl rfl) fun _ => ?_
    refine (evalBody_agree body hstmt).bind fun flow => ?_
    exact .bind (.modify fun m hm => hm.congr rfl rfl rfl rfl) fun _ => .value flow
  | filterBlock filter body =>
    unfold Stmt.isSelfContained at hstmt
    unfold evalStmt
    refine (captureOutput_agree (evalBody_agree body hstmt)).bind fun result => ?_
    refine .get fun m _ => ?_
    refine (withCaptured_agree _ (evalExpr_agree h hcontext filter)).bind fun v => ?_
    refine (Agree.located _ (resultText_agree v)).bind fun text => ?_
    exact (write_agree text).bind fun _ => .value _
  | block name mandatory line =>
    unfold evalStmt
    exact (Agree.located _ (callBlock_agree h name mandatory)).bind fun _ => .value _
  | extend e line => cases hstmt
  | inclusion e ignoreMissing line => cases hstmt
  | importAll e goal line => cases hstmt
  | importNames e names line => cases hstmt
  | define name params body line =>
    unfold Stmt.isSelfContained at hstmt
    unfold evalStmt
    refine (defineMacro_agree hcontext name params hstmt).bind fun v => ?_
    exact (store_agree name v).bind fun _ => .value _
  | callBlock e params body line =>
    unfold Stmt.isSelfContained at hstmt
    unfold evalStmt
    refine (defineMacro_agree hcontext "caller" params hstmt).bind fun caller => ?_
    refine (h.expr _).bind fun v => ?_
    refine (Agree.located _ (resultText_agree v)).bind fun text => ?_
    exact (write_agree text).bind fun _ => .value _
  | perform e =>
    unfold evalStmt
    exact (evalExpr_agree h hcontext e).bind fun _ => .value _
  | «break» | «continue» =>
    unfold evalStmt
    exact .value _

theorem evalBody_agree (body : List Stmt) (hbody : isSelfContainedBody body) :
    Agree (evalBody host calls body) (evalBody host' calls' body) := by
  cases body with
  | nil => exact .value _
  | cons stmt rest =>
    unfold isSelfContainedBody at hbody
    rw [Bool.and_eq_true] at hbody
    unfold evalBody
    refine (evalStmt_agree stmt hbody.1).bind fun flow => ?_
    split
    · exact evalBody_agree rest hbody.2
    · exact .value _

end

end

/-! ### Whole templates -/

/-- At every level, bodies run alike with all loaders. -/
theorem callsOf_agree {host host' : Host} (hcontext : host.context = host'.context) (n : Nat) :
    CallsAgree (callsOf host n) (callsOf host' n) := by
  induction n with
  | zero => exact ⟨fun _ _ => .fail _, fun _ => .fail _⟩
  | succ n ih =>
    exact ⟨fun body hbody => evalBody_agree ih hcontext body hbody,
      fun e => evalExpr_agree ih hcontext e⟩

/-- A template that uses no other one begins in a self-contained state. -/
theorem Machine.SelfContained.start {source : Source} (h : source.isSelfContained) :
    (Machine.start source).SelfContained where
  macros := by
    intro id body hbody
    simp [Machine.start] at hbody
  loops := by
    intro id loop again hloop
    simp [Machine.start] at hloop
  blocks := by
    intro b hb body hbody
    unfold Source.isSelfContained at h
    rw [Bool.and_eq_true, List.all_eq_true] at h
    obtain ⟨block, hblock, rfl⟩ := List.mem_map.1 hb
    obtain rfl := List.mem_singleton.1 hbody
    exact h.2 block hblock
  parent := rfl

/-- A template that uses no other one is rendered alike, whatever other templates there are. -/
theorem Source.render_congr {source : Source} (h : source.isSelfContained)
    (context : List (String × Value)) (load load' : String → Loaded) :
    source.render ⟨context, load⟩ = source.render ⟨context, load'⟩ := by
  have hcontext : (Host.mk context load).context = (Host.mk context load').context := rfl
  unfold Source.render StateT.run
  -- The number of levels does not matter, and must not be computed.
  generalize levels = n
  have hrun := runSource_agree (callsOf_agree hcontext n) h (Machine.start source) (.start h)
  rw [hrun.1]

/-- So is a text that reads as such a template. -/
theorem renderNamed_congr {name text : String}
    (h : ∀ source, Source.parse name text = .ok source → source.isSelfContained)
    (load load' : String → Loaded) (env : Environment) :
    renderNamed load env name text = renderNamed load' env name text := by
  unfold renderNamed
  cases hparse : Source.parse name text with
  | error failure => simp only [bind, Except.bind]
  | ok source =>
    simp only [bind, Except.bind]
    exact Source.render_congr (h source hparse) (contextOf env) load load'

end Scaffold.Template
