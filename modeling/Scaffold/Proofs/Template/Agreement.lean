import Scaffold.Template.Eval

/-! # Templates that use no other template

  A template is self-contained if none of its statements extends, includes or
  imports. While such a template is rendered, every body that the state of the
  rendering can lead to is self-contained as well.

  - `Source.isSelfContained`: the condition on the syntax.
  - `Machine.SelfContained`: the invariant of a rendering.
  - `Agree`: two computations that cannot be told apart where the invariant
    holds, and that keep it. It goes through all ways to combine computations.
-/

namespace Scaffold.Template

/-! ### Statements -/

mutual

/-- Whether a statement uses no other template, and no part of it does. -/
def Stmt.isSelfContained : Stmt → Bool
  | .extend _ _ | .inclusion _ _ _ | .importAll _ _ _ | .importNames _ _ _ => false
  | .forLoop _ _ _ _ body orElse => isSelfContainedBody body && isSelfContainedBody orElse
  | .ifCond _ yes no => isSelfContainedBody yes && isSelfContainedBody no
  | .withBlock _ body | .setBlock _ _ body | .autoEscape _ body | .filterBlock _ body
  | .define _ _ body _ | .callBlock _ _ body _ => isSelfContainedBody body
  | .raw _ _ | .emit _ | .set _ _ | .block _ _ _ | .perform _ | .break | .continue => true

/-- Whether no statement of a body uses another template. -/
def isSelfContainedBody : List Stmt → Bool
  | [] => true
  | stmt :: rest => stmt.isSelfContained && isSelfContainedBody rest

end

/-- Whether a template uses no other template, in its statements and in its blocks. -/
def Source.isSelfContained (source : Source) : Bool :=
  isSelfContainedBody source.body && source.blocks.all fun b => isSelfContainedBody b.2

/-! ### States -/

/-- Whatever body a rendering can come to uses no other template. -/
structure Machine.SelfContained (m : Machine) : Prop where
  /-- The bodies of macros. -/
  macros : ∀ (id : Nat) (body : MacroBody), m.macros[id]? = some body →
    isSelfContainedBody body.body
  /-- The bodies of loops that can run again. -/
  loops : ∀ (id : Nat) (loop : LoopState) (again : Recursion), m.loops[id]? = some loop →
    loop.recursion = some again → isSelfContainedBody again.body
  /-- The bodies of blocks. -/
  blocks : ∀ b ∈ m.blocks, ∀ body ∈ b.2.bodies, isSelfContainedBody body.2
  /-- There is no parent template to go on with. -/
  parent : m.parent = none

namespace Machine.SelfContained

variable {m m' : Machine}

/-- Only macros, loops, blocks and the parent matter. -/
theorem congr (h : m.SelfContained) (hmacros : m'.macros = m.macros) (hloops : m'.loops = m.loops)
    (hblocks : m'.blocks = m.blocks) (hparent : m'.parent = m.parent) : m'.SelfContained where
  macros := hmacros ▸ h.macros
  loops := hloops ▸ h.loops
  blocks := hblocks ▸ h.blocks
  parent := hparent ▸ h.parent

/-- The bodies of a block that is found by its name. -/
theorem bodies_of_lookup (h : m.SelfContained) {name : String} {stack : BlockStack}
    (hstack : m.blocks.lookup name = some stack) :
    ∀ body ∈ stack.bodies, isSelfContainedBody body.2 := by
  obtain ⟨before, after, hblocks, -⟩ := List.lookup_eq_some_iff.1 hstack
  exact h.blocks (name, stack) (by simp [hblocks])

/-- A state of a loop can change in all but how the loop runs again. -/
theorem modifyLoop (h : m.SelfContained) (id : Nat) {f : LoopState → LoopState}
    (hf : ∀ l, (f l).recursion = l.recursion) :
    Machine.SelfContained { m with loops := m.loops.modify id f } where
  macros := h.macros
  loops := by
    intro i loop again hloop hagain
    rw [Array.getElem?_modify] at hloop
    split at hloop
    · obtain ⟨old, hold, rfl⟩ := Option.map_eq_some_iff.1 hloop
      exact h.loops i old again hold (hf old ▸ hagain)
    · exact h.loops i loop again hloop hagain
  blocks := h.blocks
  parent := h.parent

theorem pushLoop (h : m.SelfContained) {loop : LoopState}
    (hloop : ∀ again, loop.recursion = some again → isSelfContainedBody again.body) :
    Machine.SelfContained { m with loops := m.loops.push loop } where
  macros := h.macros
  loops := by
    intro i l again hl hagain
    rw [Array.getElem?_push] at hl
    split at hl
    · obtain rfl := Option.some.inj hl
      exact hloop again hagain
    · exact h.loops i l again hl hagain
  blocks := h.blocks
  parent := h.parent

theorem pushMacro (h : m.SelfContained) {made : MacroBody} (hmade : isSelfContainedBody made.body) :
    Machine.SelfContained { m with macros := m.macros.push made } where
  macros := by
    intro i body hbody
    rw [Array.getElem?_push] at hbody
    split at hbody
    · obtain rfl := Option.some.inj hbody
      exact hmade
    · exact h.macros i body hbody
  loops := h.loops
  blocks := h.blocks
  parent := h.parent

end Machine.SelfContained

/-! ### Agreement -/

/-- Two computations do the same in every self-contained state, and leave a self-contained one. -/
def Agree {α : Type} (f g : Eval α) : Prop :=
  ∀ m : Machine, m.SelfContained → f m = g m ∧ ∀ a m', f m = .ok (a, m') → m'.SelfContained

section

variable {α β : Type} {f g : Eval α} {k k' : α → Eval β}

theorem Agree.value (a : α) : Agree (pure a) (pure a) := by
  intro m hm
  refine ⟨rfl, fun a' m' h => ?_⟩
  obtain ⟨-, rfl⟩ := Prod.mk.inj (Except.ok.inj h)
  exact hm

theorem Agree.fail (kind : FailureKind) :
    Agree (Template.fail (α := α) kind) (Template.fail kind) :=
  fun _ _ => ⟨rfl, nofun⟩

theorem Agree.lift (x : Outcome α) : Agree (monadLift x) (monadLift x) := by
  intro m hm
  refine ⟨rfl, fun a' m' h => ?_⟩
  cases x with
  | error failure => cases h
  | ok a =>
    obtain ⟨-, rfl⟩ := Prod.mk.inj (Except.ok.inj h)
    exact hm

theorem Agree.bind (h : Agree f g) (hk : ∀ a, Agree (k a) (k' a)) : Agree (f >>= k) (g >>= k') := by
  intro m hm
  obtain ⟨heq, hkeep⟩ := h m hm
  show (f m >>= fun p => k p.1 p.2) = (g m >>= fun p => k' p.1 p.2) ∧
    ∀ b last, (f m >>= fun p => k p.1 p.2) = .ok (b, last) → last.SelfContained
  rw [← heq]
  cases hf : f m with
  | error failure => exact ⟨rfl, nofun⟩
  | ok p => exact hk p.1 p.2 (hkeep p.1 p.2 hf)

theorem Agree.get {k k' : Machine → Eval β}
    (hk : ∀ m : Machine, m.SelfContained → Agree (k m) (k' m)) :
    Agree (get >>= k) (get >>= k') :=
  fun m hm => hk m hm m hm

theorem Agree.set {m : Machine} (h : m.SelfContained) : Agree (set m) (set m) := by
  intro _ _
  refine ⟨rfl, fun _ m' heq => ?_⟩
  obtain ⟨-, rfl⟩ := Prod.mk.inj (Except.ok.inj heq)
  exact h

theorem Agree.modify {change : Machine → Machine}
    (h : ∀ m : Machine, m.SelfContained → (change m).SelfContained) :
    Agree (modify change) (modify change) := by
  intro m hm
  refine ⟨rfl, fun _ m' heq => ?_⟩
  obtain ⟨-, rfl⟩ := Prod.mk.inj (Except.ok.inj heq)
  exact h m hm

theorem Agree.ite {c : Prop} [Decidable c] {f' g' : Eval α} (h : Agree f g) (h' : Agree f' g') :
    Agree (if c then f else f') (if c then g else g') := by
  split
  · exact h
  · exact h'

/-- A check in front of a computation. -/
theorem Agree.guard {c : Prop} [Decidable c] (kind : FailureKind) (h : Agree f g) :
    Agree (if c then Template.fail kind >>= fun _ : Unit => f else f)
      (if c then Template.fail kind >>= fun _ : Unit => g else g) :=
  .ite ((Agree.fail kind).bind fun _ => h) h

/-- A computation whose failures are told in another way. -/
theorem Agree.mapFailure {f' g' : Eval α} (h : Agree f g) (tell : Machine → Failure → Failure)
    (hf : ∀ m, f' m = (f m).mapError (tell m)) (hg : ∀ m, g' m = (g m).mapError (tell m)) :
    Agree f' g' := by
  intro m hm
  obtain ⟨heq, hkeep⟩ := h m hm
  rw [hf, hg, ← heq]
  refine ⟨rfl, fun a m' hok => ?_⟩
  cases hfm : f m with
  | error failure =>
    rw [hfm] at hok
    cases hok
  | ok result =>
    rw [hfm] at hok
    obtain rfl := Except.ok.inj hok
    exact hkeep a m' hfm

theorem located_eq (line : Nat) (f : Eval α) (m : Machine) :
    Template.located line f m = (f m).mapError fun failure => failure.locate m.template line := by
  unfold Template.located
  cases f m <;> rfl

theorem Agree.located (line : Nat) (h : Agree f g) :
    Agree (Template.located line f) (Template.located line g) :=
  h.mapFailure _ (located_eq line f) (located_eq line g)

theorem Agree.mapM {γ : Type} {step step' : γ → Eval β} (h : ∀ c, Agree (step c) (step' c))
    (cs : List γ) : Agree (cs.mapM step) (cs.mapM step') := by
  induction cs with
  | nil => exact .value []
  | cons c rest ih =>
    rw [List.mapM_cons, List.mapM_cons]
    exact (h c).bind fun b => ih.bind fun bs => .value (b :: bs)

theorem Agree.forM {γ : Type} {step step' : γ → Eval Unit} (h : ∀ c, Agree (step c) (step' c))
    (cs : List γ) : Agree (cs.forM step) (cs.forM step') := by
  induction cs with
  | nil => exact .value ()
  | cons c rest ih =>
    show Agree (step c >>= fun _ => rest.forM step) (step' c >>= fun _ => rest.forM step')
    exact (h c).bind fun _ => ih

end

end Scaffold.Template
