import Scaffold.Proofs.Wildcard.Remainders
import Scaffold.Wildcard.Pattern

/-! # Patterns by components

  What the patterns of scripts are read as, component by component. A double star
  is merged with the slash next to it.

  - `IsComponent`: a double star, or a name in which stars stand alone.
  - `componentTokens`: the tokens of components behind a slash.
  - `parse_components`: the tokens of a pattern.
  - `compile_components`: all such patterns can be compiled.
-/

namespace Scaffold.Wildcard

variable {st st' : ParseState} {tokens : List Token} {component : String}

/-! ### Components -/

/-- A component of a pattern: a double star, or a text without brackets and braces in which no two
stars stand side by side. -/
def IsComponent (component : String) : Prop :=
  component = "**" ∨
    (component ≠ "" ∧ '[' ∉ component.toList ∧ ']' ∉ component.toList ∧ '{' ∉ component.toList ∧
      '}' ∉ component.toList ∧ ¬ ['*', '*'] <:+: component.toList)

instance (component : String) : Decidable (IsComponent component) :=
  inferInstanceAs (Decidable (_ = _ ∨ (_ ≠ _ ∧ _ ∉ _ ∧ _ ∉ _ ∧ _ ∉ _ ∧ _ ∉ _ ∧ ¬ _ <:+: _)))

/-- What a character of a name stands for. -/
def nameToken : Char → Token
  | '*' => .zeroOrMore
  | '?' => .any
  | c => .literal c

/-- A double star in front of tokens, which begin with a slash or a double star. -/
def widen : List Token → List Token
  | [] => [.recursiveSuffix]
  | .literal _ :: more => .recursiveZeroOrMore :: more
  | tokens => tokens

/-- The tokens of components, each behind a slash. -/
def componentTokens : List String → List Token
  | [] => []
  | component :: rest =>
    if component = "**" then widen (componentTokens rest)
    else .literal '/' :: component.toList.map nameToken ++ componentTokens rest

/-- The tokens at the start of a pattern, where no slash is in front. -/
def lead : List Token → List Token
  | .literal _ :: more => more
  | .recursiveZeroOrMore :: more => .recursivePrefix :: more
  | .recursiveSuffix :: more => .recursivePrefix :: more
  | tokens => tokens

/-- Two double stars are one. -/
@[simp] theorem widen_widen (tokens : List Token) : widen (widen tokens) = widen tokens := by
  fun_cases widen tokens with
  | case1 => rfl
  | case2 => rfl
  | case3 hnil hliteral => rw [widen] <;> assumption

/-- Other characters stand for themselves. -/
theorem nameToken_literal {c : Char} (hstar : c ≠ '*') (hany : c ≠ '?') :
    nameToken c = .literal c := by
  unfold nameToken
  split <;> first | contradiction | rfl

/-! ### Names -/

/-- What has been read, if a last star that is pending counts as one. -/
inductive Settled : ParseState → List Token → Prop where
  /-- Nothing is pending. -/
  | normal {tokens previous} : Settled ⟨tokens, [], previous, .normal⟩ tokens
  /-- A star is pending. -/
  | star {tokens previous} : Settled ⟨tokens, [], previous, .star⟩ (.zeroOrMore :: tokens)

/-- Outside of brackets and braces a character other than a star adds what it stands for. -/
theorem plain_nameToken (hgroups : st.groups = []) {c : Char} (hc : c ∉ ['[', ']', '{', '}'])
    (hstar : c ≠ '*') :
    ParseState.plain Pattern.dialect st c = .ok (st.push (nameToken c) c) := by
  unfold ParseState.plain
  split
  · exact absurd rfl hstar
  · rfl
  · exact absurd (by simp) hc
  · exact absurd (by simp) hc
  · exact absurd (by simp) hc
  · unfold ParseState.comma
    rw [hgroups]
    rfl
  · rfl
  · next hany _ _ _ _ _ => rw [nameToken_literal hstar hany]

theorem Settled.step (h : Settled st tokens) {c : Char} (hc : c ∉ ['[', ']', '{', '}'])
    (hstar : c ≠ '*') :
    st.step Pattern.dialect c = .ok ⟨nameToken c :: tokens, [], some c, .normal⟩ := by
  cases h with
  | normal => exact plain_nameToken rfl hc hstar
  | star =>
    unfold ParseState.step
    simp only
    rw [if_neg hstar]
    exact plain_nameToken rfl hc hstar

/-- The end of the text ends a name. -/
theorem Settled.finish (h : Settled st tokens) : st.finish = .ok tokens.reverse := by
  cases h <;> rfl

/-- A name in which stars stand alone adds what its characters stand for. -/
theorem Settled.name (h : Settled st tokens) {cs : List Char}
    (hcs : ∀ c ∈ cs, c ∉ ['[', ']', '{', '}']) (hstars : ¬ ['*', '*'] <:+: cs)
    (hfirst : ∀ previous read, st = ⟨read, [], previous, .star⟩ → cs.head? ≠ some '*') :
    ∃ st', cs.foldlM (ParseState.step Pattern.dialect) st = .ok st' ∧
      Settled st' ((cs.map nameToken).reverse ++ tokens) := by
  induction cs generalizing st tokens with
  | nil => exact ⟨st, rfl, h⟩
  | cons c cs ih =>
    obtain ⟨hc, hmore⟩ := List.forall_mem_cons.1 hcs
    have hstars' : ¬ ['*', '*'] <:+: cs := fun hinfix => hstars (List.infix_cons hinfix)
    rw [List.map_cons, List.reverse_cons, List.append_assoc, List.singleton_append,
      List.foldlM_cons]
    by_cases hstar : c = '*'
    · subst hstar
      cases h with
      | normal =>
        -- The next character is no star.
        refine ih (.star : Settled ⟨_, [], _, .star⟩ _) hmore hstars' fun _ _ _ hhead => ?_
        obtain ⟨rest, rfl⟩ := List.head?_eq_some_iff.1 hhead
        exact hstars (List.prefix_append ['*', '*'] rest).isInfix
      | star => exact absurd rfl (hfirst _ _ rfl)
    · rw [h.step hc hstar]
      exact ih .normal hmore hstars' nofun

/-! ### Slashes -/

/-- Where a component begins. -/
inductive AtComponent : ParseState → Prop where
  /-- Nothing has been read. -/
  | start : AtComponent ⟨[], [], none, .normal⟩
  /-- A slash has been read. -/
  | slash {before} : AtComponent ⟨.literal '/' :: before, [], some '/', .normal⟩
  /-- A double star between slashes has been read. -/
  | skipping {before} : AtComponent ⟨.recursiveZeroOrMore :: before, [], some '/', .normal⟩
  /-- A double star at the start has been read, and its slash. -/
  | leading {before} : AtComponent ⟨.recursivePrefix :: before, [], some '/', .normal⟩

/-- The tokens of a pattern by those that have been read, the last one first, and by those of the
components that follow. The slash in front of these has been read. -/
def mergeTokens : List Token → List Token → List Token
  | [], more => lead more
  | .recursivePrefix :: before, more => before.reverse ++ lead (widen more)
  | .recursiveZeroOrMore :: before, more => before.reverse ++ widen more
  | _ :: before, more => before.reverse ++ more

namespace AtComponent

variable (h : AtComponent st)

include h

theorem settled : Settled st st.tokens := by
  cases h <;> exact .normal

theorem mergeTokens_literal (more : List Token) :
    mergeTokens st.tokens (.literal '/' :: more) = st.tokens.reverse ++ more := by
  cases h <;> simp [mergeTokens, lead, widen]

/-- A double star and a slash are merged with what follows. -/
theorem doubleStar_slash :
    ∃ st', ['*', '*', '/'].foldlM (ParseState.step Pattern.dialect) st = .ok st' ∧
      AtComponent st' ∧
      ∀ more, mergeTokens st'.tokens more = mergeTokens st.tokens (widen more) := by
  cases h with
  | start => exact ⟨_, rfl, .leading, fun more => rfl⟩
  | slash => exact ⟨_, rfl, .skipping, fun more => rfl⟩
  | @skipping before =>
    refine ⟨⟨.recursiveZeroOrMore :: before, [], some '/', .normal⟩, rfl, .skipping, fun more => ?_⟩
    rw [mergeTokens, mergeTokens, widen_widen]
  | @leading before =>
    refine ⟨⟨.recursivePrefix :: before, [], some '/', .normal⟩, rfl, .leading, fun more => ?_⟩
    rw [mergeTokens, mergeTokens, widen_widen]

/-- A double star at the end is merged with the slash in front of it. -/
theorem doubleStar_finish :
    ∃ st', ['*', '*'].foldlM (ParseState.step Pattern.dialect) st = .ok st' ∧
      st'.finish = .ok (mergeTokens st.tokens [.recursiveSuffix]) := by
  cases h with
  | start => exact ⟨_, rfl, rfl⟩
  | slash => exact ⟨_, rfl, congrArg Except.ok List.reverse_cons⟩
  | skipping => exact ⟨_, rfl, congrArg Except.ok List.reverse_cons⟩
  | leading => exact ⟨_, rfl, congrArg Except.ok List.reverse_cons⟩

variable (hcomponent : IsComponent component)

include hcomponent

/-- A name adds what its characters stand for. -/
theorem name (hname : component ≠ "**") :
    ∃ st', component.toList.foldlM (ParseState.step Pattern.dialect) st = .ok st' ∧
      Settled st' ((component.toList.map nameToken).reverse ++ st.tokens) := by
  obtain rfl | ⟨-, hopen, hclose, hopen', hclose', hstars⟩ := hcomponent
  · exact absurd rfl hname
  · have hcs : ∀ c ∈ component.toList, c ∉ ['[', ']', '{', '}'] := by
      intro c hc hmem
      simp only [List.mem_cons, List.not_mem_nil, or_false] at hmem
      rcases hmem with rfl | rfl | rfl | rfl
      · exact hopen hc
      · exact hclose hc
      · exact hopen' hc
      · exact hclose' hc
    refine h.settled.name hcs hstars fun previous read hst => ?_
    cases h <;> cases hst

/-- A component with a slash behind it. -/
theorem component_slash :
    ∃ st', (component.toList ++ ['/']).foldlM (ParseState.step Pattern.dialect) st = .ok st' ∧
      AtComponent st' ∧ ∀ rest, mergeTokens st'.tokens (componentTokens rest) =
        mergeTokens st.tokens (componentTokens (component :: rest)) := by
  by_cases hstars : component = "**"
  · obtain ⟨st', hread, hbehind, hmerge⟩ := h.doubleStar_slash
    refine ⟨st', by rw [hstars]; exact hread, hbehind, fun rest => ?_⟩
    rw [componentTokens, if_pos hstars, hmerge]
  · obtain ⟨named, hread, hsettled⟩ := h.name hcomponent hstars
    refine ⟨⟨.literal '/' :: ((component.toList.map nameToken).reverse ++ st.tokens), [], some '/',
      .normal⟩, ?_, .slash, fun rest => ?_⟩
    · have hslash := hsettled.step (c := '/') (by decide) (by decide)
      rw [List.foldlM_append, hread]
      exact congrArg (· >>= pure) hslash
    · rw [componentTokens, if_neg hstars, List.cons_append, h.mergeTokens_literal]
      simp [mergeTokens]

/-- A component at the end. -/
theorem component_finish :
    ∃ st', component.toList.foldlM (ParseState.step Pattern.dialect) st = .ok st' ∧
      st'.finish = .ok (mergeTokens st.tokens (componentTokens [component])) := by
  rw [componentTokens, componentTokens]
  by_cases hstars : component = "**"
  · rw [if_pos hstars, hstars]
    exact h.doubleStar_finish
  · obtain ⟨st', hread, hsettled⟩ := h.name hcomponent hstars
    refine ⟨st', hread, ?_⟩
    rw [if_neg hstars, hsettled.finish, List.append_nil, h.mergeTokens_literal, List.reverse_append,
      List.reverse_reverse]

end AtComponent

/-! ### Patterns -/

/-- The tokens of components that are read where a component begins. -/
theorem read_components {components : List String} (hne : components ≠ [])
    (hcomponents : ∀ component ∈ components, IsComponent component) (h : AtComponent st) :
    ∃ st', (Text.joinWith '/' (components.map String.toList)).foldlM
        (ParseState.step Pattern.dialect) st = .ok st' ∧
      st'.finish = .ok (mergeTokens st.tokens (componentTokens components)) := by
  induction components generalizing st with
  | nil => exact absurd rfl hne
  | cons component rest ih =>
    obtain ⟨hcomponent, hrest⟩ := List.forall_mem_cons.1 hcomponents
    cases rest with
    | nil => exact h.component_finish hcomponent
    | cons next rest =>
      obtain ⟨behind, hread, hbehind, hmerge⟩ := h.component_slash hcomponent
      obtain ⟨st', hmore, hfinish⟩ := ih (List.cons_ne_nil next rest) hrest hbehind
      refine ⟨st', ?_, by rw [hfinish, hmerge]⟩
      rw [List.map_cons, List.map_cons, Text.joinWith, List.append_cons, List.foldlM_append]
      exact (congrArg (· >>= _) hread).trans hmore

/-- The tokens of a pattern. -/
theorem parse_components {text : String}
    (hcomponents : ∀ component ∈ Text.splitAt '/' text, IsComponent component) :
    parse Pattern.dialect text = .ok (lead (componentTokens (Text.splitAt '/' text))) := by
  have hsegments : (Text.splitAt '/' text).map String.toList = Text.segments '/' text.toList := by
    unfold Text.splitAt
    simp
  obtain ⟨st', hread, hfinish⟩ := read_components (Text.splitAt_ne_nil '/' text) hcomponents .start
  rw [hsegments, Text.joinWith_segments] at hread
  unfold parse
  exact (congrArg (· >>= _) hread).trans hfinish

/-! ### Nesting -/

/-- A sequence is as deep as its deepest token. -/
theorem seqDepth_le {n : Nat} (h : ∀ token ∈ tokens, token.depth ≤ n) : seqDepth tokens ≤ n := by
  induction tokens with
  | nil => exact Nat.zero_le n
  | cons token rest ih =>
    obtain ⟨htoken, hrest⟩ := List.forall_mem_cons.1 h
    exact Nat.max_le.2 ⟨htoken, ih hrest⟩

theorem depth_nameToken (c : Char) : (nameToken c).depth ≤ 4 := by
  unfold nameToken
  split <;> simp [Token.depth]

theorem depth_widen (h : ∀ token ∈ tokens, token.depth ≤ 4) :
    ∀ token ∈ widen tokens, token.depth ≤ 4 := by
  fun_cases widen tokens <;> simp_all [Token.depth]

theorem depth_lead (h : ∀ token ∈ tokens, token.depth ≤ 4) :
    ∀ token ∈ lead tokens, token.depth ≤ 4 := by
  fun_cases lead tokens <;> simp_all [Token.depth]

/-- The tokens of components are not nested. -/
theorem depth_componentTokens (components : List String) :
    ∀ token ∈ componentTokens components, token.depth ≤ 4 := by
  induction components with
  | nil => exact nofun
  | cons component rest ih =>
    unfold componentTokens
    split
    · exact depth_widen ih
    · refine List.forall_mem_append.2 ⟨List.forall_mem_cons.2 ⟨by simp [Token.depth], ?_⟩, ih⟩
      exact List.forall_mem_map.2 fun c _ => depth_nameToken c

/-- A pattern that is made of components can be compiled. -/
theorem compile_components {text : String}
    (hcomponents : ∀ component ∈ Text.splitAt '/' (Path.toSlashes text), IsComponent component) :
    Pattern.compile text =
      .ok ⟨⟨lead (componentTokens (Text.splitAt '/' (Path.toSlashes text))), false⟩⟩ := by
  have hdepth := seqDepth_le (depth_lead (depth_componentTokens
    (Text.splitAt '/' (Path.toSlashes text))))
  have hlimit : ¬ depthLimit <
      seqDepth (lead (componentTokens (Text.splitAt '/' (Path.toSlashes text)))) + 1 := by
    unfold depthLimit
    omega
  unfold Pattern.compile Glob.compile
  rw [parse_components hcomponents]
  simp only
  rw [if_neg hlimit]
  rfl

end Scaffold.Wildcard
