import Scaffold.Path

/-! # The steps of a path

  What is left of a path's text when everything that leads nowhere is dropped:
  the names between its slashes except empty ones and `.`. Joining paths appends
  steps, the parent of a path lacks the last one, and the components of a path
  are its head and its steps.

  - `names`, `steps`: the two views of a text.
  - `names_join`, `steps_parent?`, `fileName?_eq`: how the operations act on them.
  - `same_iff`: when two paths are the same.
-/

namespace Scaffold.Path

/-! ### Names and steps -/

/-- Everything between the slashes of a path. -/
def names (p : Path) : List String := Text.splitAt '/' p.text

/-- Whether a name leads to where it is followed from. -/
def IsIdle (name : String) : Prop := name = "" ∨ name = "."

instance (name : String) : Decidable (IsIdle name) :=
  inferInstanceAs (Decidable (name = "" ∨ name = "."))

/-- A name that leads to an entry of the directory it is followed from. -/
def IsPlain (name : String) : Prop := ¬ IsIdle name ∧ name ≠ ".."

/-- The names of a path that lead somewhere. -/
def steps (p : Path) : List String := p.names.filter fun name => ¬ IsIdle name

/-- No name holds a slash. -/
theorem slash_notMem_of_mem_names {p : Path} {name : String} (h : name ∈ p.names) :
    '/' ∉ name.toList := by
  obtain ⟨part, hpart, rfl⟩ := List.mem_map.1 h
  rw [String.toList_ofList]
  exact Text.sep_notMem_of_mem_segments hpart

/-- The characters of a name are characters of the path. -/
theorem mem_text_of_mem_names {p : Path} {name : String} (h : name ∈ p.names) {c : Char}
    (hc : c ∈ name.toList) : c ∈ p.text.toList := by
  obtain ⟨part, hpart, rfl⟩ := List.mem_map.1 h
  rw [String.toList_ofList] at hc
  exact Text.mem_of_mem_segments hpart hc

/-- The characters of the path, slashes apart, are characters of its names. -/
theorem exists_mem_names {p : Path} {c : Char} (h : c ∈ p.text.toList) (hc : c ≠ '/') :
    ∃ name ∈ p.names, c ∈ name.toList := by
  obtain ⟨part, hpart, hmem⟩ := Text.exists_mem_segments h hc
  exact ⟨String.ofList part, List.mem_map_of_mem hpart, by rwa [String.toList_ofList]⟩

/-! ### Names put together -/

/-- Names that are put together are the names of the path. -/
theorem names_joinTexts {parts : List String} (hne : parts ≠ [])
    (h : ∀ part ∈ parts, '/' ∉ part.toList) : names ⟨Text.joinTexts '/' parts⟩ = parts := by
  unfold names Text.splitAt Text.joinTexts
  rw [String.toList_ofList, Text.segments_joinWith (by simpa using hne)]
  · simp
  · intro part hpart
    obtain ⟨name, hname, rfl⟩ := List.mem_map.1 hpart
    exact h name hname

/-- A path that begins with a name is not absolute. -/
theorem isAbsolute_joinTexts {parts : List String}
    (h : ∀ part ∈ parts, part ≠ "" ∧ '/' ∉ part.toList) :
    isAbsolute ⟨Text.joinTexts '/' parts⟩ = false := by
  cases parts with
  | nil => rfl
  | cons part rest =>
    obtain ⟨hne, hslash⟩ := h part List.mem_cons_self
    obtain ⟨c, cs, hcs⟩ : ∃ c cs, part.toList = c :: cs :=
      List.exists_cons_of_ne_nil fun e => hne (String.toList_inj.1 e)
    have hc : c ≠ '/' := fun e => hslash (by simp [hcs, e])
    cases rest <;> simp [isAbsolute, Text.joinTexts, Text.joinWith, hcs, hc]

theorem joinTexts_singleton (name : String) : Text.joinTexts '/' [name] = name := by
  simp [Text.joinTexts, Text.joinWith]

/-- A single name that leads somewhere is the only step. -/
theorem steps_singleton {name : String} (hslash : '/' ∉ name.toList) (hidle : ¬ IsIdle name) :
    steps ⟨name⟩ = [name] := by
  have hnames : names ⟨Text.joinTexts '/' [name]⟩ = [name] :=
    names_joinTexts (List.cons_ne_nil name []) (List.forall_mem_singleton.2 hslash)
  rw [joinTexts_singleton] at hnames
  unfold steps
  rw [hnames, List.filter_cons_of_pos (by simpa using hidle)]
  rfl

/-- Slashes behind the last name are no steps. -/
theorem steps_of_names_eq {p : Path} {before : List String} {name : String} {k : Nat}
    (h : p.names = before ++ name :: List.replicate k "") (hname : ¬ IsIdle name) :
    p.steps = before.filter (fun n => ¬ IsIdle n) ++ [name] := by
  have hslashes : (List.replicate k "").filter (fun n => ¬ IsIdle n) = [] := by simp [IsIdle]
  unfold steps
  rw [h, List.filter_append, List.filter_cons_of_pos (by simpa using hname), hslashes]

/-- A path whose last name is a plain one, with slashes behind it at most. -/
def EndsInName (p : Path) : Prop :=
  ∃ before name k, p.names = before ++ name :: List.replicate k "" ∧ IsPlain name

/-- What is put together of plain names has the names as its steps. -/
theorem steps_of_plain {parts : List String}
    (h : ∀ part ∈ parts, IsPlain part ∧ '/' ∉ part.toList) :
    steps ⟨Text.joinTexts '/' parts⟩ = parts ∧ isAbsolute ⟨Text.joinTexts '/' parts⟩ = false := by
  refine ⟨?_, isAbsolute_joinTexts fun part hpart => ⟨fun e => (h part hpart).1.1 (.inl e),
    (h part hpart).2⟩⟩
  by_cases hne : parts = []
  · subst hne
    rfl
  · unfold steps
    rw [names_joinTexts hne fun part hpart => (h part hpart).2]
    exact List.filter_eq_self.2 fun part hpart => by simpa using (h part hpart).1.1

/-! ### Joining -/

/-- A path with a slash in front is absolute whatever follows. -/
theorem isAbsolute_append {a b : String} (h : a ≠ "") :
    isAbsolute ⟨a ++ b⟩ = isAbsolute ⟨a⟩ := by
  have ha : a.toList ≠ [] := fun e => h (String.toList_inj.1 e)
  unfold isAbsolute
  simp only [String.toList_append]
  cases hs : a.toList with
  | nil => exact absurd hs ha
  | cons c rest =>
    by_cases hc : c = '/'
    · subst hc; rfl
    · rw [List.cons_append]
      split
      · next e => exact absurd (List.cons.inj e).1 hc
      · split
        · next e => exact absurd (List.cons.inj e).1 hc
        · rfl

/-- The text of a path joined to a base that is not empty. -/
theorem join_text (base : Path) {rest : String} (hrest : isAbsolute ⟨rest⟩ = false) :
    (base.join rest).text =
      base.text ++ ((if base.text.toList.getLast?.any (· ≠ '/') then "/" else "") ++ rest) := by
  unfold join
  rw [if_neg (by simp [hrest]), ← String.append_assoc]
  cases base.text.toList.getLast? <;> rfl

/-- An absolute path replaces the base that it is joined to. -/
theorem join_absolute (base : Path) {rest : String} (hrest : isAbsolute ⟨rest⟩ = true) :
    base.join rest = ⟨rest⟩ := if_pos hrest

theorem isAbsolute_join {base : Path} {rest : String} (hbase : base.text ≠ "")
    (hrest : isAbsolute ⟨rest⟩ = false) : (base.join rest).isAbsolute = base.isAbsolute := by
  have htext := join_text base hrest
  rw [show base.join rest = ⟨(base.join rest).text⟩ from rfl, htext]
  exact isAbsolute_append hbase

theorem join_text_ne_empty {base : Path} {rest : String} (hbase : base.text ≠ "") :
    (base.join rest).text ≠ "" := by
  unfold join
  split
  · next h =>
    intro e
    simp only [isAbsolute] at h
    rw [show rest = "" from e] at h
    exact absurd h (by decide)
  · intro e
    have := congrArg String.toList e
    simp only [String.toList_append, String.toList_empty, List.append_eq_nil_iff] at this
    exact hbase (String.toList_inj.1 this.1.1)

/-- A path joined to nothing stays as it is. -/
theorem join_empty {rest : String} (hrest : isAbsolute ⟨rest⟩ = false) :
    join ⟨""⟩ rest = ⟨rest⟩ := by
  simp [join, hrest]

/-- The names of a joined path are those of the base, less an empty one at the end, and those of
what is joined to it. -/
theorem names_join {base : Path} {rest : String} (hbase : base.text ≠ "")
    (hrest : isAbsolute ⟨rest⟩ = false) :
    ∃ front, (base.join rest).names = front ++ names ⟨rest⟩ ∧ front ≠ [] ∧
      (base.names = front ∨ base.names = front ++ [""]) := by
  have hne : base.text.toList ≠ [] := fun e => hbase (String.toList_inj.1 e)
  obtain ⟨front, last, hlast⟩ : ∃ front last, base.text.toList = front ++ [last] :=
    ⟨_, _, (List.dropLast_concat_getLast hne).symm⟩
  unfold names Text.splitAt
  rw [join_text base hrest]
  by_cases hslash : last = '/'
  · -- The base ends with a slash, which parts its last, empty name from what comes before.
    subst hslash
    refine ⟨(Text.segments '/' front).map String.ofList, ?_, ?_, .inr ?_⟩
    · simp [hlast, Text.segments_append_sep]
    · simpa using Text.segments_ne_nil '/' front
    · simp [hlast, Text.segments_append_sep, Text.segments]
  · refine ⟨(Text.segments '/' base.text.toList).map String.ofList, ?_, ?_, .inl rfl⟩
    · have hslashed : base.text.toList.getLast?.any (· ≠ '/') = true := by simp [hlast, hslash]
      rw [if_pos hslashed, String.toList_append, String.toList_append, ← List.map_append]
      exact congrArg _ (Text.segments_append_sep '/' base.text.toList rest.toList)
    · simpa using Text.segments_ne_nil '/' base.text.toList

theorem steps_join {base : Path} {rest : String} (hbase : base.text ≠ "")
    (hrest : isAbsolute ⟨rest⟩ = false) :
    (base.join rest).steps = base.steps ++ steps ⟨rest⟩ := by
  obtain ⟨front, hnames, -, hfront⟩ := names_join hbase hrest
  unfold steps
  rw [hnames, List.filter_append]
  rcases hfront with h | h <;> simp [h, IsIdle]

/-! ### Head and body -/

theorem isIdle_ofList {segment : List Char} :
    IsIdle (String.ofList segment) ↔ segment = [] ∨ segment = ['.'] := by
  unfold IsIdle
  rw [← String.toList_inj, ← String.toList_inj, String.toList_ofList]
  rfl

theorem inner_isSome {segment : List Char} :
    (inner segment).isSome ↔ ¬ (segment = [] ∨ segment = ['.']) := by
  unfold inner
  split
  · next h => simp [h]
  · next h => split <;> simp [h]

/-- The segments that lead somewhere. -/
def moving (body : List (List Char)) : List (List Char) :=
  body.filter fun segment => (inner segment).isSome

theorem moving_cons_idle {segment : List Char} (h : segment = [] ∨ segment = ['.'])
    (body : List (List Char)) : moving (segment :: body) = moving body := by
  have hnone : ¬ (inner segment).isSome := fun hsome => inner_isSome.1 hsome h
  simp [moving, hnone]

theorem moving_append (a b : List (List Char)) : moving (a ++ b) = moving a ++ moving b :=
  List.filter_append a b

/-- The three ways in which a path can begin. -/
theorem parts_cases (p : Path) :
    (p.text = "" ∧ p.parts = ⟨[], []⟩) ∨
    (∃ rest, rest ≠ [] ∧ Text.segments '/' p.text.toList = [] :: rest ∧
      p.parts = ⟨[.root], rest⟩) ∨
    (∃ rest, Text.segments '/' p.text.toList = ['.'] :: rest ∧ p.parts = ⟨[.current], rest⟩) ∨
    (∃ first rest, Text.segments '/' p.text.toList = first :: rest ∧ first ≠ [] ∧
      first ≠ ['.'] ∧ p.parts = ⟨[], first :: rest⟩) := by
  unfold parts
  have hjoin := Text.joinWith_segments '/' p.text.toList
  split
  · next h => exact absurd h (Text.segments_ne_nil _ _)
  · next h =>
    rw [h] at hjoin
    exact .inl ⟨String.toList_inj.1 hjoin.symm, rfl⟩
  · next rest hne h => exact .inr (.inl ⟨rest, fun e => hne (by rw [e]), h, rfl⟩)
  · next rest h => exact .inr (.inr (.inl ⟨rest, h, rfl⟩))
  · next hnil hlone hroot hdot =>
    cases hs : Text.segments '/' p.text.toList with
    | nil => exact absurd hs (Text.segments_ne_nil _ _)
    | cons first rest =>
      refine .inr (.inr (.inr ⟨first, rest, rfl, ?_, ?_, rfl⟩))
      · rintro rfl
        exact hroot rest hs
      · rintro rfl
        exact hdot rest hs

/-- A path is absolute if its head is the root. -/
theorem isAbsolute_iff_head {p : Path} : p.isAbsolute = true ↔ p.parts.head = [.root] := by
  -- A path begins with a slash if its first segment is empty and not the only one.
  have hslash : p.isAbsolute = true ↔ ∃ rest, rest ≠ [] ∧
      Text.segments '/' p.text.toList = [] :: rest := by
    unfold isAbsolute
    cases hs : p.text.toList with
    | nil => simp [Text.segments]
    | cons c rest =>
      by_cases hc : c = '/'
      · subst hc
        simp [Text.segments, Text.segments_ne_nil]
      · simp only [Text.segments, if_neg hc]
        cases Text.segments '/' rest <;> simp [hc]
  rw [hslash]
  rcases p.parts_cases with ⟨h, hp⟩ | ⟨rest, hne, h, hp⟩ | ⟨rest, h, hp⟩ |
    ⟨first, rest, h, hne, -, hp⟩ <;> simp [h, hp]
  · simp [Text.segments]
  · exact hne
  · exact fun _ => hne

/-- The steps of a path are the segments of its text that lead somewhere. -/
theorem steps_eq_moving_segments (p : Path) :
    p.steps = (moving (Text.segments '/' p.text.toList)).map String.ofList := by
  unfold steps names Text.splitAt moving
  -- Names and segments are the same, as texts and as lists.
  rw [List.filter_map]
  congr 1
  refine List.filter_congr fun segment _ => ?_
  rw [Function.comp_apply, Bool.eq_iff_iff, decide_eq_true_iff, isIdle_ofList, inner_isSome]

/-- The steps of a path are the segments of its body that lead somewhere. -/
theorem steps_eq_moving_body (p : Path) : p.steps = (moving p.parts.body).map String.ofList := by
  rw [steps_eq_moving_segments]
  congr 1
  rcases p.parts_cases with ⟨h, hp⟩ | ⟨rest, -, h, hp⟩ | ⟨rest, h, hp⟩ | ⟨first, rest, h, -, -, hp⟩
  · rw [hp, h]
    rfl
  · rw [hp, h, moving_cons_idle (.inl rfl)]
  · rw [hp, h, moving_cons_idle (.inr rfl)]
  · rw [hp, h]

/-! ### The parent -/

theorem slash_notMem_of_mem_body {p : Path} {segment : List Char} (h : segment ∈ p.parts.body) :
    '/' ∉ segment := by
  suffices hmem : segment ∈ Text.segments '/' p.text.toList from
    Text.sep_notMem_of_mem_segments hmem
  rcases p.parts_cases with ⟨-, hp⟩ | ⟨rest, -, hs, hp⟩ | ⟨rest, hs, hp⟩ |
    ⟨first, rest, hs, -, -, hp⟩ <;> rw [hp] at h
  · cases h
  · exact hs ▸ List.mem_cons_of_mem _ h
  · exact hs ▸ List.mem_cons_of_mem _ h
  · exact hs ▸ h

theorem moving_segments_joinWith {body : List (List Char)} (h : ∀ part ∈ body, '/' ∉ part) :
    moving (Text.segments '/' (Text.joinWith '/' body)) = moving body := by
  by_cases hne : body = []
  · subst hne
    rfl
  · rw [Text.segments_joinWith hne h]

/-- A path that is built of a head and a body has the body's steps. -/
theorem steps_ofParts (p : Path) {body : List (List Char)} (h : ∀ part ∈ body, '/' ∉ part) :
    (ofParts p.parts.head body).steps = (moving body).map String.ofList := by
  rw [steps_eq_moving_segments, ← moving_segments_joinWith h]
  congr 1
  have hslash : ∀ cs, moving (Text.segments '/' ('/' :: cs)) = moving (Text.segments '/' cs) :=
    fun cs => moving_cons_idle (.inl rfl) _
  have hdot : ∀ cs, moving (Text.segments '/' ('.' :: '/' :: cs)) =
      moving (Text.segments '/' cs) := fun cs => moving_cons_idle (.inr rfl) _
  rcases p.parts_cases with
    ⟨-, hp⟩ | ⟨rest, -, -, hp⟩ | ⟨rest, -, hp⟩ | ⟨first, rest, -, -, -, hp⟩ <;>
    rw [hp]
  · simp [ofParts]
  · simp [ofParts, hslash]
  · cases body with
    | nil => simp [ofParts, Text.joinWith, Text.segments, moving, inner]
    | cons part rest => simp [ofParts, hdot]
  · simp [ofParts]

/-- What trimming leaves of a body has the same steps, and ends with one. -/
theorem trimBody_spec (body : List (List Char)) :
    trimBody body <+: body ∧ moving (trimBody body) = moving body ∧
      ∀ last ∈ (trimBody body).getLast?, (inner last).isSome := by
  let idle := fun segment => (inner segment).isNone
  have hbody : trimBody body ++ (body.reverse.takeWhile idle).reverse = body := by
    unfold trimBody
    rw [← List.reverse_append, List.takeWhile_append_dropWhile, List.reverse_reverse]
  refine ⟨⟨_, hbody⟩, ?_, ?_⟩
  · -- Only segments that lead nowhere are cut off.
    have hidle : moving (body.reverse.takeWhile idle).reverse = [] := by
      refine List.filter_eq_nil_iff.2 fun s hs => ?_
      have hall : (body.reverse.takeWhile idle).all idle := List.all_takeWhile
      simpa [idle] using List.all_eq_true.1 hall s (List.mem_reverse.1 hs)
    have hsplit := congrArg moving hbody
    rw [moving_append, hidle, List.append_nil] at hsplit
    exact hsplit
  · intro last hlast
    unfold trimBody at hlast
    rw [List.getLast?_reverse] at hlast
    have hfirst := List.head?_dropWhile_not idle body.reverse
    rw [hlast] at hfirst
    simpa [idle] using hfirst

/-- A path that keeps its head and the front of its body begins as before. -/
theorem isAbsolute_ofParts (p : Path) {body : List (List Char)} (h : body <+: p.parts.body) :
    (ofParts p.parts.head body).isAbsolute = p.isAbsolute := by
  rw [Bool.eq_iff_iff, isAbsolute_iff_head (p := p)]
  rcases p.parts_cases with ⟨-, hp⟩ | ⟨rest, -, -, hp⟩ | ⟨rest, -, hp⟩ |
    ⟨first, rest, -, hne, -, hp⟩ <;> rw [hp] at h ⊢
  · rw [List.prefix_nil.1 h]
    simp [ofParts, isAbsolute, Text.joinWith]
  · simp [ofParts, isAbsolute]
  · cases body <;> simp [ofParts, isAbsolute]
  · -- The text begins with the first segment, which is not empty and holds no slash.
    cases body with
    | nil => simp [ofParts, isAbsolute, Text.joinWith]
    | cons part parts =>
      obtain rfl : part = first := by
        obtain ⟨suffix, hsuffix⟩ := h
        exact (List.cons.inj hsuffix).1
      have hslash : '/' ∉ part := slash_notMem_of_mem_body (p := p) (by simp [hp])
      cases hpart : part with
      | nil => exact absurd hpart hne
      | cons c cs =>
        have hc : c ≠ '/' := fun e => hslash (by simp [hpart, e])
        cases parts <;> simp [ofParts, isAbsolute, Text.joinWith, hc]

/-- The parent of a path lacks the last step, and begins where the path begins. -/
theorem steps_parent? {p q : Path} (h : p.parent? = some q) :
    q.steps = p.steps.dropLast ∧ q.isAbsolute = p.isAbsolute := by
  obtain ⟨hfront, hmoving, hlast⟩ := trimBody_spec p.parts.body
  unfold parent? at h
  cases hrev : (trimBody p.parts.body).reverse with
  | nil =>
    have hnil : moving p.parts.body = [] := by
      rw [← hmoving, List.reverse_eq_nil_iff.1 hrev]
      rfl
    by_cases hhead : p.parts.head = [.current]
    · simp only [hrev, if_pos hhead, Option.some.injEq] at h
      subst h
      refine ⟨by simp [steps_eq_moving_body p, hnil]; decide, ?_⟩
      rw [Bool.eq_iff_iff, isAbsolute_iff_head (p := p), hhead]
      decide
    · simp [hrev, if_neg hhead] at h
  | cons last before =>
    simp only [hrev, Option.some.injEq] at h
    subst h
    -- The last segment that leads somewhere is cut off, with the idle ones before it.
    have htrim : trimBody p.parts.body = before.reverse ++ [last] := by
      rw [← List.reverse_inj, hrev, List.reverse_append, List.reverse_reverse]
      rfl
    obtain ⟨hfront', hmoving', -⟩ := trimBody_spec before.reverse
    have hbody : trimBody before.reverse <+: p.parts.body :=
      (hfront'.trans (htrim ▸ List.prefix_append _ _)).trans hfront
    have hslash : ∀ part ∈ trimBody before.reverse, '/' ∉ part :=
      fun part hpart => slash_notMem_of_mem_body (hbody.subset hpart)
    refine ⟨?_, isAbsolute_ofParts p hbody⟩
    have hsome : (inner last).isSome := hlast last (by simp [htrim])
    rw [steps_ofParts p hslash, hmoving', steps_eq_moving_body, ← hmoving, htrim]
    simp [moving, hsome]

/-- The segments of a body are the last names of the path that is built of it. -/
theorem names_ofParts (p : Path) {body : List (List Char)} (hne : body ≠ [])
    (h : ∀ part ∈ body, '/' ∉ part) :
    ∃ front, (ofParts p.parts.head body).names = front ++ body.map String.ofList := by
  have hsegments : Text.segments '/' (Text.joinWith '/' body) = body :=
    Text.segments_joinWith hne h
  unfold names Text.splitAt
  rcases p.parts_cases with
    ⟨-, hp⟩ | ⟨rest, -, -, hp⟩ | ⟨rest, -, hp⟩ | ⟨first, rest, -, -, -, hp⟩ <;>
    rw [hp]
  · exact ⟨[], by simp [ofParts, hsegments]⟩
  · exact ⟨[""], by simp [ofParts, Text.segments, hsegments]⟩
  · refine ⟨["."], ?_⟩
    cases body with
    | nil => exact absurd rfl hne
    | cons part parts => simp [ofParts, Text.segments, hsegments]
  · exact ⟨[], by simp [ofParts, hsegments]⟩

/-- A path whose last name is a step, if it has steps at all. -/
def EndsInStep (p : Path) : Prop :=
  p.steps ≠ [] → ∃ front last, p.names = front ++ [last] ∧ ¬ IsIdle last

/-- The parent of a path ends in a step: what leads nowhere is trimmed. -/
theorem endsInStep_parent? {p q : Path} (h : p.parent? = some q) : q.EndsInStep := by
  intro hne
  have hsteps := (steps_parent? h).1
  unfold parent? at h
  cases hrev : (trimBody p.parts.body).reverse with
  | nil =>
    obtain ⟨-, hmoving, -⟩ := trimBody_spec p.parts.body
    rw [List.reverse_eq_nil_iff.1 hrev] at hmoving
    rw [hsteps, steps_eq_moving_body p, ← hmoving] at hne
    exact absurd rfl hne
  | cons last before =>
    simp only [hrev, Option.some.injEq] at h
    obtain ⟨hfront, hmoving, hlast⟩ := trimBody_spec before.reverse
    have hslash : ∀ part ∈ trimBody before.reverse, '/' ∉ part := by
      intro part hpart
      refine slash_notMem_of_mem_body (p := p) ((trimBody_spec p.parts.body).1.subset ?_)
      rw [← List.mem_reverse, hrev]
      exact List.mem_cons_of_mem last (List.mem_reverse.1 (hfront.subset hpart))
    have hbody : trimBody before.reverse ≠ [] := by
      intro hnil
      rw [← h, steps_ofParts p hslash, hnil] at hne
      exact hne rfl
    obtain ⟨front, hnames⟩ := names_ofParts p hbody hslash
    rw [h, ← List.dropLast_concat_getLast hbody, List.map_append, ← List.append_assoc] at hnames
    refine ⟨_, _, hnames, ?_⟩
    rw [isIdle_ofList]
    exact inner_isSome.1 (hlast _ (by rw [List.getLast?_eq_some_getLast hbody]; rfl))

/-- Every step takes a character at least. -/
theorem length_steps_le (p : Path) : p.steps.length ≤ p.text.length := by
  have hcount : ∀ cs : List Char, (moving (Text.segments '/' cs)).length ≤ cs.length := by
    intro cs
    induction cs with
    | nil => simp [Text.segments, moving, inner]
    | cons c rest ih =>
      unfold Text.segments
      split
      · rw [moving_cons_idle (.inl rfl), List.length_cons]
        omega
      · cases hs : Text.segments '/' rest with
        | nil => exact absurd hs (Text.segments_ne_nil '/' rest)
        | cons part parts =>
          have hfirst : (moving ((c :: part) :: parts)).length ≤ (moving parts).length + 1 := by
            unfold moving
            rw [List.filter_cons]
            split <;> simp
          have hrest : (moving parts).length ≤ (moving (part :: parts)).length := by
            unfold moving
            rw [List.filter_cons]
            split <;> simp
          rw [hs] at ih
          show (moving ((c :: part) :: parts)).length ≤ rest.length + 1
          omega
  rw [steps_eq_moving_segments, List.length_map, ← String.length_toList]
  exact hcount p.text.toList

/-! ### Components and the last name -/

/-- The component that a step stands for. -/
def stepComponent (name : String) : Component := if name = ".." then .parent else .normal name

/-- The components of a path are its head and its steps. -/
theorem components_eq (p : Path) : p.components = p.parts.head ++ p.steps.map stepComponent := by
  unfold components
  rw [steps_eq_moving_body]
  congr 1
  induction p.parts.body with
  | nil => rfl
  | cons segment body ih =>
    by_cases h : segment = [] ∨ segment = ['.']
    · have hnone : inner segment = none := if_pos h
      rw [List.filterMap_cons_none hnone, ih, moving_cons_idle h]
    · have hsome : inner segment = some (stepComponent (String.ofList segment)) := by
        have hdots : segment = ['.', '.'] ↔ String.ofList segment = ".." := by
          rw [← String.toList_inj, String.toList_ofList]
          rfl
        unfold inner stepComponent
        rw [if_neg h]
        split <;> simp_all
      have hmoving : moving (segment :: body) = segment :: moving body :=
        List.filter_cons_of_pos (by rw [hsome]; rfl)
      rw [List.filterMap_cons_some hsome, ih, hmoving]
      rfl

theorem head_cases (p : Path) :
    p.parts.head = [] ∨ p.parts.head = [.root] ∨ p.parts.head = [.current] := by
  rcases p.parts_cases with ⟨-, hp⟩ | ⟨_, -, -, hp⟩ | ⟨_, -, hp⟩ | ⟨_, _, -, -, -, hp⟩ <;>
    simp [hp]

/-- The file name of a path is its last step, unless that leads up. -/
theorem fileName?_eq (p : Path) :
    p.fileName? = p.steps.getLast?.bind fun name => if name = ".." then none else some name := by
  unfold fileName?
  rw [components_eq]
  cases hsteps : p.steps.getLast? with
  | none =>
    rw [List.getLast?_eq_none_iff] at hsteps
    rcases p.head_cases with h | h | h <;> simp [hsteps, h, Component.normal?]
  | some name =>
    by_cases h : name = ".." <;>
      simp [List.getLast?_append, hsteps, stepComponent, Component.normal?, h]

/-- How a path begins, read off its first name. -/
theorem head_eq (p : Path) :
    p.parts.head = if p.isAbsolute then [.root]
      else if p.names.head? = some "." then [.current] else [] := by
  by_cases habs : p.isAbsolute = true
  · rw [if_pos habs, isAbsolute_iff_head.1 habs]
  · rw [if_neg habs]
    rw [isAbsolute_iff_head] at habs
    unfold names Text.splitAt
    rcases p.parts_cases with ⟨h, hp⟩ | ⟨rest, -, -, hp⟩ | ⟨rest, h, hp⟩ |
      ⟨first, rest, h, -, hne, hp⟩
    · rw [hp, h]
      rfl
    · exact absurd (by rw [hp]) habs
    · rw [hp, h]
      rfl
    · have hfirst : String.ofList first ≠ "." := fun e => hne (by
        rw [← String.toList_inj, String.toList_ofList] at e
        exact e)
      simp [hp, h, hfirst]

/-- A joined path begins like its base. -/
theorem head_join {base : Path} {rest : String} (hbase : base.text ≠ "")
    (hrest : isAbsolute ⟨rest⟩ = false) : (base.join rest).parts.head = base.parts.head := by
  obtain ⟨front, hnames, hne, hfront⟩ := names_join hbase hrest
  have hhead : (base.join rest).names.head? = base.names.head? := by
    cases front with
    | nil => exact absurd rfl hne
    | cons name front => rcases hfront with h | h <;> simp [hnames, h]
  rw [head_eq, head_eq, isAbsolute_join hbase hrest, hhead]

/-- No step stands for the beginning of a path. -/
theorem takeWhile_components (p : Path) :
    p.components.takeWhile (fun c => c == .root || c == .current) = p.parts.head := by
  have hsteps :
      (p.steps.map stepComponent).takeWhile (fun c => c == .root || c == .current) = [] := by
    cases p.steps with
    | nil => rfl
    | cons name rest =>
      rw [List.map_cons]
      refine List.takeWhile_cons_of_neg ?_
      unfold stepComponent
      split <;> simp
  have hhead : ∀ c ∈ p.parts.head, (c == .root || c == .current) = true := by
    rcases p.head_cases with h | h | h <;> simp [h]
  rw [components_eq, List.takeWhile_append_of_pos hhead, hsteps, List.append_nil]

/-- Paths are the same if they begin alike and their steps are. -/
theorem same_iff_head_steps {p q : Path} :
    p.same q = true ↔ p.parts.head = q.parts.head ∧ p.steps = q.steps := by
  have hinjective : ∀ name other, stepComponent name = stepComponent other → name = other := by
    intro name other heq
    unfold stepComponent at heq
    split at heq <;> split at heq <;> simp_all
  unfold same
  rw [beq_iff_eq]
  constructor
  · intro heq
    have hhead : p.parts.head = q.parts.head := by
      rw [← takeWhile_components, ← takeWhile_components, heq]
    rw [components_eq, components_eq, hhead, List.append_cancel_left_eq] at heq
    exact ⟨hhead, (List.map_inj_right hinjective).1 heq⟩
  · rintro ⟨hhead, hsteps⟩
    rw [components_eq, components_eq, hhead, hsteps]

/-- Paths that begin alike are the same if their steps are. -/
theorem same_iff {p q : Path} (h : p.parts.head = q.parts.head) :
    p.same q = true ↔ p.steps = q.steps :=
  same_iff_head_steps.trans (and_iff_right h)

/-- Paths stay the same, or different, when one text is joined to both. -/
theorem same_join {p q : Path} {rest : String} (hp : p.text ≠ "") (hq : q.text ≠ "")
    (hrest : isAbsolute ⟨rest⟩ = false) :
    (p.join rest).same (q.join rest) = true ↔ p.same q = true := by
  rw [same_iff_head_steps, same_iff_head_steps, head_join hp hrest, head_join hq hrest,
    steps_join hp hrest, steps_join hq hrest, List.append_cancel_right_eq]

/-- A path without steps has no name to part with. -/
theorem parent?_isSome {p : Path} (h : p.steps ≠ []) : p.parent?.isSome := by
  obtain ⟨-, hmoving, -⟩ := trimBody_spec p.parts.body
  unfold parent?
  cases hrev : (trimBody p.parts.body).reverse with
  | nil =>
    rw [List.reverse_eq_nil_iff.1 hrev] at hmoving
    exact absurd (by rw [steps_eq_moving_body, ← hmoving]; rfl) h
  | cons last before => simp [hrev]

/-- A path with a file name ends with a step that does not lead up. -/
theorem fileName?_eq_some {p : Path} {name : String} :
    p.fileName? = some name ↔ name ≠ ".." ∧ p.steps = p.steps.dropLast ++ [name] := by
  rw [fileName?_eq]
  cases hlast : p.steps.getLast? with
  | none =>
    rw [List.getLast?_eq_none_iff.1 hlast]
    simp
  | some last =>
    obtain ⟨front, hfront⟩ := List.getLast?_eq_some_iff.1 hlast
    have hsplit : p.steps.dropLast ++ [last] = p.steps := by rw [hfront, List.dropLast_concat]
    rw [Option.bind_some]
    constructor
    · intro h
      split at h
      · cases h
      · next hup =>
        obtain rfl := Option.some.inj h
        exact ⟨hup, hsplit.symm⟩
    · rintro ⟨hup, hname⟩
      obtain rfl : last = name := by
        rw [← hsplit, List.dropLast_concat, List.append_cancel_left_eq] at hname
        exact (List.cons.inj hname).1
      exact if_neg hup

/-- The new name is joined to the parent of the path. -/
theorem withFileName_eq_join {p : Path} (h : p.fileName?.isSome) (name : String) :
    ∃ q, p.parent? = some q ∧ p.withFileName name = q.join name := by
  obtain ⟨last, hlast⟩ := Option.isSome_iff_exists.1 h
  have hne : p.steps ≠ [] := by
    rw [(fileName?_eq_some.1 hlast).2]
    simp
  obtain ⟨q, hq⟩ := Option.isSome_iff_exists.1 (parent?_isSome hne)
  refine ⟨q, hq, ?_⟩
  unfold withFileName
  rw [hlast, hq]
  rfl

/-- Replacing the last name of a path replaces its last step. -/
theorem steps_withFileName {p : Path} {name : String} (h : p.fileName?.isSome)
    (hname : isAbsolute ⟨name⟩ = false) :
    (p.withFileName name).steps = p.steps.dropLast ++ steps ⟨name⟩ ∧
      (p.withFileName name).isAbsolute = p.isAbsolute := by
  obtain ⟨q, hq, hwith⟩ := withFileName_eq_join h name
  obtain ⟨hsteps, habs⟩ := steps_parent? hq
  rw [hwith, ← hsteps, ← habs]
  by_cases hempty : q.text = ""
  · obtain rfl : q = ⟨""⟩ := congrArg Path.mk hempty
    rw [join_empty hname, hname]
    exact ⟨rfl, rfl⟩
  · exact ⟨steps_join hempty hname, isAbsolute_join hempty hname⟩

end Scaffold.Path
