import Scaffold.Proofs.Wildcard.Components

/-! # Patterns match segment by segment

  What a pattern matches, said of its components and of the segments of a path,
  and that this is what its tokens match byte by byte. The tokens are read with
  a slash in front of every segment, also of the first one.

  - `NameMatches`: a name and the bytes that it stands for.
  - `SegmentsMatch`: components and the segments that they match.
  - `leaves_componentTokens`: the tokens of components match just these segments.
  - `compiled_matches_segments`: so do compiled patterns.
-/

namespace Scaffold.Wildcard

/-! ### Names and segments -/

/-- A character of a name and what it stands for. -/
inductive CharMatches : Char → List UInt8 → Prop where
  /-- A star stands for any run of bytes. -/
  | star (run : List UInt8) : CharMatches '*' run
  /-- A question mark stands for any one byte. -/
  | any (b : UInt8) : CharMatches '?' [b]
  /-- Every other character stands for itself. -/
  | literal {c : Char} (hstar : c ≠ '*') (hany : c ≠ '?') : CharMatches c (charBytes c)

/-- A name and what it stands for, character by character. -/
inductive NameMatches : List Char → List UInt8 → Prop where
  /-- Nothing stands for nothing. -/
  | nil : NameMatches [] []
  /-- One character, and those that follow. -/
  | cons {c cs part bytes} (h : CharMatches c part) (hrest : NameMatches cs bytes) :
      NameMatches (c :: cs) (part ++ bytes)

/-- The components of a pattern and the segments of a path that they match, in order. -/
inductive SegmentsMatch : List String → List String → Prop where
  /-- No components match no segments. -/
  | nil : SegmentsMatch [] []
  /-- A name matches one segment. -/
  | name {component segment components segments} (hname : component ≠ "**")
      (hsegment : NameMatches component.toList segment.toUTF8.toList)
      (h : SegmentsMatch components segments) :
      SegmentsMatch (component :: components) (segment :: segments)
  /-- A double star that is not the last component matches any number of segments. -/
  | skip (skipped : List String) {components segments} (hmore : components ≠ [])
      (h : SegmentsMatch components segments) :
      SegmentsMatch ("**" :: components) (skipped ++ segments)
  /-- A double star at the end matches one segment or more. -/
  | rest {segments} (h : segments ≠ []) : SegmentsMatch ["**"] segments

variable {s r m : List UInt8} {tokens more : List Token} {components segments : List String}

theorem segmentsMatch_nil_iff : SegmentsMatch [] segments ↔ segments = [] := by
  constructor
  · rintro ⟨⟩
    rfl
  · rintro rfl
    exact .nil

theorem segmentsMatch_name_iff {component : String} (hname : component ≠ "**") :
    SegmentsMatch (component :: components) segments ↔
      ∃ segment rest, segments = segment :: rest ∧
        NameMatches component.toList segment.toUTF8.toList ∧ SegmentsMatch components rest := by
  constructor
  · intro h
    cases h with
    | name _ hsegment hrest => exact ⟨_, _, rfl, hsegment, hrest⟩
    | skip => exact absurd rfl hname
    | rest => exact absurd rfl hname
  · rintro ⟨segment, rest, rfl, hsegment, hrest⟩
    exact .name hname hsegment hrest

theorem segmentsMatch_skip_iff (hmore : components ≠ []) :
    SegmentsMatch ("**" :: components) segments ↔
      ∃ skipped rest, segments = skipped ++ rest ∧ SegmentsMatch components rest := by
  constructor
  · intro h
    cases h with
    | name hname => exact absurd rfl hname
    | skip skipped _ hrest => exact ⟨skipped, _, rfl, hrest⟩
    | rest => exact absurd rfl hmore
  · rintro ⟨skipped, rest, rfl, hrest⟩
    exact .skip skipped hmore hrest

theorem segmentsMatch_rest_iff : SegmentsMatch ["**"] segments ↔ segments ≠ [] := by
  constructor
  · intro h
    cases h with
    | name hname => exact absurd rfl hname
    | skip _ hmore => exact absurd rfl hmore
    | rest h => exact h
  · exact .rest

/-- A name in which nothing stands for something else matches itself. -/
theorem NameMatches.self {cs : List Char} (hstar : '*' ∉ cs) (hany : '?' ∉ cs) :
    NameMatches cs (cs.flatMap charBytes) := by
  induction cs with
  | nil => exact .nil
  | cons c cs ih =>
    rw [List.mem_cons, not_or] at hstar hany
    exact .cons (.literal (Ne.symm hstar.1) (Ne.symm hany.1)) (ih hstar.2 hany.2)

/-! ### Names byte by byte -/

/-- A star leaves what follows a run without slashes. -/
theorem mem_rests_star :
    r ∈ Token.rests false .zeroOrMore s ↔ ∃ run, s = run ++ r ∧ slash ∉ run := by
  show r ∈ runs (free false) s ↔ _
  rw [mem_runs]
  constructor
  · rintro ⟨run, hrun, hs⟩
    exact ⟨run, hs, fun hmem => by simpa [free] using hrun slash hmem⟩
  · rintro ⟨run, hs, hslash⟩
    refine ⟨run, fun b hb => ?_, hs⟩
    have hne : b ≠ slash := fun h => hslash (h ▸ hb)
    simpa [free] using hne

/-- A question mark leaves what follows a byte that is no slash. -/
theorem mem_rests_any : r ∈ Token.rests false .any s ↔ ∃ b, s = b :: r ∧ b ≠ slash := by
  cases s with
  | nil => simp [Token.rests]
  | cons b rest =>
    simp only [Token.rests, List.mem_ite_nil_right, List.mem_singleton]
    constructor
    · rintro ⟨hfree, rfl⟩
      exact ⟨b, rfl, by simpa [free] using hfree⟩
    · rintro ⟨c, hsplit, hc⟩
      obtain ⟨rfl, rfl⟩ := List.cons.inj hsplit
      exact ⟨by simpa [free] using hc, rfl⟩

/-- What the token of a character leaves. It does not pass a slash. -/
theorem mem_rests_nameToken {c : Char} (hc : c ≠ '/') :
    r ∈ (nameToken c).rests false s ↔
      ∃ part, s = part ++ r ∧ slash ∉ part ∧ CharMatches c part := by
  constructor
  · intro h
    by_cases hstar : c = '*'
    · subst hstar
      obtain ⟨run, hs, hslash⟩ := mem_rests_star.1 h
      exact ⟨run, hs, hslash, .star run⟩
    · by_cases hany : c = '?'
      · subst hany
        obtain ⟨b, hs, hb⟩ := mem_rests_any.1 h
        exact ⟨[b], hs, fun hmem => hb (List.mem_singleton.1 hmem).symm, .any b⟩
      · rw [nameToken_literal hstar hany] at h
        exact ⟨charBytes c, mem_strip.1 h, fun hmem => hc (slash_mem_charBytes.1 hmem),
          .literal hstar hany⟩
  · rintro ⟨part, hs, hslash, hpart⟩
    cases hpart with
    | star => exact mem_rests_star.2 ⟨part, hs, hslash⟩
    | any b => exact mem_rests_any.2 ⟨b, hs, fun h => hslash (List.mem_singleton.2 h.symm)⟩
    | literal hstar hany =>
      rw [nameToken_literal hstar hany]
      exact mem_strip.2 hs

/-- What the tokens of a name leave. They do not pass a slash. -/
theorem leaves_name {cs : List Char} (hcs : '/' ∉ cs) :
    Leaves false (cs.map nameToken) s r ↔
      ∃ run, s = run ++ r ∧ slash ∉ run ∧ NameMatches cs run := by
  induction cs generalizing s with
  | nil =>
    constructor
    · rintro rfl
      exact ⟨[], rfl, List.not_mem_nil, .nil⟩
    · rintro ⟨run, hs, -, hrun⟩
      cases hrun
      exact hs.symm
  | cons c cs ih =>
    rw [List.mem_cons, not_or] at hcs
    have hc : c ≠ '/' := Ne.symm hcs.1
    constructor
    · rintro ⟨m, hm, hr⟩
      obtain ⟨part, rfl, hpart, hmatch⟩ := (mem_rests_nameToken hc).1 hm
      obtain ⟨run, rfl, hrun, hname⟩ := (ih hcs.2).1 hr
      exact ⟨part ++ run, (List.append_assoc part run r).symm,
        fun h => (List.mem_append.1 h).elim hpart hrun, .cons hmatch hname⟩
    · rintro ⟨_, rfl, hslash, hname⟩
      cases hname with
      | @cons _ _ part bytes hmatch hrest =>
        rw [List.mem_append, not_or] at hslash
        exact ⟨bytes ++ r, (mem_rests_nameToken hc).2
          ⟨part, List.append_assoc part bytes r, hslash.1, hmatch⟩,
          (ih hcs.2).2 ⟨bytes, rfl, hslash.2, hrest⟩⟩

/-! ### Segments byte by byte -/

/-- The bytes of segments, each behind a slash. -/
def segmentBytes (segments : List String) : List UInt8 :=
  segments.flatMap fun segment => slash :: segment.toUTF8.toList

@[simp] theorem segmentBytes_nil : segmentBytes [] = [] := rfl

@[simp] theorem segmentBytes_cons (segment : String) (rest : List String) :
    segmentBytes (segment :: rest) =
      slash :: (segment.toUTF8.toList ++ segmentBytes rest) := rfl

/-- A path is the bytes of its segments, but for the slash in front of the first one. -/
theorem segmentBytes_splitAt (path : String) :
    segmentBytes (Text.splitAt '/' path) = slash :: path.toUTF8.toList := by
  have hjoin : ∀ parts, parts ≠ [] → segmentBytes (parts.map String.ofList) =
      slash :: (Text.joinWith '/' parts).flatMap charBytes := by
    intro parts hne
    induction parts with
    | nil => exact absurd rfl hne
    | cons part rest ih =>
      cases rest with
      | nil =>
        rw [List.map_singleton, segmentBytes_cons, toList_toUTF8, Text.joinWith]
        simp
      | cons next rest =>
        rw [List.map_cons, segmentBytes_cons, ih (List.cons_ne_nil next rest), toList_toUTF8,
          Text.joinWith]
        simp
  unfold Text.splitAt
  rw [hjoin _ (Text.segments_ne_nil '/' path.toList), Text.joinWith_segments, toList_toUTF8]

/-- A segment holds no slash. -/
theorem slash_notMem_of_mem_splitAt {path segment : String}
    (h : segment ∈ Text.splitAt '/' path) : slash ∉ segment.toUTF8.toList := by
  obtain ⟨part, hpart, rfl⟩ := List.mem_map.1 h
  rw [toList_toUTF8, String.toList_ofList, List.mem_flatMap]
  rintro ⟨c, hc, hslash⟩
  rw [slash_mem_charBytes.1 hslash] at hc
  exact Text.sep_notMem_of_mem_segments hpart hc

/-- A slash is behind a part that holds none. -/
theorem exists_of_append_eq {a b run : List UInt8} (ha : slash ∉ a)
    (h : a ++ b = run ++ slash :: r) : ∃ later, b = later ++ slash :: r := by
  rcases List.append_eq_append_iff.1 h with ⟨later, -, hlater⟩ | ⟨later, hsplit, hlater⟩
  · exact ⟨later, hlater⟩
  · cases later with
    | nil => exact ⟨[], hlater.symm⟩
    | cons c later =>
      rw [List.cons_append] at hlater
      rw [hsplit, ← (List.cons.inj hlater).1] at ha
      simp at ha

/-- Behind every slash there is a segment. -/
theorem segmentBytes_eq_append (h : ∀ segment ∈ segments, slash ∉ segment.toUTF8.toList) :
    (∃ run, segmentBytes segments = run ++ slash :: r) ↔
      ∃ skipped segment rest, segments = skipped ++ segment :: rest ∧
        r = segment.toUTF8.toList ++ segmentBytes rest := by
  constructor
  · rintro ⟨run, hrun⟩
    induction segments generalizing run with
    | nil => simp at hrun
    | cons segment rest ih =>
      obtain ⟨hsegment, hrest⟩ := List.forall_mem_cons.1 h
      rw [segmentBytes_cons] at hrun
      cases run with
      | nil => exact ⟨[], segment, rest, rfl, (List.cons.inj hrun).2.symm⟩
      | cons b run =>
        obtain ⟨later, hlater⟩ := exists_of_append_eq hsegment (List.cons.inj hrun).2
        obtain ⟨skipped, other, more, rfl, hr⟩ := ih hrest later hlater
        exact ⟨segment :: skipped, other, more, rfl, hr⟩
  · rintro ⟨skipped, segment, rest, rfl, rfl⟩
    refine ⟨segmentBytes skipped, ?_⟩
    unfold segmentBytes
    rw [List.flatMap_append]
    rfl

/-- Parts without slashes that end where a slash or nothing follows are determined by the whole. -/
theorem eq_of_append_slash {a b x y : List UInt8} (ha : slash ∉ a) (hb : slash ∉ b)
    (hx : ∀ c ∈ x.head?, c = slash) (hy : ∀ c ∈ y.head?, c = slash) (h : a ++ x = b ++ y) :
    a = b ∧ x = y := by
  have hspan : ∀ {a x : List UInt8}, slash ∉ a → (∀ c ∈ x.head?, c = slash) →
      (a ++ x).takeWhile (· != slash) = a := by
    intro a x ha hx
    have hbytes : ∀ c ∈ a, (c != slash) = true := fun c hc => by
      have hne : c ≠ slash := fun e => ha (e ▸ hc)
      simpa using hne
    rw [List.takeWhile_append_of_pos hbytes]
    cases x with
    | nil => simp
    | cons c x => simp [hx c rfl]
  have hab : a = b := by rw [← hspan ha hx, h, hspan hb hy]
  subst hab
  exact ⟨rfl, List.append_cancel_left h⟩

/-! ### Components byte by byte -/

/-- How the tokens of components begin. -/
inductive Opens : List Token → Prop where
  /-- With a slash and a name. -/
  | name {c more} : Opens (.literal '/' :: nameToken c :: more)
  /-- With a double star and a name. -/
  | skip {c more} : Opens (.recursiveZeroOrMore :: nameToken c :: more)
  /-- With a double star, and no more. -/
  | rest : Opens [.recursiveSuffix]

theorem Opens.widen (h : Opens tokens) : Opens (widen tokens) := by
  cases h with
  | name => exact .skip
  | skip => exact .skip
  | rest => exact .rest

theorem opens_componentTokens (hne : components ≠ [])
    (hnames : ∀ component ∈ components, component ≠ "") : Opens (componentTokens components) := by
  induction components with
  | nil => exact absurd rfl hne
  | cons component rest ih =>
    obtain ⟨hname, hrest⟩ := List.forall_mem_cons.1 hnames
    unfold componentTokens
    split
    · cases rest with
      | nil => exact .rest
      | cons next rest => exact (ih (List.cons_ne_nil next rest) hrest).widen
    · obtain ⟨c, cs, hcs⟩ : ∃ c cs, component.toList = c :: cs :=
        List.exists_cons_of_ne_nil fun e => hname (String.toList_inj.1 e)
      rw [hcs]
      exact .name

/-- A slash leaves what follows the slash at the start. -/
theorem leaves_slash :
    Leaves false (.literal '/' :: more) s r ↔ ∃ x, s = slash :: x ∧ Leaves false more x r := by
  have hrests : ∀ x, x ∈ Token.rests false (.literal '/') s ↔ s = slash :: x := by
    intro x
    show x ∈ strip (charBytes '/') s ↔ _
    rw [mem_strip, charBytes_slash]
    rfl
  exact exists_congr fun x => and_congr_left' (hrests x)

/-- A double star between slashes leaves what follows any slash, if there is one at the start. -/
theorem leaves_skip (hs : ∀ c ∈ s.head?, c = slash) :
    Leaves false (.recursiveZeroOrMore :: more) s r ↔
      ∃ x, (∃ run, s = run ++ slash :: x) ∧ Leaves false more x r := by
  have hrests : ∀ x, x ∈ Token.rests false .recursiveZeroOrMore s ↔
      ∃ run, s = run ++ slash :: x := by
    intro x
    constructor
    · intro h
      obtain ⟨y, hy, hx⟩ := List.mem_flatMap.1 h
      rw [mem_strip.1 hy]
      rcases List.mem_cons.1 hx with rfl | hx
      · exact ⟨[], rfl⟩
      · obtain ⟨run, rfl⟩ := mem_behindSlash.1 hx
        exact ⟨slash :: run, rfl⟩
    · rintro ⟨run, rfl⟩
      cases run with
      | nil => exact List.mem_flatMap.2 ⟨x, mem_strip.2 rfl, List.mem_cons_self⟩
      | cons c run =>
        rw [hs c rfl]
        exact List.mem_flatMap.2 ⟨run ++ slash :: x, mem_strip.2 rfl,
          List.mem_cons_of_mem _ (mem_behindSlash.2 ⟨run, rfl⟩)⟩
  exact exists_congr fun x => and_congr_left' (hrests x)

/-- A double star at the end takes all that follows a slash at the start. -/
theorem leaves_rest : Leaves false [.recursiveSuffix] s [] ↔ ∃ x, s = slash :: x := by
  constructor
  · rintro ⟨m, hm, -⟩
    obtain ⟨x, hx, -⟩ := List.mem_flatMap.1 hm
    exact ⟨x, mem_strip.1 hx⟩
  · rintro ⟨x, rfl⟩
    refine ⟨[], List.mem_flatMap.2 ⟨x, mem_strip.2 rfl, ?_⟩, rfl⟩
    exact mem_runs.2 ⟨x, fun _ _ => rfl, (List.append_nil x).symm⟩

theorem head_segmentBytes (segments : List String) :
    ∀ c ∈ (segmentBytes segments).head?, c = slash := by
  cases segments <;> simp

/-- What the tokens of components match begins with a slash. -/
theorem Opens.exists_eq_slash (h : Opens tokens) (hs : Leaves false tokens s []) :
    ∃ x, s = slash :: x := by
  cases h with
  | name =>
    obtain ⟨x, hx, -⟩ := leaves_slash.1 hs
    exact ⟨x, hx⟩
  | skip =>
    obtain ⟨m, hm, -⟩ := hs
    obtain ⟨x, hx, -⟩ := List.mem_flatMap.1 hm
    exact ⟨x, mem_strip.1 hx⟩
  | rest => exact leaves_rest.1 hs

/-! ### Components and segments -/

/-- The slash at the start is the one in front of the first segment. -/
theorem leaves_slash_segments :
    Leaves false (.literal '/' :: more) (segmentBytes segments) r ↔
      ∃ segment rest, segments = segment :: rest ∧
        Leaves false more (segment.toUTF8.toList ++ segmentBytes rest) r := by
  rw [leaves_slash]
  constructor
  · rintro ⟨x, hx, hr⟩
    cases segments with
    | nil => simp at hx
    | cons segment rest =>
      rw [← (List.cons.inj hx).2] at hr
      exact ⟨segment, rest, rfl, hr⟩
  · rintro ⟨segment, rest, rfl, hr⟩
    exact ⟨_, rfl, hr⟩

section

variable (hsegments : ∀ segment ∈ segments, slash ∉ segment.toUTF8.toList)

include hsegments

/-- A double star skips to any segment. -/
theorem leaves_skip_segments :
    Leaves false (.recursiveZeroOrMore :: more) (segmentBytes segments) r ↔
      ∃ skipped segment rest, segments = skipped ++ segment :: rest ∧
        Leaves false more (segment.toUTF8.toList ++ segmentBytes rest) r := by
  rw [leaves_skip (head_segmentBytes segments)]
  constructor
  · rintro ⟨x, hx, hr⟩
    obtain ⟨skipped, segment, rest, hsplit, rfl⟩ := (segmentBytes_eq_append hsegments).1 hx
    exact ⟨skipped, segment, rest, hsplit, hr⟩
  · rintro ⟨skipped, segment, rest, hsplit, hr⟩
    exact ⟨_, (segmentBytes_eq_append hsegments).2 ⟨skipped, segment, rest, hsplit, rfl⟩, hr⟩

/-- A double star in front of tokens skips any number of segments in front of what these match. -/
theorem Opens.leaves_widen (h : Opens tokens) :
    Leaves false (Wildcard.widen tokens) (segmentBytes segments) [] ↔
      ∃ skipped rest, segments = skipped ++ rest ∧ Leaves false tokens (segmentBytes rest) [] := by
  cases h with
  | name =>
    simp only [Wildcard.widen, leaves_skip_segments hsegments, leaves_slash_segments]
    constructor
    · rintro ⟨skipped, segment, rest, hsplit, hr⟩
      exact ⟨skipped, segment :: rest, hsplit, segment, rest, rfl, hr⟩
    · rintro ⟨skipped, _, hsplit, segment, rest, rfl, hr⟩
      exact ⟨skipped, segment, rest, hsplit, hr⟩
  | skip =>
    refine ⟨fun hr => ⟨[], segments, rfl, hr⟩, ?_⟩
    rintro ⟨skipped, rest, rfl, hr⟩
    have hrest := (List.forall_mem_append.1 hsegments).2
    obtain ⟨others, segment, last, rfl, hlast⟩ := (leaves_skip_segments hrest).1 hr
    exact (leaves_skip_segments hsegments).2
      ⟨skipped ++ others, segment, last, (List.append_assoc _ _ _).symm, hlast⟩
  | rest =>
    refine ⟨fun hr => ⟨[], segments, rfl, hr⟩, ?_⟩
    rintro ⟨skipped, rest, rfl, hr⟩
    obtain ⟨x, hx⟩ := leaves_rest.1 hr
    refine leaves_rest.2 ?_
    cases skipped with
    | nil => exact ⟨x, hx⟩
    | cons segment skipped => exact ⟨_, rfl⟩

end

/-- The tokens of components match the segments that the components match. -/
theorem leaves_componentTokens
    (hcomponents : ∀ component ∈ components, component ≠ "" ∧ '/' ∉ component.toList)
    (hsegments : ∀ segment ∈ segments, slash ∉ segment.toUTF8.toList) :
    Leaves false (componentTokens components) (segmentBytes segments) [] ↔
      SegmentsMatch components segments := by
  induction components generalizing segments with
  | nil =>
    rw [segmentsMatch_nil_iff]
    cases segments <;> simp [componentTokens, Leaves]
  | cons component rest ih =>
    obtain ⟨⟨-, hslash⟩, hrest⟩ := List.forall_mem_cons.1 hcomponents
    unfold componentTokens
    by_cases hstars : component = "**"
    · rw [if_pos hstars, hstars]
      by_cases hmore : rest = []
      · subst hmore
        rw [segmentsMatch_rest_iff]
        show Leaves false [.recursiveSuffix] _ _ ↔ _
        rw [leaves_rest]
        cases segments <;> simp
      · have hopens := opens_componentTokens hmore fun c hc => (hrest c hc).1
        rw [hopens.leaves_widen hsegments, segmentsMatch_skip_iff hmore]
        refine exists_congr fun skipped => exists_congr fun others => and_congr_right ?_
        rintro rfl
        exact ih hrest (List.forall_mem_append.1 hsegments).2
    · rw [if_neg hstars, segmentsMatch_name_iff hstars, List.cons_append, leaves_slash_segments]
      refine exists_congr fun segment => exists_congr fun others => and_congr_right ?_
      rintro rfl
      obtain ⟨hsegment, hothers⟩ := List.forall_mem_cons.1 hsegments
      rw [leaves_append, ← ih hrest hothers]
      constructor
      · rintro ⟨m, hm, hr⟩
        obtain ⟨run, hsplit, hrun, hname⟩ := (leaves_name hslash).1 hm
        -- The name ends where the next slash is, if there is one, as the segment does.
        have hhead : ∀ c ∈ m.head?, c = slash := by
          by_cases hmore : rest = []
          · subst hmore
            rw [← show [] = m from hr]
            simp
          · obtain ⟨x, rfl⟩ := (opens_componentTokens hmore fun c hc =>
              (hrest c hc).1).exists_eq_slash hr
            simp
        obtain ⟨rfl, rfl⟩ :=
          eq_of_append_slash hsegment hrun (head_segmentBytes others) hhead hsplit
        exact ⟨hname, hr⟩
      · rintro ⟨hname, hr⟩
        exact ⟨_, (leaves_name hslash).2 ⟨_, rfl, hsegment, hname⟩, hr⟩

/-! ### Patterns -/

theorem isMatch_of_ne {crossing : Bool} (h : tokens ≠ [.recursivePrefix]) (path : String) :
    Glob.isMatch ⟨tokens, crossing⟩ path = seqMatches crossing tokens path.toUTF8.toList := by
  unfold Glob.isMatch
  split
  · contradiction
  · rfl

/-- A double star at the start leaves the text, and what follows any slash: so does one behind a
slash. -/
theorem leaves_prefix :
    Leaves false (.recursivePrefix :: more) s r ↔
      Leaves false (.recursiveZeroOrMore :: more) (slash :: s) r := by
  rw [leaves_skip (by simp)]
  refine exists_congr fun x => and_congr_left' ?_
  show x ∈ s :: strip [slash] s ++ behindSlash s ↔ _
  rw [List.mem_append, List.mem_cons, mem_strip, mem_behindSlash]
  constructor
  · rintro ((rfl | rfl) | ⟨run, rfl⟩)
    · exact ⟨[], rfl⟩
    · exact ⟨[slash], rfl⟩
    · exact ⟨slash :: run, rfl⟩
  · rintro ⟨run, hrun⟩
    cases run with
    | nil => exact .inl (.inl (List.cons.inj hrun).2.symm)
    | cons c run => exact .inr ⟨run, (List.cons.inj hrun).2⟩

/-- The first component has no slash in front of it. -/
theorem Opens.isMatch_lead (h : Opens tokens) (path : String) :
    Glob.isMatch ⟨lead tokens, false⟩ path = true ↔
      Leaves false tokens (slash :: path.toUTF8.toList) [] := by
  cases h with
  | @name c more =>
    have hname : nameToken c ≠ .recursivePrefix := by
      unfold nameToken
      split <;> exact nofun
    rw [lead, isMatch_of_ne (by simp [hname]), seqMatches_iff, leaves_slash]
    simp
  | skip => rw [lead, isMatch_of_ne (by simp), seqMatches_iff, leaves_prefix]
  | rest => exact iff_of_true rfl (leaves_rest.2 ⟨_, rfl⟩)

/-- A pattern that is made of components can be compiled, and it matches a path if and only if its
components match the segments of the path in order. -/
theorem compiled_matches_segments (text : String)
    (hcomponents : ∀ component ∈ Text.splitAt '/' (Path.toSlashes text), IsComponent component) :
    ∃ pattern, Pattern.compile text = .ok pattern ∧ ∀ path, pattern.isMatch path = true ↔
      SegmentsMatch (Text.splitAt '/' (Path.toSlashes text))
        (Text.splitAt '/' (Path.toSlashes path)) := by
  have hnames : ∀ component ∈ Text.splitAt '/' (Path.toSlashes text),
      component ≠ "" ∧ '/' ∉ component.toList := by
    intro component hmem
    constructor
    · rcases hcomponents component hmem with rfl | ⟨hne, -⟩
      · decide
      · exact hne
    · obtain ⟨part, hpart, rfl⟩ := List.mem_map.1 hmem
      rw [String.toList_ofList]
      exact Text.sep_notMem_of_mem_segments hpart
  have hopens : Opens (componentTokens (Text.splitAt '/' (Path.toSlashes text))) :=
    opens_componentTokens (Text.splitAt_ne_nil _ _) fun component hmem => (hnames component hmem).1
  refine ⟨_, compile_components hcomponents, fun path => ?_⟩
  rw [← leaves_componentTokens hnames fun _ => slash_notMem_of_mem_splitAt, segmentBytes_splitAt]
  exact hopens.isMatch_lead (Path.toSlashes path)

/-- A pattern with a double star in the middle, written with a backslash. -/
theorem compiled_matches_segments_of_sources :
    ∃ pattern, Pattern.compile "src\\**/*.rs" = .ok pattern ∧
      pattern.isMatch "src/deep/lib.rs" = true := by
  have hcomponents : Text.splitAt '/' (Path.toSlashes "src\\**/*.rs") = ["src", "**", "*.rs"] := by
    decide +kernel
  have hsegments : Text.splitAt '/' (Path.toSlashes "src/deep/lib.rs") =
      ["src", "deep", "lib.rs"] := by decide +kernel
  obtain ⟨pattern, hpattern, hmatch⟩ := compiled_matches_segments "src\\**/*.rs" (by decide +kernel)
  refine ⟨pattern, hpattern, (hmatch "src/deep/lib.rs").2 ?_⟩
  rw [hcomponents, hsegments]
  have hsrc : NameMatches "src".toList "src".toUTF8.toList := by
    rw [toList_toUTF8]
    exact .self (by decide +kernel) (by decide +kernel)
  have hlib : NameMatches "*.rs".toList "lib.rs".toUTF8.toList := by
    have hsplit : "lib.rs".toUTF8.toList =
        "lib".toUTF8.toList ++ ".rs".toList.flatMap charBytes := by decide +kernel
    rw [hsplit]
    exact .cons (.star _) (.self (by decide +kernel) (by decide +kernel))
  exact .name (by decide) hsrc (.skip ["deep"] (List.cons_ne_nil _ _) (.name (by decide) hlib .nil))

end Scaffold.Wildcard
