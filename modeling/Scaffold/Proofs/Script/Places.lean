import Scaffold.Proofs.Script.Levels

/-! # The two places of an instruction

  An instruction can stand in the outermost list or in a group. The readers of
  the two places differ: the outer one takes keys and conditions as they are
  written, the inner one takes them as values. They agree on an instruction
  whose keys and condition are texts and do not only look like some.

  - `Node.writing?`, `optionContent`: texts as they are written and as values.
  - `Genuine`, `ReadsAlike`: what the readers agree on.
  - `splitNodes_iff`, `instructionOfNode_iff`: the two readers.
  - `GroupOf`, `instructionOfNode_grouped_iff`: the group of one instruction.
-/

namespace Scaffold

variable {format : Format}

/-! ### Texts as they are written and as values -/

/-- What is written as a scalar, if that is a text or can be taken for one. -/
def Node.writing? : Node → Option String
  | .scalar (.text s) => some s
  | .written _ _ s => some s
  | _ => none

theorem Node.text_eq_ok {node : Node} {expected s : String} :
    node.text format expected = .ok s ↔ node.writing? = some s := by
  cases node with
  | scalar value => cases value <;> simp [text, writing?]
  | _ => simp [text, writing?]

/-- A text or nothing, as a value. -/
def optionContent : Option String → Content
  | none => .scalar .null
  | some s => .scalar (.text s)

theorem optionContent_injective {found other : Option String}
    (h : optionContent found = optionContent other) : found = other := by
  cases found <;> cases other <;> cases h <;> rfl

theorem optionalText_eq_ok {c : Content} {found : Option String} :
    c.optionalText format = .ok found ↔ c = optionContent found := by
  constructor
  · intro h
    cases c with
    | scalar value => cases value <;> cases h <;> rfl
    | list | map => cases h
  · rintro rfl
    cases found <;> rfl

/-- A node with a scalar value is no list or map. -/
theorem Node.scalar_of_content {node : Node} {depth : Nat} {value : Scalar}
    (h : node.content format depth = .ok (.scalar value)) :
    node = .scalar value ∨ ∃ tag plain s, node = .written tag plain s ∧ tag ≠ .own ∧
      settle format tag plain s = .ok value := by
  rcases content_cases h with ⟨found, hvalue, hnode⟩ | ⟨_, _, _, -, hvalue, -⟩ |
    ⟨_, _, _, -, hvalue, -⟩
  · cases hvalue
    exact hnode
  · cases hvalue
  · cases hvalue

/-- The value of a scalar does not depend on where it stands. -/
theorem Node.scalar_at_depth {node : Node} {depth : Nat} {value : Scalar}
    (h : node.content format depth = .ok (.scalar value)) (other : Nat) :
    node.content format other = .ok (.scalar value) := by
  rw [← h]
  rcases scalar_of_content h with rfl | ⟨tag, plain, s, rfl, -⟩
  · rfl
  · cases tag <;> rfl

theorem optionContent_at_depth {node : Node} {depth : Nat} {found : Option String}
    (h : node.content format depth = .ok (optionContent found)) (other : Nat) :
    node.content format other = .ok (optionContent found) := by
  cases found <;> exact Node.scalar_at_depth h other

theorem Node.writing_ne_none {node : Node} {depth : Nat} {s : String}
    (h : node.content format depth = .ok (.scalar (.text s))) : node.writing? ≠ none := by
  rcases scalar_of_content h with rfl | ⟨tag, plain, other, rfl, -⟩ <;> exact nofun

/-- Where the value is a text or null, a reader of optional texts finds something. -/
theorem optionalText_of_content {node : Node} {depth : Nat} {found : Option String}
    (h : node.content format depth = .ok (optionContent found)) :
    ∃ other, node.optionalText format = .ok other := by
  obtain ⟨value, hvalue⟩ : ∃ value, optionContent found = .scalar value := by
    cases found <;> exact ⟨_, rfl⟩
  rw [hvalue] at h
  rcases Node.scalar_of_content h with rfl | ⟨tag, plain, s, rfl, -, hsettle⟩
  · cases found <;> cases hvalue <;> exact ⟨_, rfl⟩
  · cases tag with
    | null =>
      -- Only here the reader compares what is written, if it is plain.
      cases plain with
      | true =>
        by_cases hnull : s ∈ nullWords
        · exact ⟨none, by rw [Node.optionalText, if_pos hnull]⟩
        · simp [Node.settle, hnull] at hsettle
      | false => exact ⟨some s, rfl⟩
    | none => cases plain <;> exact ⟨_, rfl⟩
    | _ => exact ⟨some s, rfl⟩

/-! ### What reads alike -/

/-- The key of an entry is a text and does not only look like one, and so is a condition. -/
structure Genuine (format : Format) (e : Node × Node) : Prop where
  /-- What is written as the key is its value. -/
  name : ∀ s, e.1.writing? = some s → e.1.content format 0 = .ok (.scalar (.text s))
  /-- The key is no number. -/
  number : ∀ i, e.1.content format 0 ≠ .ok (.scalar (.int i))
  /-- What a condition is taken for is its value. -/
  condition : e.1.writing? = some conditionField → ∀ found, e.2.optionalText format = .ok found →
    e.2.content format 0 = .ok (optionContent found)

/-- The entries of a node are genuine, and it has no mark of its own. -/
structure ReadsAlike (format : Format) (node : Node) : Prop where
  /-- Whatever is around an instruction may have a mark, but not the instruction. -/
  unmarked : ∀ pairs, node ≠ .map .own pairs
  /-- What the map has. -/
  genuine : ∀ tag pairs, node = .map tag pairs → ∀ e ∈ pairs, Genuine format e

/-- A genuine key has one name, as it is written and as a value. -/
theorem Genuine.name_iff {e : Node × Node} (h : Genuine format e) {depth : Nat} {s : String} :
    e.1.content format depth = .ok (.scalar (.text s)) ↔ e.1.writing? = some s := by
  constructor
  · intro hvalue
    obtain ⟨written, hwritten⟩ := Option.ne_none_iff_exists'.1 (Node.writing_ne_none hvalue)
    have hboth := (Node.scalar_at_depth (h.name written hwritten) depth).symm.trans hvalue
    cases hboth
    exact hwritten
  · exact fun hwritten => Node.scalar_at_depth (h.name s hwritten) depth

/-- A genuine condition is the same for both readers. -/
theorem Genuine.condition_iff {e : Node × Node} (h : Genuine format e)
    (hkey : e.1.writing? = some conditionField) {depth : Nat} {found : Option String} :
    e.2.content format depth = .ok (optionContent found) ↔
      e.2.optionalText format = .ok found := by
  constructor
  · intro hvalue
    obtain ⟨other, hother⟩ := optionalText_of_content hvalue
    have hboth := (optionContent_at_depth (h.condition hkey other hother) depth).symm.trans hvalue
    rw [hother, optionContent_injective (Except.ok.inj hboth)]
  · exact fun hfound => optionContent_at_depth (h.condition hkey found hfound) depth

/-! ### The two readers of entries -/

section

variable {key value : Node} {rest : List (Node × Node)} {name : String}
  {condition : Option (Option String)} {others : Entries} {result : Option String × Entries}

/-- The outer reader asks for the text of the condition, and for the value of everything else. -/
theorem splitNodes_cons_iff (h : key.writing? = some name) :
    splitNodes format ((key, value) :: rest) condition others = .ok result ↔
      (name = conditionField ∧ condition = none ∧ ∃ found, value.optionalText format = .ok found ∧
        splitNodes format rest (some found) others = .ok result) ∨
      (name ≠ conditionField ∧ ∃ c, value.content format instructionDepth = .ok c ∧
        splitNodes format rest condition (others ++ [(.scalar (.text name), c)]) = .ok result) := by
  simp only [splitNodes, bind_eq_ok_iff, Node.text_eq_ok, h, Option.some.injEq, exists_eq_left']
  by_cases hname : name = conditionField
  · cases condition <;> simp [hname, bind_eq_ok_iff]
  · simp [hname, bind_eq_ok_iff]

theorem splitNodes_other_iff (h : key.writing? = some name) (hname : name ≠ conditionField) :
    splitNodes format ((key, value) :: rest) condition others = .ok result ↔
      ∃ c, value.content format instructionDepth = .ok c ∧
        splitNodes format rest condition (others ++ [(.scalar (.text name), c)]) = .ok result := by
  simp [splitNodes_cons_iff h, hname]

/-- The inner reader has values only. -/
theorem splitContent_cons_iff {c : Content} {rest : Entries} :
    splitContent format ((.scalar (.text name), c) :: rest) condition others = .ok result ↔
      (name = conditionField ∧ condition = none ∧ ∃ found, c = optionContent found ∧
        splitContent format rest (some found) others = .ok result) ∨
      (name ≠ conditionField ∧ splitContent format rest condition
        (others ++ [(.scalar (.text name), c)]) = .ok result) := by
  simp only [splitContent]
  by_cases hname : name = conditionField
  · cases condition <;> simp [hname, bind_eq_ok_iff, optionalText_eq_ok]
  · simp [hname]

theorem entryContents_cons_iff {depth : Nat} {entries : Entries} :
    Node.entryContents format depth ((key, value) :: rest) = .ok entries ↔
      ∃ name c more, entries = (name, c) :: more ∧ key.content format depth = .ok name ∧
        value.content format depth = .ok c ∧ Node.entryContents format depth rest = .ok more := by
  simp only [Node.entryContents, bind_eq_ok_iff]
  constructor
  · rintro ⟨name, hname, c, hc, more, hmore, hentries⟩
    exact ⟨name, c, more, (Except.ok.inj hentries).symm, hname, hc, hmore⟩
  · rintro ⟨name, c, more, rfl, hname, hc, hmore⟩
    exact ⟨name, hname, c, hc, more, hmore, rfl⟩

end

/-- The readers find the same condition and the same other entries. The induction is on the
entries. -/
theorem splitNodes_iff {pairs : List (Node × Node)} {depth : Nat}
    (hgenuine : ∀ e ∈ pairs, Genuine format e)
    (h : instructionDepth + Node.pairsNesting pairs ≤ format.depthLimit)
    (hdepth : depth + Node.pairsNesting pairs ≤ format.depthLimit)
    (condition : Option (Option String)) (others : Entries) (result : Option String × Entries) :
    splitNodes format pairs condition others = .ok result ↔
      ∃ entries, Node.entryContents format depth pairs = .ok entries ∧
        splitContent format entries condition others = .ok result := by
  induction pairs generalizing condition others with
  | nil =>
    constructor
    · exact fun hresult => ⟨[], rfl, hresult⟩
    · rintro ⟨entries, hentries, hresult⟩
      cases hentries
      exact hresult
  | cons e rest ih =>
    obtain ⟨key, value⟩ := e
    obtain ⟨hfirst, hrest⟩ := List.forall_mem_cons.1 hgenuine
    rw [Node.pairsNesting] at h hdepth
    have hsame : value.content format instructionDepth = value.content format depth :=
      Node.content_eq_of_depth value (by omega) (by omega)
    have ih := ih hrest (by omega) (by omega)
    cases hwriting : key.writing? with
    | none =>
      -- Nothing is written as the key, so that neither reader gets past it.
      constructor
      · intro hresult
        rw [splitNodes] at hresult
        obtain ⟨name, hname, -⟩ := bind_eq_ok hresult
        rw [Node.text_eq_ok, hwriting] at hname
        cases hname
      · rintro ⟨entries, hentries, hsplit⟩
        obtain ⟨keyContent, c, more, rfl, hkey, -⟩ := entryContents_cons_iff.1 hentries
        unfold splitContent at hsplit
        split at hsplit
        · exact absurd hwriting (Node.writing_ne_none hkey)
        · exact absurd (Node.scalar_at_depth hkey 0) (hfirst.number _)
        · cases hsplit
    | some name =>
      have hname : key.content format depth = .ok (.scalar (.text name)) :=
        hfirst.name_iff.2 hwriting
      rw [splitNodes_cons_iff hwriting]
      simp only [ih, hsame]
      constructor
      · rintro (⟨rfl, hfresh, found, hfound, entries, hentries, hsplit⟩ |
          ⟨hne, c, hc, entries, hentries, hsplit⟩)
        · have hvalue : value.content format depth = .ok (optionContent found) :=
            (hfirst.condition_iff hwriting).2 hfound
          refine ⟨_, entryContents_cons_iff.2 ⟨_, _, _, rfl, hname, hvalue, hentries⟩, ?_⟩
          exact splitContent_cons_iff.2 (.inl ⟨rfl, hfresh, found, rfl, hsplit⟩)
        · refine ⟨_, entryContents_cons_iff.2 ⟨_, _, _, rfl, hname, hc, hentries⟩, ?_⟩
          exact splitContent_cons_iff.2 (.inr ⟨hne, hsplit⟩)
      · rintro ⟨entries, hentries, hsplit⟩
        obtain ⟨keyContent, c, more, rfl, hkey, hc, hmore⟩ := entryContents_cons_iff.1 hentries
        cases hname.symm.trans hkey
        rcases splitContent_cons_iff.1 hsplit with ⟨rfl, hfresh, found, rfl, hnext⟩ | ⟨hne, hnext⟩
        · exact .inl ⟨rfl, hfresh, found, (hfirst.condition_iff hwriting).1 hc, more, hmore, hnext⟩
        · exact .inr ⟨hne, c, hc, more, hmore, hnext⟩

/-- The inner reader takes nothing but a text or null for a condition. -/
theorem condition_of_splitContent {pairs : List (Node × Node)} {depth : Nat}
    {entries others : Entries} {condition : Option (Option String)}
    {result : Option String × Entries}
    (hentries : Node.entryContents format depth pairs = .ok entries)
    (h : splitContent format entries condition others = .ok result) :
    ∀ e ∈ pairs, e.1.content format depth = .ok (.scalar (.text conditionField)) →
      ∃ found, e.2.content format depth = .ok (optionContent found) := by
  induction pairs generalizing entries condition others with
  | nil => exact fun e he => (List.not_mem_nil he).elim
  | cons e rest ih =>
    obtain ⟨key, value⟩ := e
    obtain ⟨name, c, more, rfl, hkey, hc, hmore⟩ := entryContents_cons_iff.1 hentries
    refine List.forall_mem_cons.2 ⟨?_, ?_⟩
    · intro hcondition
      cases hkey.symm.trans hcondition
      rcases splitContent_cons_iff.1 h with ⟨-, -, found, rfl, -⟩ | ⟨hne, -⟩
      · exact ⟨found, hc⟩
      · exact absurd rfl hne
    · -- Whatever the reader has made of the first entry, it has read the others.
      unfold splitContent at h
      split at h
      · split at h
        · split at h
          · cases h
          · obtain ⟨found, -, h⟩ := bind_eq_ok h
            exact ih hmore h
        · exact ih hmore h
      · split at h
        · cases h
        · exact ih hmore h
      · cases h

/-! ### The two readers of instructions -/

theorem instructionOfEntries_nil {levels : Nat} {condition : Option String}
    {instruction : Instruction} :
    instructionOfEntries format levels condition [] ≠ .ok instruction := by
  cases levels <;> exact nofun

theorem map_of_instructionOfNode {node : Node} {instruction : Instruction}
    (h : instructionOfNode format node = .ok instruction) : ∃ tag pairs, node = .map tag pairs := by
  obtain ⟨pairs, hpairs, h⟩ := bind_eq_ok h
  unfold Node.entries at hpairs
  split at hpairs
  · exact ⟨_, _, rfl⟩
  · split at hpairs
    · -- A scalar of which nothing is written has no entries, and hence no type.
      cases hpairs
      exact absurd h instructionOfEntries_nil
    · cases hpairs

theorem map_of_instructionOfContent {levels : Nat} {c : Content} {instruction : Instruction}
    (h : instructionOfContent format levels c = .ok instruction) : ∃ entries, c = .map entries := by
  cases c with
  | map entries => exact ⟨entries, rfl⟩
  | _ => cases levels <;> cases h

/-- A node with a map as its value is a map. -/
theorem Node.map_of_content {node : Node} {depth : Nat} {entries : Entries}
    (h : node.content format depth = .ok (.map entries)) : ∃ tag pairs, node = .map tag pairs ∧
      entryContents format (depth + 1) pairs = .ok entries := by
  rcases content_cases h with ⟨_, hvalue, -⟩ | ⟨_, _, _, -, hvalue, -⟩ |
    ⟨tag, pairs, found, rfl, hvalue, -, -, hpairs⟩
  · cases hvalue
  · cases hvalue
  · cases hvalue
    exact ⟨tag, pairs, rfl, hpairs⟩

theorem instructionOfNode_map_iff {tag : Tag} {pairs : List (Node × Node)}
    {instruction : Instruction} :
    instructionOfNode format (.map tag pairs) = .ok instruction ↔
      ∃ condition others, splitNodes format pairs none [] = .ok (condition, others) ∧
        instructionOfEntries format (3 * format.depthLimit) condition others =
          .ok instruction := by
  have hread : instructionOfNode format (.map tag pairs) =
      splitNodes format pairs none [] >>= fun split =>
        instructionOfEntries format (3 * format.depthLimit) split.1 split.2 := rfl
  rw [hread, bind_eq_ok_iff, Prod.exists]

theorem instructionOfContent_map_iff {levels : Nat} {entries : Entries}
    {instruction : Instruction} :
    instructionOfContent format (levels + 1) (.map entries) = .ok instruction ↔
      ∃ condition others, splitContent format entries none [] = .ok (condition, others) ∧
        instructionOfEntries format levels condition others = .ok instruction := by
  rw [instructionOfContent]
  cases splitContent format entries none [] with
  | error fault => simp
  | ok split =>
    obtain ⟨condition, others⟩ := split
    constructor
    · exact fun hread => ⟨condition, others, rfl, hread⟩
    · rintro ⟨condition, others, hsplit, hread⟩
      cases hsplit
      exact hread

/-- Neither reader counts more levels than the values of the entries can use up. -/
theorem instructionOfEntries_of_split {pairs : List (Node × Node)} {depth levels : Nat}
    {entries others : Entries} {condition : Option String}
    (h : 3 * Node.pairsNesting pairs + 4 ≤ 3 * format.depthLimit)
    (hlevels : 3 * Node.pairsNesting pairs + 4 ≤ levels)
    (hentries : Node.entryContents format depth pairs = .ok entries)
    (hsplit : splitContent format entries none [] = .ok (condition, others)) :
    instructionOfEntries format (3 * format.depthLimit) condition others =
      instructionOfEntries format levels condition others := by
  have hnesting : ∀ e ∈ others, e.2.nesting < Node.pairsNesting pairs + 1 := by
    intro e he
    have hmem : e ∈ entries := (splitContent_subset hsplit e he).resolve_left List.not_mem_nil
    have hvalue := Content.nesting_value_lt hmem
    rw [Content.nesting] at hvalue
    exact hvalue.trans_le (Nat.succ_le_succ (Node.nesting_entryContents_le hentries))
  exact instructionOfEntries_of_levels (by omega) (by omega) condition hnesting

/-- An instruction reads alike as a node and, two lists or maps further inside, as a value. -/
theorem instructionOfNode_iff {node : Node} {levels : Nat} {instruction : Instruction}
    (halike : ReadsAlike format node) (h : node.nesting + 4 ≤ format.depthLimit)
    (hlevels : 3 * node.nesting + 2 ≤ levels) :
    instructionOfNode format node = .ok instruction ↔ ∃ c, node.content format 4 = .ok c ∧
      instructionOfContent format levels c = .ok instruction := by
  -- Both readers refuse everything but maps. The entries of the map stand at depth three in the
  -- outermost list, and at depth five in a group.
  obtain ⟨l, rfl⟩ : ∃ l, levels = l + 1 := ⟨levels - 1, by omega⟩
  constructor
  · intro hread
    obtain ⟨tag, pairs, rfl⟩ := map_of_instructionOfNode hread
    rw [Node.nesting] at h hlevels
    have hlevel : 3 * Node.pairsNesting pairs + 4 ≤ l := by omega
    obtain ⟨condition, others, hsplit, hread⟩ := instructionOfNode_map_iff.1 hread
    obtain ⟨entries, hentries, hsplit⟩ := (splitNodes_iff (halike.genuine tag pairs rfl)
      (by rw [instructionDepth]; omega) (show 5 + _ ≤ _ by omega) none [] _).1 hsplit
    have hown : tag ≠ .own := fun hown => halike.unmarked pairs (hown ▸ rfl)
    refine ⟨.map entries, Node.content_map hown (by omega) hentries, ?_⟩
    have hcount := instructionOfEntries_of_split (by omega) hlevel hentries hsplit
    exact instructionOfContent_map_iff.2 ⟨condition, others, hsplit, hcount.symm.trans hread⟩
  · rintro ⟨c, hc, hread⟩
    obtain ⟨entries, rfl⟩ := map_of_instructionOfContent hread
    obtain ⟨tag, pairs, rfl, hentries⟩ := Node.map_of_content hc
    rw [Node.nesting] at h hlevels
    have hlevel : 3 * Node.pairsNesting pairs + 4 ≤ l := by omega
    obtain ⟨condition, others, hsplit, hread⟩ := instructionOfContent_map_iff.1 hread
    have hcount := instructionOfEntries_of_split (by omega) hlevel hentries hsplit
    refine instructionOfNode_map_iff.2 ⟨condition, others, ?_, hcount.trans hread⟩
    exact (splitNodes_iff (halike.genuine tag pairs rfl) (by rw [instructionDepth]; omega)
      (show 5 + _ ≤ _ by omega) none [] _).2 ⟨entries, hentries, hsplit⟩

/-! ### Groups of one instruction -/

/-- A map that is a group of one instruction and says nothing else. -/
inductive GroupOf (format : Format) (node : Node) : Node → Prop where
  /-- The type and the list stand in either order. -/
  | mk {tag mark : Tag} {typeKey kind listKey : Node} {pairs : List (Node × Node)}
      (htype : typeKey.writing? = some typeField)
      (hkind : kind.content format 0 = .ok (.scalar (.text Kind.group.name)))
      (hlist : listKey.writing? = some instructionsField) (hmark : mark ≠ .own)
      (hpairs : pairs = [(typeKey, kind), (listKey, .list mark [node])] ∨
        pairs = [(listKey, .list mark [node]), (typeKey, kind)]) :
      GroupOf format node (.map tag pairs)

/-- The entries of a group with one value in its list. -/
def groupEntries (c : Content) : Entries :=
  [(.scalar (.text typeField), .scalar (.text Kind.group.name)),
    (.scalar (.text instructionsField), .list [c])]

theorem takeKind_groupEntries {c : Content} {entries : Entries}
    (h : entries = groupEntries c ∨ entries = (groupEntries c).reverse) :
    takeKind format entries =
      .ok (.group, [(.scalar (.text instructionsField), .list [c])]) := by
  rcases h with rfl | rfl <;> rfl

theorem instructionOfEntries_group_iff {levels : Nat} {condition : Option String}
    {entries : Entries} {c : Content} {instruction : Instruction}
    (h : entries = groupEntries c ∨ entries = (groupEntries c).reverse) :
    instructionOfEntries format (levels + 3) condition entries = .ok instruction ↔
      ∃ child, instructionOfContent format (levels + 1) c = .ok child ∧
        instruction = .group condition [child] := by
  have hchildren : childrenOfContent format (levels + 2) (.list [c]) =
      (instructionOfContent format (levels + 1) c).map fun child => [child] := by
    rw [childrenOfContent]
    simp only [Content.items, List.mapM_cons, List.mapM_nil]
    cases instructionOfContent format (levels + 1) c <;> rfl
  have hfield : fieldOf [instructionsField] (.scalar (.text instructionsField)) =
      some instructionsField := rfl
  rw [instructionOfEntries, takeKind_groupEntries h]
  simp only [collectFields, hfield, hchildren]
  cases instructionOfContent format (levels + 1) c with
  | error fault => simp [bind, Except.bind, Except.map]
  | ok child => simp [bind, Except.bind, Except.map, eq_comm]

theorem content_singleton_iff {node : Node} {mark : Tag} {c : Content} (hmark : mark ≠ .own) :
    (Node.list mark [node]).content format instructionDepth = .ok c ↔
      ∃ item, node.content format 4 = .ok item ∧ c = .list [item] := by
  have hlimit : ¬ (mark = .own ∨ format.depthLimit ≤ instructionDepth) := by
    rintro (hown | hlimit)
    · exact hmark hown
    · cases format <;> exact absurd hlimit (by decide)
  rw [Node.content, if_neg hlimit]
  simp only [Node.itemContents, instructionDepth]
  cases node.content format 4 with
  | error fault => simp [bind, Except.bind]
  | ok item => simp [bind, Except.bind, pure, Except.pure, eq_comm]

/-- What the outer reader finds in a group, in the order of the entries. -/
theorem splitNodes_group {node kind typeKey listKey : Node} {mark : Tag}
    {pairs : List (Node × Node)} (htype : typeKey.writing? = some typeField)
    (hkind : kind.content format 0 = .ok (.scalar (.text Kind.group.name)))
    (hlist : listKey.writing? = some instructionsField) (hmark : mark ≠ .own)
    (hpairs : pairs = [(typeKey, kind), (listKey, .list mark [node])] ∨
      pairs = [(listKey, .list mark [node]), (typeKey, kind)]) :
    ∃ arranged : Content → Entries,
      (∀ c, arranged c = groupEntries c ∨ arranged c = (groupEntries c).reverse) ∧
      ∀ result, splitNodes format pairs none [] = .ok result ↔
        ∃ c, node.content format 4 = .ok c ∧ result = (none, arranged c) := by
  have hvalue := Node.scalar_at_depth hkind instructionDepth
  have htypeName : typeField ≠ conditionField := by decide
  have hlistName : instructionsField ≠ conditionField := by decide
  rcases hpairs with rfl | rfl
  · refine ⟨groupEntries, fun c => .inl rfl, ?_⟩
    intro result
    simp only [splitNodes_other_iff htype htypeName, splitNodes_other_iff hlist hlistName, hvalue,
      content_singleton_iff hmark]
    constructor
    · rintro ⟨_, hgroup, _, ⟨c, hc, rfl⟩, hresult⟩
      cases hgroup
      exact ⟨c, hc, (Except.ok.inj hresult).symm⟩
    · rintro ⟨c, hc, rfl⟩
      exact ⟨_, rfl, _, ⟨c, hc, rfl⟩, rfl⟩
  · refine ⟨fun c => (groupEntries c).reverse, fun c => .inr rfl, ?_⟩
    intro result
    simp only [splitNodes_other_iff htype htypeName, splitNodes_other_iff hlist hlistName, hvalue,
      content_singleton_iff hmark]
    constructor
    · rintro ⟨_, ⟨c, hc, rfl⟩, _, hgroup, hresult⟩
      cases hgroup
      exact ⟨c, hc, (Except.ok.inj hresult).symm⟩
    · rintro ⟨c, hc, rfl⟩
      exact ⟨_, ⟨c, hc, rfl⟩, _, rfl, rfl⟩

/-- The group of an instruction reads as the group of what the instruction reads as. -/
theorem instructionOfNode_group_iff {node group : Node} {levels : Nat} {instruction : Instruction}
    (h : GroupOf format node group) (hlevels : 3 * format.depthLimit = levels + 3) :
    instructionOfNode format group = .ok instruction ↔ ∃ c, node.content format 4 = .ok c ∧
      ∃ child, instructionOfContent format (levels + 1) c = .ok child ∧
        instruction = .group none [child] := by
  obtain ⟨htype, hkind, hlist, hmark, hpairs⟩ := h
  obtain ⟨arranged, harranged, hsplit⟩ := splitNodes_group htype hkind hlist hmark hpairs
  simp only [instructionOfNode_map_iff, hsplit, hlevels]
  constructor
  · rintro ⟨condition, others, ⟨c, hc, hresult⟩, hread⟩
    cases hresult
    exact ⟨c, hc, (instructionOfEntries_group_iff (harranged c)).1 hread⟩
  · rintro ⟨c, hc, hread⟩
    exact ⟨none, arranged c, ⟨c, hc, rfl⟩, (instructionOfEntries_group_iff (harranged c)).2 hread⟩

/-- An instruction that reads alike is the one child of its group. -/
theorem instructionOfNode_grouped_iff {node group : Node} {instruction : Instruction}
    (hgroup : GroupOf format node group) (halike : ReadsAlike format node)
    (h : node.nesting + 4 ≤ format.depthLimit) :
    instructionOfNode format group = .ok instruction ↔
      ∃ child, instructionOfNode format node = .ok child ∧ instruction = .group none [child] := by
  obtain ⟨levels, hlevels⟩ : ∃ levels, 3 * format.depthLimit = levels + 3 :=
    ⟨3 * format.depthLimit - 3, by omega⟩
  have hnode : ∀ child, instructionOfNode format node = .ok child ↔ ∃ c,
      node.content format 4 = .ok c ∧ instructionOfContent format (levels + 1) c = .ok child :=
    fun child => instructionOfNode_iff halike h (by omega)
  simp only [instructionOfNode_group_iff hgroup hlevels, hnode]
  constructor
  · rintro ⟨c, hc, child, hchild, rfl⟩
    exact ⟨child, ⟨c, hc, hchild⟩, rfl⟩
  · rintro ⟨child, ⟨c, hc, hchild⟩, rfl⟩
    exact ⟨c, hc, child, hchild, rfl⟩

end Scaffold
