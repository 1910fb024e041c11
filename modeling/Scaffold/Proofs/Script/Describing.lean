import Scaffold.Proofs.Document.Values
import Scaffold.Proofs.Script.Fields

/-! # Objects that describe instructions

  An object describes an instruction if it has the fields of the instruction,
  each once and in any order. An optional field can be missing or null, and
  entries with other names do not matter.

  - `Describes`: an instruction and a node that describes it.
  - `instructionOfContent_describes`: such a node is read as the instruction, by
    recursion on the description.
  - `instructionOfNode_eq`: an instruction of the outermost list is read like
    one of a group.
-/

namespace Scaffold

/-! ### Descriptions -/

/-- A text as a node. -/
def textNode (s : String) : Node := .scalar (.text s)

/-- An object as a node. -/
def objectNode (entries : List (String × Node)) : Node :=
  .map .none (entries.map fun e => (textNode e.1, e.2))

/-- An optional text, and what can stand under its name. -/
inductive IsOption : Option String → List Node → Prop
  /-- The text. -/
  | given (s : String) : IsOption (some s) [textNode s]
  /-- Nothing. -/
  | absent : IsOption none []
  /-- Explicitly no text. -/
  | null : IsOption none [.scalar .null]

/-- The type of a step. -/
def Step.kind : Step → Kind
  | .inform _ => .inform
  | .query _ => .query
  | .define _ _ => .define
  | .process => .process
  | .move _ _ _ => .move
  | .rename _ _ _ => .rename
  | .delete _ _ => .delete

/-- The mandatory fields of a step. -/
def Step.texts : Step → List (String × String)
  | .inform message => [("message", message)]
  | .query q => [("name", q.name), ("prompt", q.prompt)]
  | .define name value => [("name", name), ("value", value)]
  | .process => []
  | .move source target _ => [("from", source), ("to", target)]
  | .rename file name _ => [("file", file), ("name", name)]
  | .delete files _ => [("files", files)]

/-- The optional fields of a step. -/
def Step.options : Step → List (String × Option String)
  | .inform _ | .define _ _ | .process => []
  | .query q =>
    [("default", q.default), ("validation", q.validation), ("transform", q.transform)]
  | .move _ _ description | .rename _ _ description | .delete _ description =>
    [("description", description)]

mutual

/-- An instruction, and a node that describes it. -/
inductive Describes : Instruction → Node → Prop
  /-- A step: its type, its condition and its fields. -/
  | step {condition : Option String} {step : Step} {entries : List (String × Node)}
      (htype : under typeField entries = [textNode step.kind.name])
      (hcondition : IsOption condition (under conditionField entries))
      (htexts : ∀ field ∈ step.texts, under field.1 entries = [textNode field.2])
      (hoptions : ∀ field ∈ step.options, IsOption field.2 (under field.1 entries)) :
      Describes (.step condition step) (objectNode entries)
  /-- A group: its type, its condition and its instructions. -/
  | group {condition : Option String} {children : List Instruction} {nodes : List Node}
      {entries : List (String × Node)}
      (htype : under typeField entries = [textNode Kind.group.name])
      (hcondition : IsOption condition (under conditionField entries))
      (hnodes : under instructionsField entries = [.list .none nodes])
      (hchildren : DescribesAll children nodes) :
      Describes (.group condition children) (objectNode entries)

/-- Instructions, and nodes that describe them one by one. -/
inductive DescribesAll : List Instruction → List Node → Prop
  /-- No instructions. -/
  | nil : DescribesAll [] []
  /-- An instruction and more. -/
  | cons {instruction : Instruction} {node : Node} {instructions : List Instruction}
      {nodes : List Node} (first : Describes instruction node)
      (rest : DescribesAll instructions nodes) :
      DescribesAll (instruction :: instructions) (node :: nodes)

end

theorem objectNode_injective : Function.Injective objectNode := by
  intro entries others h
  have hentry : Function.Injective fun e : String × Node => (textNode e.1, e.2) := by
    rintro ⟨name, value⟩ ⟨name', value'⟩ h
    simpa [textNode] using h
  exact List.map_injective_iff.2 hentry (Node.map.inj h).2

/-! ### Values of objects -/

/-- The entries of an object, with their values. -/
def plainFields (entries : List (String × Node)) : List (String × Content) :=
  entries.map fun e => (e.1, e.2.plain)

variable {entries : List (String × Node)} {name : String}

theorem under_plainFields (name : String) (entries : List (String × Node)) :
    under name (plainFields entries) = (under name entries).map Node.plain :=
  under_map Node.plain name entries

theorem plain_objectNode (entries : List (String × Node)) :
    (objectNode entries).plain = .map (keyed (plainFields entries)) := by
  have hpairs : ∀ entries : List (String × Node),
      Node.plainPairs (entries.map fun e => (textNode e.1, e.2)) = keyed (plainFields entries) := by
    intro entries
    induction entries with
    | nil => rfl
    | cons e rest ih =>
      rw [List.map_cons, Node.plainPairs, ih]
      rfl
  rw [objectNode, Node.plain, hpairs]

theorem readsOption_of_isOption {found : Option String} {nodes : List Node}
    (h : IsOption found nodes) : ReadsOption found (nodes.map Node.plain) := by
  cases h with
  | given s => exact .inr ⟨_, rfl, rfl⟩
  | absent => exact .inl ⟨rfl, rfl⟩
  | null => exact .inr ⟨_, rfl, rfl⟩

theorem nesting_of_under {node : Node} (h : node ∈ under name entries) :
    node.nesting + 1 ≤ (objectNode entries).nesting := by
  have hmem := mem_under.1 h
  rw [objectNode, Node.nesting]
  clear h
  induction entries with
  | nil => cases hmem
  | cons e rest ih =>
    rw [List.map_cons, Node.pairsNesting]
    rcases List.mem_cons.1 hmem with rfl | hmem
    · dsimp only
      omega
    · have hrest := ih hmem
      omega

theorem nesting_of_item {node : Node} {nodes : List Node} (h : node ∈ nodes) :
    node.nesting + 1 ≤ (Node.list .none nodes).nesting := by
  rw [Node.nesting]
  induction nodes with
  | nil => cases h
  | cons first rest ih =>
    rw [Node.itemsNesting]
    rcases List.mem_cons.1 h with rfl | h
    · omega
    · have hrest := ih h
      omega

/-! ### Steps -/

/-- A step is read from its fields, wherever they stand. -/
theorem stepOfEntries_ok {step : Step} {fields : List (String × Content)}
    (htexts : ∀ field ∈ step.texts, under field.1 fields = [.scalar (.text field.2)])
    (hoptions : ∀ field ∈ step.options, ReadsOption field.2 (under field.1 fields)) :
    stepOfEntries .json step.kind (keyed fields) = .ok step := by
  have hfree : ∀ field ∈ step.options, field.1 ∉ step.texts.map (·.1) := by
    cases step <;> simp [Step.options, Step.texts]
  obtain ⟨found, hfound, hgiven, hchosen⟩ :=
    textFields_ok step.texts step.options htexts hoptions hfree
  cases step with
  | process => rfl
  | _ =>
    simp only [Step.texts, Step.options, List.map_cons, List.map_nil, List.forall_mem_cons] at *
    simp [stepOfEntries, Step.kind, hfound, bind, Except.bind, textOf, optionOf, hgiven, hchosen,
      pure, Except.pure]

/-! ### Instructions -/

/-- The entries of an instruction that are neither its condition nor its type. -/
def remaining (fields : List (String × Content)) : List (String × Content) :=
  without typeField (without conditionField fields)

theorem under_remaining {fields : List (String × Content)} (hcondition : name ≠ conditionField)
    (htype : name ≠ typeField) : under name (remaining fields) = under name fields := by
  rw [remaining, under_without htype, under_without hcondition]

theorem field_of_step {step : Step} : ∀ name ∈ step.texts.map (·.1) ++ step.options.map (·.1),
    name ≠ conditionField ∧ name ≠ typeField := by
  cases step <;> simp [Step.texts, Step.options, conditionField, typeField]

/-- With the condition and the type aside, an instruction is read by its type. -/
theorem instructionOfContent_eq {levels : Nat} {kind : Kind} {condition : Option String}
    (htype : under typeField entries = [textNode kind.name])
    (hcondition : IsOption condition (under conditionField entries)) :
    instructionOfContent .json (levels + 1) (objectNode entries).plain =
      instructionOfEntries .json levels condition
        (keyed (without conditionField (plainFields entries))) ∧
    takeKind .json (keyed (without conditionField (plainFields entries))) =
      .ok (kind, keyed (remaining (plainFields entries))) := by
  have hfound : ReadsOption condition (under conditionField (plainFields entries)) := by
    rw [under_plainFields]
    exact readsOption_of_isOption hcondition
  have hkind : under typeField (without conditionField (plainFields entries)) =
      [.scalar (.text kind.name)] := by
    rw [under_without (by decide), under_plainFields, htype]
    rfl
  refine ⟨?_, takeKind_name hkind⟩
  rw [plain_objectNode, instructionOfContent, splitContent_option hfound]
  rfl

theorem instructionOfContent_step {levels : Nat} {condition : Option String} {step : Step}
    (htype : under typeField entries = [textNode step.kind.name])
    (hcondition : IsOption condition (under conditionField entries))
    (htexts : ∀ field ∈ step.texts, under field.1 entries = [textNode field.2])
    (hoptions : ∀ field ∈ step.options, IsOption field.2 (under field.1 entries)) :
    instructionOfContent .json (levels + 2) (objectNode entries).plain =
      .ok (.step condition step) := by
  obtain ⟨hcontent, hkind⟩ := instructionOfContent_eq htype hcondition
  have hname : ∀ name ∈ step.texts.map (·.1) ++ step.options.map (·.1),
      under name (remaining (plainFields entries)) = (under name entries).map Node.plain := by
    intro name hname
    obtain ⟨hne, hne'⟩ := field_of_step name hname
    rw [under_remaining hne hne', under_plainFields]
  have hstep : stepOfEntries .json step.kind (keyed (remaining (plainFields entries))) =
      .ok step := by
    refine stepOfEntries_ok (fun field hfield => ?_) fun field hfield => ?_
    · rw [hname _ (List.mem_append_left _ (List.mem_map_of_mem hfield)), htexts field hfield]
      rfl
    · rw [hname _ (List.mem_append_right _ (List.mem_map_of_mem hfield))]
      exact readsOption_of_isOption (hoptions field hfield)
  rw [hcontent, instructionOfEntries, hkind]
  cases step with
  | _ =>
    simp only [Step.kind] at hstep ⊢
    rw [hstep]
    rfl

theorem instructionOfContent_group {levels : Nat} {condition : Option String}
    {children : List Instruction} {nodes : List Node}
    (htype : under typeField entries = [textNode Kind.group.name])
    (hcondition : IsOption condition (under conditionField entries))
    (hnodes : under instructionsField entries = [.list .none nodes])
    (hchildren : (Node.plainItems nodes).mapM (instructionOfContent .json levels) = .ok children) :
    instructionOfContent .json (levels + 3) (objectNode entries).plain =
      .ok (.group condition children) := by
  obtain ⟨hcontent, hkind⟩ := instructionOfContent_eq htype hcondition
  have hunder : under instructionsField (remaining (plainFields entries)) =
      [.list (Node.plainItems nodes)] := by
    rw [under_remaining (by decide) (by decide), under_plainFields, hnodes]
    rfl
  have hread : childrenOfContent .json (levels + 1) (.list (Node.plainItems nodes)) =
      .ok children := by
    rw [childrenOfContent]
    exact hchildren
  have hfields : ∀ name ∈ [instructionsField],
      under name (remaining (plainFields entries)) = [] ∨
        ([] : List (String × List Instruction)).lookup name = none ∧
          ∃ a, (under name (remaining (plainFields entries))).map
            (fun c => childrenOfContent .json (levels + 1) c) = [.ok a] := by
    intro name hname
    rw [List.mem_singleton.1 hname, hunder]
    exact .inr ⟨rfl, children, by rw [List.map_cons, List.map_nil, hread]⟩
  obtain ⟨result, hresult, hlookup⟩ := collectFields_ok hfields
  have hfound : result.lookup instructionsField = some children := by
    refine (hlookup instructionsField (List.mem_singleton_self _)).2 children ?_
    rw [hunder, List.map_cons, List.map_nil, hread]
  rw [hcontent, instructionOfEntries, hkind]
  simp only
  rw [hresult]
  -- The one field that is found is the first and only one.
  cases result with
  | nil => cases hfound
  | cons first more =>
    obtain ⟨name, value⟩ := first
    rcases collectFields_names hresult (name, value) (List.mem_cons_self ..) with hnone | hname
    · cases hnone
    · obtain rfl : name = instructionsField := List.mem_singleton.1 hname
      rw [List.lookup_cons_self] at hfound
      cases hfound
      rfl

mutual

/-- A node that describes an instruction is read as it, as a value. Each group takes three levels,
and two of nesting. -/
theorem instructionOfContent_describes {levels : Nat} {instruction : Instruction} {node : Node} :
    Describes instruction node → 3 * node.nesting ≤ levels →
      instructionOfContent .json levels node.plain = .ok instruction
  | .step htype hcondition htexts hoptions, hlevels => by
    rw [objectNode, Node.nesting] at hlevels
    obtain ⟨levels, rfl⟩ := Nat.exists_eq_add_of_le' (show 2 ≤ levels by omega)
    exact instructionOfContent_step htype hcondition htexts hoptions
  | .group htype hcondition hnodes hchildren, hlevels => by
    have hlist := nesting_of_under (hnodes ▸ List.mem_singleton_self _)
    obtain ⟨levels, rfl⟩ := Nat.exists_eq_add_of_le' (show 3 ≤ levels by omega)
    refine instructionOfContent_group htype hcondition hnodes
      (instructionsOfContent_describes hchildren fun node hnode => ?_)
    have hitem := nesting_of_item hnode
    omega

/-- The instructions of a group. -/
theorem instructionsOfContent_describes {levels : Nat} {instructions : List Instruction}
    {nodes : List Node} : DescribesAll instructions nodes →
      (∀ node ∈ nodes, 3 * node.nesting ≤ levels) →
        (Node.plainItems nodes).mapM (instructionOfContent .json levels) = .ok instructions
  | .nil, _ => rfl
  | .cons first rest, hlevels => by
    rw [Node.plainItems, List.mapM_cons,
      instructionOfContent_describes first (hlevels _ (List.mem_cons_self ..)),
      instructionsOfContent_describes rest fun node hnode =>
        hlevels node (List.mem_cons_of_mem _ hnode)]
    rfl

end

/-! ### Instructions of the outermost list -/

/-- A readable node holds an optional text if its value does. -/
theorem optionalText_plain {node : Node} (h : node.isReadable = true) :
    node.optionalText .json = node.plain.optionalText .json := by
  cases node with
  | scalar value =>
    cases value with
    | wide i => cases h
    | _ => rfl
  | list tag nodes => rfl
  | map tag pairs => rfl
  | written _ _ _ => cases h
  | unreadable => cases h
  | broken => cases h

theorem splitNodes_eq (hreadable : ∀ e ∈ entries, e.2.isReadable = true)
    (hshallow : ∀ e ∈ entries, instructionDepth + e.2.nesting ≤ Format.json.depthLimit)
    (condition : Option (Option String)) (others : Entries) :
    splitNodes .json (entries.map fun e => (textNode e.1, e.2)) condition others =
      splitContent .json (keyed (plainFields entries)) condition others := by
  induction entries generalizing condition others with
  | nil => rfl
  | cons e rest ih =>
    obtain ⟨key, value⟩ := e
    obtain ⟨hfirst, hrest⟩ := List.forall_mem_cons.1 hreadable
    obtain ⟨hdepth, hdepths⟩ := List.forall_mem_cons.1 hshallow
    simp only [List.map_cons, splitNodes, plainFields, keyed, splitContent, textNode, Node.text]
    simp only [bind, Except.bind, optionalText_plain hfirst,
      Node.content_eq_plain value hfirst hdepth]
    have hmore := ih hrest hdepths
    simp only [plainFields, keyed, textNode] at hmore
    split
    · split
      · rfl
      · split
        · rfl
        · exact hmore _ _
    · exact hmore _ _

theorem readable_of_object (h : (objectNode entries).isReadable = true) :
    ∀ e ∈ entries, e.2.isReadable = true := by
  rw [objectNode, Node.isReadable] at h
  induction entries with
  | nil => exact fun e he => (List.not_mem_nil he).elim
  | cons e rest ih =>
    simp only [List.map_cons, Node.allPairsReadable, Bool.and_eq_true] at h
    exact List.forall_mem_cons.2 ⟨h.1.2, ih h.2⟩

/-- Within the limit, an instruction of the outermost list is read like one of a group. -/
theorem instructionOfNode_eq (hreadable : (objectNode entries).isReadable = true)
    (hshallow : 2 + (objectNode entries).nesting ≤ Format.json.depthLimit) :
    instructionOfNode .json (objectNode entries) =
      instructionOfContent .json (3 * Format.json.depthLimit + 1) (objectNode entries).plain := by
  have hdepths : ∀ e ∈ entries, instructionDepth + e.2.nesting ≤ Format.json.depthLimit := by
    intro e he
    have hnesting : e.2.nesting + 1 ≤ (objectNode entries).nesting :=
      nesting_of_under (mem_under.2 he)
    unfold instructionDepth
    omega
  have hsplit := splitNodes_eq (readable_of_object hreadable) hdepths none []
  have hnode : instructionOfNode .json (objectNode entries) =
      (splitContent .json (keyed (plainFields entries)) none []).bind fun found =>
        instructionOfEntries .json (3 * Format.json.depthLimit) found.1 found.2 := by
    rw [← hsplit]
    rfl
  rw [hnode, plain_objectNode, instructionOfContent]
  cases splitContent .json (keyed (plainFields entries)) none [] <;> rfl

/-- A node that describes an instruction is read as it. -/
theorem instructionOfNode_describes {instruction : Instruction} {node : Node}
    (h : Describes instruction node) (hreadable : node.isReadable = true)
    (hshallow : 2 + node.nesting ≤ Format.json.depthLimit) :
    instructionOfNode .json node = .ok instruction := by
  have hobject : ∃ entries, node = objectNode entries := by
    cases h <;> exact ⟨_, rfl⟩
  obtain ⟨entries, rfl⟩ := hobject
  rw [instructionOfNode_eq hreadable hshallow]
  exact instructionOfContent_describes h (by omega)

end Scaffold
