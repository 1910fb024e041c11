import Scaffold.Proofs.Json.Writing
import Scaffold.Proofs.Script.Describing
import Scaffold.Script.Load

/-! # Configurations in JSON

  A document that describes a configuration is read as it, however it is
  written. If an instruction lacks a mandatory field, or has a type that does
  not exist, the document is refused, however deep the instruction stands.

  - `DescribesConfig`, `Legible`: documents of a configuration, and what their
    reader can cope with.
  - `Damaged`: an instruction that has lost a field, or its type.
  - `json_configuration`: reading documents.
-/

namespace Scaffold

open Json (WrittenDocument)

variable {entries : List (String × Node)}

/-! ### Descriptions -/

/-- An object describes a configuration. Without instructions their list can be missing. -/
structure DescribesConfig (config : Config) (entries : List (String × Node)) : Prop where
  /-- The name. -/
  name : IsOption config.name (under "name" entries)
  /-- What the template is for. -/
  description : IsOption config.description (under "description" entries)
  /-- The script. -/
  instructions : (under instructionsField entries = [] ∧ config.instructions = []) ∨
    ∃ nodes, under instructionsField entries = [.list .none nodes] ∧
      DescribesAll config.instructions nodes

/-- The instructions stay below the limit of nesting. The object and the list are around them. -/
def BelowLimit (entries : List (String × Node)) : Prop :=
  ∀ nodes, .list .none nodes ∈ under instructionsField entries →
    ∀ node ∈ nodes, 2 + node.nesting ≤ Format.json.depthLimit

/-- Whatever stands in an instruction has a value. -/
def Legible (entries : List (String × Node)) : Prop :=
  ∀ nodes, .list .none nodes ∈ under instructionsField entries →
    ∀ node ∈ nodes, node.isReadable = true

/-! ### Reading configurations -/

/-- What a reader makes of the values of a field: nothing, or what it reads in the only one. -/
def Takes {α : Type} (read : Node → Reading α) (values : List Node) (before after : Option α) :
    Prop :=
  (values = [] ∧ after = before) ∨
    before = none ∧ ∃ value a, values = [value] ∧ read value = .ok a ∧ after = some a

/-- A field that was given is not there again. -/
theorem Takes.next {α : Type} {read : Node → Reading α} {value : Node} {rest : List Node}
    {before after : Option α} (h : Takes read (value :: rest) before after) :
    before = none ∧ ∃ a, read value = .ok a ∧ Takes read rest (some a) after := by
  rcases h with ⟨hnone, -⟩ | ⟨hbefore, first, a, hvalues, hread, rfl⟩
  · cases hnone
  · obtain ⟨rfl, rfl⟩ := List.cons.inj hvalues
    exact ⟨hbefore, a, hread, .inl ⟨rfl, rfl⟩⟩

/-- The fields are read wherever they stand, and other entries are skipped. -/
theorem readEntries_ok {d after : ConfigDraft}
    (hname : Takes (Node.optionalText .json) (under "name" entries) d.name after.name)
    (hdescription : Takes (Node.optionalText .json) (under "description" entries) d.description
      after.description)
    (hinstructions : Takes (instructionsOfNode .json) (under instructionsField entries)
      d.instructions after.instructions)
    (hsound : ∀ e ∈ entries, e.2.isSound = true) :
    readEntries .json (entries.map fun e => (textNode e.1, e.2)) d = .ok after := by
  induction entries generalizing d with
  | nil =>
    have hdone : ∀ {α : Type} {read : Node → Reading α} {before after : Option α},
        Takes read [] before after → after = before := by
      rintro α read before after (⟨-, h⟩ | ⟨-, _, _, hvalues, -⟩)
      · exact h
      · cases hvalues
    have hsame : after = d := by
      cases after
      cases d
      congr 1
      · exact hdone hname
      · exact hdone hdescription
      · exact hdone hinstructions
    rw [hsame]
    rfl
  | cons e rest ih =>
    obtain ⟨key, value⟩ := e
    obtain ⟨hfirst, hrest⟩ := List.forall_mem_cons.1 hsound
    have hskip : ∀ {name : String}, key ≠ name →
        under name ((key, value) :: rest) = under name rest :=
      fun hne => under_cons_of_ne hne value rest
    simp only [List.map_cons, readEntries, textNode, Node.text, bind, Except.bind]
    split
    · rw [under_cons_self] at hname
      rw [hskip (by decide)] at hdescription hinstructions
      obtain ⟨hbefore, a, hread, hnext⟩ := hname.next
      simp only [hbefore, hread]
      exact ih hnext hdescription hinstructions hrest
    · rw [under_cons_self] at hdescription
      rw [hskip (by decide)] at hname hinstructions
      obtain ⟨hbefore, a, hread, hnext⟩ := hdescription.next
      simp only [hbefore, hread]
      exact ih hname hnext hinstructions hrest
    · rw [instructionsField, under_cons_self] at hinstructions
      rw [hskip (by decide)] at hname hdescription
      obtain ⟨hbefore, a, hread, hnext⟩ := hinstructions.next
      simp only [hbefore, hread]
      exact ih hname hdescription hnext hrest
    · next hname' hdescription' hinstructions' =>
      rw [hskip hname'] at hname
      rw [hskip hdescription'] at hdescription
      rw [hskip (show key ≠ instructionsField from hinstructions')] at hinstructions
      rw [if_pos hfirst]
      exact ih hname hdescription hinstructions hrest

theorem takes_of_isOption {found : Option String} {nodes : List Node} (h : IsOption found nodes) :
    ∃ after, Takes (Node.optionalText .json) nodes none after ∧ after.getD none = found := by
  cases h with
  | given s => exact ⟨some (some s), .inr ⟨rfl, _, _, rfl, rfl, rfl⟩, rfl⟩
  | absent => exact ⟨none, .inl ⟨rfl, rfl⟩, rfl⟩
  | null => exact ⟨some none, .inr ⟨rfl, _, _, rfl, rfl, rfl⟩, rfl⟩

theorem instructionsOfNode_describes {instructions : List Instruction} {nodes : List Node}
    (h : DescribesAll instructions nodes) (hreadable : ∀ node ∈ nodes, node.isReadable = true)
    (hshallow : ∀ node ∈ nodes, 2 + node.nesting ≤ Format.json.depthLimit) :
    instructionsOfNode .json (.list .none nodes) = .ok instructions := by
  have hmap : nodes.mapM (instructionOfNode .json) = .ok instructions := by
    induction nodes generalizing instructions with
    | nil =>
      cases h
      rfl
    | cons node rest ih =>
      cases h with
      | cons hfirst hrest =>
        obtain ⟨hread, hreads⟩ := List.forall_mem_cons.1 hreadable
        obtain ⟨hdepth, hdepths⟩ := List.forall_mem_cons.1 hshallow
        rw [List.mapM_cons, instructionOfNode_describes hfirst hread hdepth,
          ih hrest hreads hdepths]
        rfl
  exact hmap

theorem isSound_of_object (h : (objectNode entries).isSound = true) :
    ∀ e ∈ entries, e.2.isSound = true := by
  rw [objectNode, Node.isSound] at h
  induction entries with
  | nil => exact fun e he => (List.not_mem_nil he).elim
  | cons e rest ih =>
    simp only [List.map_cons, Node.allPairsSound, Bool.and_eq_true] at h
    exact List.forall_mem_cons.2 ⟨h.1.2, ih h.2⟩

/-- An object that describes a configuration is read as it. -/
theorem ofNode_describes {config : Config} (h : DescribesConfig config entries)
    (hlimit : BelowLimit entries) (hlegible : Legible entries)
    (hsound : (objectNode entries).isSound = true) :
    Config.ofNode .json (objectNode entries) = .ok config := by
  obtain ⟨name, hname, hnamed⟩ := takes_of_isOption h.name
  obtain ⟨description, hdescription, hdescribed⟩ := takes_of_isOption h.description
  have hscript : ∃ after, Takes (instructionsOfNode .json) (under instructionsField entries) none
      after ∧ after.getD [] = config.instructions := by
    rcases h.instructions with ⟨hnone, hempty⟩ | ⟨nodes, hnodes, hall⟩
    · exact ⟨none, .inl ⟨hnone, rfl⟩, hempty.symm⟩
    · have hmem : .list .none nodes ∈ under instructionsField entries := by
        rw [hnodes]
        exact List.mem_singleton_self _
      exact ⟨some config.instructions, .inr ⟨rfl, _, _, hnodes,
        instructionsOfNode_describes hall (hlegible nodes hmem) (hlimit nodes hmem), rfl⟩, rfl⟩
  obtain ⟨instructions, hinstructions, hscripted⟩ := hscript
  have hentries : readEntries .json (entries.map fun e => (textNode e.1, e.2)) {} =
      .ok ⟨name, description, instructions⟩ :=
    readEntries_ok hname hdescription hinstructions (isSound_of_object hsound)
  have hfinish : ConfigDraft.finish ⟨name, description, instructions⟩ = config := by
    rw [ConfigDraft.finish]
    cases config
    simp_all
  have hnode : Config.ofNode .json (objectNode entries) =
      (readEntries .json (entries.map fun e => (textNode e.1, e.2)) {}).map
        ConfigDraft.finish := by
    rfl
  rw [hnode, hentries, ← hfinish]
  rfl

/-! ### Damage -/

/-- The fields that an instruction of a type needs beside the type. -/
def Kind.mandatory : Kind → List String
  | .group => [instructionsField]
  | .inform => ["message"]
  | .query => ["name", "prompt"]
  | .define => ["name", "value"]
  | .process => []
  | .move => ["from", "to"]
  | .rename => ["file", "name"]
  | .delete => ["files"]

/-- The type of an instruction. -/
def Instruction.kind : Instruction → Kind
  | .step _ s => s.kind
  | .group _ _ => .group

/-- An instruction that has lost a mandatory field, or whose type has been replaced by a name that
does not exist; or a group with such an instruction in it. -/
inductive Damaged : Node → Prop
  /-- A mandatory field has been removed. -/
  | removed {instruction : Instruction} {entries : List (String × Node)} {name : String}
      (h : Describes instruction (objectNode entries))
      (hname : name ∈ typeField :: instruction.kind.mandatory) :
      Damaged (objectNode (without name entries))
  /-- The type has been replaced. -/
  | retyped {instruction : Instruction} {entries : List (String × Node)} {name : String}
      (h : Describes instruction (objectNode entries)) (hname : name ∉ Kind.all.map Kind.name) :
      Damaged (objectNode (entries.map fun e =>
        (e.1, if e.1 = typeField then textNode name else e.2)))
  /-- An instruction of a group is damaged. -/
  | inside {entries : List (String × Node)} {nodes : List Node} {node : Node}
      (hgroup : textNode Kind.group.name ∈ under typeField entries)
      (hnodes : .list .none nodes ∈ under instructionsField entries) (hnode : node ∈ nodes)
      (h : Damaged node) : Damaged (objectNode entries)

/-- A configuration with a damaged instruction, however deep. -/
def HasDamage (entries : List (String × Node)) : Prop :=
  ∃ nodes, .list .none nodes ∈ under instructionsField entries ∧ ∃ node ∈ nodes, Damaged node

/-! ### What an accepted instruction has -/

/-- The entries have one type, the fields that it needs, and children that can be read. -/
structure Complete (kind : Kind) (fields : List (String × Content)) : Prop where
  /-- There is one type. -/
  type : ∃ value, under typeField fields = [value] ∧ Kind.ofContent .json value = .ok kind
  /-- No mandatory field is missing. -/
  mandatory : ∀ name ∈ kind.mandatory, under name fields ≠ []
  /-- A group's instructions can be read. -/
  children : kind = .group → ∀ c ∈ under instructionsField fields,
    ∃ levels children, childrenOfContent .json levels c = .ok children

theorem stepOfEntries_inv {kind : Kind} {fields : List (String × Content)} {step : Step}
    (hkind : kind ≠ .group) (h : stepOfEntries .json kind (keyed fields) = .ok step) :
    ∀ name ∈ kind.mandatory, under name fields ≠ [] := by
  have hread : ∀ (mandatory optional : List String)
      (make : List (String × Option String) → Reading Step),
      (textFields .json mandatory optional (keyed fields) >>= make) = .ok step →
        ∀ name ∈ mandatory, under name fields ≠ [] := by
    intro mandatory optional make hmake
    obtain ⟨result, hfields, -⟩ := bind_eq_ok hmake
    exact textFields_inv hfields
  cases kind with
  | group => exact absurd rfl hkind
  | process => exact fun name hname => (List.not_mem_nil hname).elim
  | _ => exact hread _ _ _ h

/-- A group that is accepted has instructions, and they can be read. -/
theorem group_inv {levels : Nat} {condition : Option String} {others : Entries}
    {fields : List (String × Content)} {instruction : Instruction}
    (htake : takeKind .json others = .ok (.group, keyed fields))
    (h : instructionOfEntries .json (levels + 1) condition others = .ok instruction) :
    under instructionsField fields ≠ [] ∧ ∀ c ∈ under instructionsField fields,
      ∃ children, childrenOfContent .json levels c = .ok children := by
  rw [instructionOfEntries, htake] at h
  simp only at h
  cases hfields : collectFields [instructionsField] (fun _ c => childrenOfContent .json levels c)
      (keyed fields) [] with
  | error fault =>
    rw [hfields] at h
    cases h
  | ok found =>
    obtain ⟨hread, hsome⟩ := collectFields_inv hfields
    refine ⟨?_, hread instructionsField (List.mem_singleton_self _)⟩
    cases found with
    | nil =>
      rw [hfields] at h
      cases h
    | cons first more =>
      obtain ⟨name, children⟩ := first
      have hname := collectFields_names hfields (name, children) (List.mem_cons_self ..)
      rcases hname with hnone | hname
      · cases hnone
      · obtain rfl : name = instructionsField := List.mem_singleton.1 hname
        rcases hsome instructionsField (by rw [List.lookup_cons_self]; rfl) with hnone | ⟨-, hne⟩
        · cases hnone
        · exact hne

/-- A step that is accepted could be read. -/
theorem step_inv {levels : Nat} {kind : Kind} {condition : Option String} {others rest : Entries}
    {instruction : Instruction} (hkind : kind ≠ .group)
    (htake : takeKind .json others = .ok (kind, rest))
    (h : instructionOfEntries .json (levels + 1) condition others = .ok instruction) :
    ∃ step, stepOfEntries .json kind rest = .ok step := by
  rw [instructionOfEntries, htake] at h
  cases kind with
  | group => exact absurd rfl hkind
  | _ =>
    simp only at h
    cases hstep : stepOfEntries .json _ rest with
    | error fault =>
      rw [hstep] at h
      cases h
    | ok step => exact ⟨step, rfl⟩

/-- The condition aside, an instruction that is accepted is complete. -/
theorem complete_of_entries {levels : Nat} {condition : Option String}
    {fields : List (String × Content)} {instruction : Instruction}
    (h : instructionOfEntries .json levels condition
      (keyed (without conditionField fields)) = .ok instruction) :
    ∃ kind, Complete kind fields := by
  cases levels with
  | zero => cases h
  | succ levels =>
    cases htake : takeKind .json (keyed (without conditionField fields)) with
    | error fault =>
      rw [instructionOfEntries, htake] at h
      cases h
    | ok taken =>
      obtain ⟨kind, others⟩ := taken
      obtain ⟨rfl, value, hvalue, hkind⟩ := takeKind_inv htake
      rw [under_without (by decide)] at hvalue
      have hunder : ∀ name ∈ kind.mandatory, under name (remaining fields) = under name fields := by
        intro name hname
        have hne : name ≠ conditionField ∧ name ≠ typeField := by
          revert name
          cases kind <;> decide
        exact under_remaining hne.1 hne.2
      refine ⟨kind, ⟨value, hvalue, hkind⟩, ?_, ?_⟩
      · by_cases hgroup : kind = .group
        · subst hgroup
          intro name hname
          rw [← hunder name hname, List.mem_singleton.1 hname]
          exact (group_inv htake h).1
        · obtain ⟨step, hstep⟩ := step_inv hgroup htake h
          intro name hname
          rw [← hunder name hname]
          exact stepOfEntries_inv hgroup hstep name hname
      · rintro rfl c hc
        rw [← hunder instructionsField (List.mem_singleton_self _)] at hc
        obtain ⟨children, hchildren⟩ := (group_inv htake h).2 c hc
        exact ⟨levels, children, hchildren⟩

/-- A value that is accepted as an instruction is complete. -/
theorem complete_of_content {levels : Nat} {instruction : Instruction}
    (h : instructionOfContent .json levels (objectNode entries).plain = .ok instruction) :
    ∃ kind, Complete kind (plainFields entries) := by
  cases levels with
  | zero => cases h
  | succ levels =>
    rw [plain_objectNode, instructionOfContent] at h
    cases hsplit : splitContent .json (keyed (plainFields entries)) none [] with
    | error fault =>
      rw [hsplit] at h
      cases h
    | ok found =>
      rw [hsplit] at h
      have hrest := splitContent_inv hsplit
      simp only [hrest, List.nil_append] at h
      exact complete_of_entries h

theorem splitNodes_inv {condition : Option (Option String)} {others rest : Entries}
    {found : Option String}
    (h : splitNodes .json (entries.map fun e => (textNode e.1, e.2)) condition others =
      .ok (found, rest)) :
    rest = others ++ keyed (without conditionField (plainFields entries)) := by
  induction entries generalizing condition others with
  | nil =>
    cases h
    simp [keyed, without, plainFields]
  | cons e more ih =>
    obtain ⟨key, value⟩ := e
    simp only [List.map_cons, splitNodes, textNode, Node.text, bind, Except.bind] at h
    simp only [textNode] at ih
    by_cases hkey : key = conditionField
    · subst hkey
      rw [if_pos rfl] at h
      split at h
      · cases h
      · split at h
        · cases h
        · simpa [plainFields, without] using ih h
    · rw [if_neg hkey] at h
      obtain ⟨c, hcontent, h⟩ := bind_eq_ok h
      rw [ih h, Node.plain_of_content hcontent]
      simp [plainFields, without, hkey, keyed]

/-- A node that is accepted as an instruction is complete. -/
theorem complete_of_node {instruction : Instruction}
    (h : instructionOfNode .json (objectNode entries) = .ok instruction) :
    ∃ kind, Complete kind (plainFields entries) := by
  obtain ⟨nodes, hnodes, h⟩ := bind_eq_ok h
  cases hnodes
  obtain ⟨⟨condition, others⟩, hsplit, h⟩ := bind_eq_ok h
  obtain rfl := splitNodes_inv hsplit
  exact complete_of_entries h

/-! ### Refusal -/

theorem Complete.kind_eq {kind found : Kind} {fields : List (String × Content)}
    (h : Complete found fields) (hmem : .scalar (.text kind.name) ∈ under typeField fields) :
    found = kind := by
  obtain ⟨value, hvalue, hkind⟩ := h.type
  rw [hvalue] at hmem
  obtain rfl := List.mem_singleton.1 hmem
  rw [ofContent_name] at hkind
  exact (Except.ok.inj hkind).symm

theorem type_of_describes {instruction : Instruction} {node : Node}
    (h : Describes instruction node) (hnode : node = objectNode entries) :
    under typeField entries = [textNode instruction.kind.name] := by
  cases h with
  | step htype =>
    obtain rfl := objectNode_injective hnode
    exact htype
  | group htype =>
    obtain rfl := objectNode_injective hnode
    exact htype

theorem not_complete_removed {instruction : Instruction} {name : String}
    (h : Describes instruction (objectNode entries))
    (hname : name ∈ typeField :: instruction.kind.mandatory) (kind : Kind) :
    ¬ Complete kind (plainFields (without name entries)) := by
  intro hcomplete
  have hunder : ∀ other, under other (plainFields (without name entries)) =
      (under other (without name entries)).map Node.plain := fun other => under_plainFields other _
  rcases eq_or_ne name typeField with rfl | hne
  · obtain ⟨value, hvalue, -⟩ := hcomplete.type
    rw [hunder, under_without_self] at hvalue
    cases hvalue
  · have hmandatory := (List.mem_cons.1 hname).resolve_left hne
    have htype : .scalar (.text instruction.kind.name) ∈
        under typeField (plainFields (without name entries)) := by
      rw [hunder, under_without hne.symm, type_of_describes h rfl]
      exact List.mem_singleton_self _
    obtain rfl := hcomplete.kind_eq htype
    refine hcomplete.mandatory name hmandatory ?_
    rw [hunder, under_without_self]
    rfl

theorem under_retyped (node : Node) (entries : List (String × Node)) :
    under typeField (entries.map fun e => (e.1, if e.1 = typeField then node else e.2)) =
      (under typeField entries).map fun _ => node := by
  induction entries with
  | nil => rfl
  | cons e rest ih =>
    obtain ⟨key, value⟩ := e
    rw [List.map_cons]
    by_cases hkey : key = typeField
    · subst hkey
      rw [if_pos rfl, under_cons_self, under_cons_self, List.map_cons, ih]
    · rw [under_cons_of_ne hkey, under_cons_of_ne hkey, ih]

theorem not_complete_retyped {instruction : Instruction} {name : String}
    (h : Describes instruction (objectNode entries)) (hname : name ∉ Kind.all.map Kind.name)
    (kind : Kind) : ¬ Complete kind (plainFields (entries.map fun e =>
      (e.1, if e.1 = typeField then textNode name else e.2))) := by
  intro hcomplete
  obtain ⟨value, hvalue, hkind⟩ := hcomplete.type
  rw [under_plainFields, under_retyped, type_of_describes h rfl] at hvalue
  obtain rfl := (List.cons.inj hvalue).1
  have hunknown : Kind.all.find? (·.name == name) = none := by
    refine List.find?_eq_none.2 fun kind hmem hsame => hname ?_
    exact List.mem_map.2 ⟨kind, hmem, beq_iff_eq.1 hsame⟩
  rw [textNode, Node.plain, Kind.ofContent, hunknown] at hkind
  cases hkind

/-- Where all items were read, each of them can be. -/
theorem each_of_mapM {α β : Type} {read : α → Reading β} {items : List α} {found : List β}
    (h : items.mapM read = .ok found) : ∀ item ∈ items, ∃ b, read item = .ok b := by
  induction items generalizing found with
  | nil => exact fun item hitem => (List.not_mem_nil hitem).elim
  | cons first rest ih =>
    rw [List.mapM_cons] at h
    obtain ⟨b, hfirst, h⟩ := bind_eq_ok h
    obtain ⟨others, hrest, -⟩ := bind_eq_ok h
    exact List.forall_mem_cons.2 ⟨⟨b, hfirst⟩, ih hrest⟩

theorem mem_plainItems {node : Node} {nodes : List Node} (h : node ∈ nodes) :
    node.plain ∈ Node.plainItems nodes := by
  induction nodes with
  | nil => cases h
  | cons first rest ih =>
    rw [Node.plainItems]
    rcases List.mem_cons.1 h with rfl | h
    · exact List.mem_cons_self ..
    · exact List.mem_cons_of_mem _ (ih h)

theorem childrenOfContent_inv {levels : Nat} {nodes : List Node} {children : List Instruction}
    (h : childrenOfContent .json levels (Node.list .none nodes).plain = .ok children) :
    ∀ node ∈ nodes, ∃ levels instruction,
      instructionOfContent .json levels node.plain = .ok instruction := by
  cases levels with
  | zero => cases h
  | succ levels =>
    rw [childrenOfContent] at h
    exact fun node hnode => ⟨levels, each_of_mapM h node.plain (mem_plainItems hnode)⟩

/-- An instruction with damage is never complete. The recursion follows the groups down to the
instruction that has lost something. -/
theorem incomplete_of_damaged {node : Node} : Damaged node →
    ∃ entries, node = objectNode entries ∧ ∀ kind, ¬ Complete kind (plainFields entries)
  | .removed h hname => ⟨_, rfl, not_complete_removed h hname⟩
  | .retyped h hname => ⟨_, rfl, not_complete_retyped h hname⟩
  | .inside hgroup hnodes hnode h => by
    obtain ⟨inner, rfl, hinner⟩ := incomplete_of_damaged h
    refine ⟨_, rfl, fun kind hcomplete => ?_⟩
    have htype := List.mem_map_of_mem (f := Node.plain) hgroup
    rw [← under_plainFields] at htype
    obtain rfl : kind = .group := hcomplete.kind_eq htype
    have hlist := List.mem_map_of_mem (f := Node.plain) hnodes
    rw [← under_plainFields] at hlist
    obtain ⟨levels, children, hchildren⟩ := hcomplete.children rfl _ hlist
    obtain ⟨levels, instruction, hread⟩ := childrenOfContent_inv hchildren _ hnode
    obtain ⟨kind, hkind⟩ := complete_of_content hread
    exact hinner kind hkind

/-- A reader that succeeds could read the instructions. -/
theorem readEntries_inv {d after : ConfigDraft}
    (h : readEntries .json (entries.map fun e => (textNode e.1, e.2)) d = .ok after) :
    ∀ node ∈ under instructionsField entries, ∃ instructions,
      instructionsOfNode .json node = .ok instructions := by
  induction entries generalizing d with
  | nil => exact fun node hnode => (List.not_mem_nil hnode).elim
  | cons e rest ih =>
    obtain ⟨key, value⟩ := e
    simp only [List.map_cons, readEntries, textNode, Node.text, bind, Except.bind] at h
    simp only [textNode] at ih
    split at h
    · split at h
      · cases h
      · split at h
        · cases h
        · rw [under_cons_of_ne (by decide)]
          exact ih h
    · split at h
      · cases h
      · split at h
        · cases h
        · rw [under_cons_of_ne (by decide)]
          exact ih h
    · split at h
      · cases h
      · split at h
        · cases h
        · next script hscript =>
          rw [instructionsField, under_cons_self]
          exact List.forall_mem_cons.2 ⟨⟨script, hscript⟩, ih h⟩
    · next hother =>
      split at h
      · rw [under_cons_of_ne (show key ≠ instructionsField from hother)]
        exact ih h
      · cases h

/-- A configuration with a damaged instruction is refused. -/
theorem ofNode_damaged (h : HasDamage entries) :
    ∃ fault, Config.ofNode .json (objectNode entries) = .error fault := by
  obtain ⟨nodes, hnodes, node, hnode, hdamaged⟩ := h
  obtain ⟨inner, rfl, hinner⟩ := incomplete_of_damaged hdamaged
  have hofNode : Config.ofNode .json (objectNode entries) =
      (readEntries .json (entries.map fun e => (textNode e.1, e.2)) {}).map
        ConfigDraft.finish := rfl
  cases hread : readEntries .json (entries.map fun e => (textNode e.1, e.2)) {} with
  | error fault =>
    rw [hofNode, hread]
    exact ⟨fault, rfl⟩
  | ok after =>
    obtain ⟨instructions, hinstructions⟩ := readEntries_inv hread _ hnodes
    have hmap : nodes.mapM (instructionOfNode .json) = .ok instructions := hinstructions
    obtain ⟨instruction, hinstruction⟩ := each_of_mapM hmap _ hnode
    obtain ⟨kind, hkind⟩ := complete_of_node hinstruction
    exact absurd hkind (hinner kind)

/-! ### Documents -/

/-- A document that describes a configuration is read as it, however it is written, if its
instructions hold values that can be read and stay below the limit of nesting. A document with a
damaged instruction is refused, also in a file. -/
theorem json_configuration :
    (∀ (config : Config) (entries : List (String × Node)) (text : String),
      DescribesConfig config entries → BelowLimit entries → Legible entries →
        WrittenDocument (objectNode entries) text → Config.ofText .json text = .ok config) ∧
    ∀ (entries : List (String × Node)) (text : String), HasDamage entries →
      WrittenDocument (objectNode entries) text →
        ∃ fault, Config.ofText .json text = .error fault ∧
          ∀ (fs : FileSystem) (path : Path), fs.readText path = .ok text →
            Config.ofFile fs path .json = .error (.config (.invalid .json fault)) := by
  refine ⟨fun config entries text h hlimit hlegible hwritten => ?_,
    fun entries text h hwritten => ?_⟩
  · have hsound : (objectNode entries).isSound = true := by
      obtain ⟨_, _, _, -, hroot, -, -⟩ := hwritten
      exact Json.isSound_written hroot
    rw [Config.ofText, Json.parse_written hwritten, Config.ofDocument,
      ofNode_describes h hlimit hlegible hsound]
    rfl
  · obtain ⟨fault, hfault⟩ := ofNode_damaged h
    have htext : Config.ofText .json text = .error fault := by
      rw [Config.ofText, Json.parse_written hwritten, Config.ofDocument, hfault]
      rfl
    refine ⟨fault, htext, fun fs path hread => ?_⟩
    rw [Config.ofFile, hread]
    simp only [htext]

/-! ### A document with an entry that is not known -/

/-- An entry with a message, a type and a number under a name that it does not know. -/
def sampleFields (type : String) (digits : List Char) : List (String × Node) :=
  [("message", textNode "x"), (typeField, textNode type), ("extra", (Json.number digits).1)]

/-- A configuration with this one entry. -/
def sampleEntries (type : String) (digits : List Char) : List (String × Node) :=
  [(instructionsField, .list .none [objectNode (sampleFields type digits)])]

/-- What the sample describes. -/
def sampleConfig : Config := { instructions := [.step none (.inform "x")] }

/-- How the sample is written. -/
def sampleText (type : String) (digits : List Char) : String :=
  String.ofList ("\x7b\"instructions\":[\x7b\"message\":\"x\",\"type\":\"".toList ++
    (type.toList ++ ("\",\"extra\":".toList ++ (digits ++ ['\x7d', ']', '\x7d']))))

theorem describes_fields (digits : List Char) :
    Describes (.step none (.inform "x")) (objectNode (sampleFields "inform" digits)) :=
  .step rfl .absent
    (fun field hfield => by
      obtain rfl := List.mem_singleton.1 hfield
      rfl)
    fun field hfield => by cases hfield

theorem describes_sample (digits : List Char) :
    DescribesConfig sampleConfig (sampleEntries "inform" digits) where
  name := .absent
  description := .absent
  instructions := .inr ⟨_, rfl, .cons (describes_fields digits) .nil⟩

theorem written_sample {type : String} {digits : List Char}
    (htype : Json.WrittenString (textNode type) type.toList) (hdigits : Json.IsNumber digits) :
    WrittenDocument (objectNode (sampleEntries type digits)) (sampleText type digits) := by
  have hnone : Json.IsBlank [] := fun c hc => by cases hc
  have hmembers := Json.WrittenMembers.more hnone (Json.written_itself "message" (by decide)) hnone
    hnone (.string (Json.written_itself "x" (by decide))) hnone
    (.more hnone (Json.written_itself "type" (by decide)) hnone hnone (.string htype) hnone
      (.last hnone (Json.written_itself "extra" (by decide)) hnone hnone (.number hdigits) hnone))
  have hroot := Json.Written.map
    (.last hnone (Json.written_itself "instructions" (by decide)) hnone hnone
      (.list (.last hnone (.map hmembers) hnone)) hnone)
  have hopening :
      "\x7b\"instructions\":[\x7b\"message\":\"x\",\"type\":\"".toList =
        '\x7b' :: '"' :: ("instructions".toList ++ '"' :: ':' :: '[' :: '\x7b' :: '"' ::
          ("message".toList ++ '"' :: ':' :: '"' :: ("x".toList ++ '"' :: ',' :: '"' ::
          ("type".toList ++ ['"', ':', '"'])))) := by
    decide +kernel
  have hextra : "\",\"extra\":".toList = '"' :: ',' :: '"' :: ("extra".toList ++ ['"', ':']) := by
    decide +kernel
  refine ⟨[], _, [], hnone, hroot, hnone, ?_⟩
  refine String.toList_ofList.trans ?_
  rw [hopening, hextra]
  simp only [List.append_assoc, List.cons_append, List.nil_append, List.append_nil]

/-- The one instruction of the sample. -/
theorem nodes_of_sample {type : String} {digits : List Char} {nodes : List Node}
    (h : .list .none nodes ∈ under instructionsField (sampleEntries type digits)) :
    nodes = [objectNode (sampleFields type digits)] :=
  (Node.list.inj (List.mem_singleton.1 h)).2

theorem below_limit_of_sample {type : String} {digits : List Char}
    (h : (Json.number digits).1.nesting = 0) : BelowLimit (sampleEntries type digits) := by
  intro nodes hnodes node hnode
  rw [nodes_of_sample hnodes] at hnode
  obtain rfl := List.mem_singleton.1 hnode
  simp [sampleFields, objectNode, textNode, Node.nesting, Node.pairsNesting, h, Format.depthLimit]

theorem json_configuration_of_sample :
    Config.ofText .json (sampleText "inform" ['1']) = .ok sampleConfig ∧
    ∃ fault, Config.ofText .json (sampleText "shout" ['1']) = .error fault := by
  have hone : Json.IsWhole ['1'] := ⟨⟨by decide, List.all_eq_true.1 rfl⟩, by decide⟩
  have hnumber : Json.IsNumber ['1'] := .mk (.inl rfl) hone (.inl rfl) (.inl rfl)
  obtain ⟨hread, hrefuse⟩ := json_configuration
  constructor
  · refine hread sampleConfig (sampleEntries "inform" ['1']) _ (describes_sample _)
      (below_limit_of_sample rfl) ?_ (written_sample (Json.written_itself _ (by decide)) hnumber)
    intro nodes hnodes node hnode
    rw [nodes_of_sample hnodes] at hnode
    obtain rfl := List.mem_singleton.1 hnode
    rfl
  · have hdamaged : Damaged (objectNode (sampleFields "shout" ['1'])) :=
      .retyped (describes_fields ['1']) (by decide)
    obtain ⟨fault, hfault, -⟩ := hrefuse (sampleEntries "shout" ['1']) _
      ⟨_, List.mem_singleton.2 rfl, _, List.mem_singleton.2 rfl, hdamaged⟩
      (written_sample (Json.written_itself _ (by decide)) hnumber)
    exact ⟨fault, hfault⟩

/-- A number that is too large to be read is refused, also where nobody asks for it. -/
theorem unreadable_extra_refused :
    DescribesConfig sampleConfig (sampleEntries "inform" ['1', 'e', '9', '9', '9']) ∧
    BelowLimit (sampleEntries "inform" ['1', 'e', '9', '9', '9']) ∧
    WrittenDocument (objectNode (sampleEntries "inform" ['1', 'e', '9', '9', '9']))
      (sampleText "inform" ['1', 'e', '9', '9', '9']) ∧
    Config.ofText .json (sampleText "inform" ['1', 'e', '9', '9', '9']) = .error .malformed := by
  have hone : Json.IsWhole ['1'] := ⟨⟨by decide, List.all_eq_true.1 rfl⟩, by decide⟩
  have hpower : Json.IsExponent ['e', '9', '9', '9'] :=
    .inr ⟨'e', [], ['9', '9', '9'], .inl rfl, .inl rfl, ⟨by decide, List.all_eq_true.1 rfl⟩, rfl⟩
  have hnumber : Json.IsNumber ['1', 'e', '9', '9', '9'] := .mk (.inl rfl) hone (.inl rfl) hpower
  have hunreadable : (Json.number ['1', 'e', '9', '9', '9']).1 = .unreadable := rfl
  have hwritten := written_sample (Json.written_itself "inform" (by decide)) hnumber
  refine ⟨describes_sample _, below_limit_of_sample (by rw [hunreadable]; rfl), hwritten, ?_⟩
  rw [Config.ofText, Json.parse_written hwritten]
  rfl

end Scaffold
