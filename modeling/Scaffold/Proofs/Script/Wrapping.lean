import Scaffold.Proofs.Json.Nodes
import Scaffold.Proofs.Script.Gaps
import Scaffold.Script.Load

/-! # Instructions put into groups

  A text with an instruction and a text with the group of this instruction mean
  the same, if the readers of the two places agree on the instruction. In JSON
  they always do. In YAML they do not if a condition is the plain word true: it
  is a condition in the outermost list, and refused in a group.

  - `Document.ofText`, `readsAlike_of_json`: the documents of texts.
  - `grouping_keeps_instruction`: texts that differ by a group.
-/

namespace Scaffold

variable {format : Format}

/-! ### Groups in configurations -/

theorem instructionsOfNode_singleton_iff {node : Node} {tag : Tag} {script : List Instruction} :
    instructionsOfNode format (.list tag [node]) = .ok script ↔
      ∃ instruction, instructionOfNode format node = .ok instruction ∧ script = [instruction] := by
  have hread : instructionsOfNode format (.list tag [node]) =
      [node].mapM (instructionOfNode format) := rfl
  rw [hread, List.mapM_cons, List.mapM_nil]
  cases instructionOfNode format node with
  | error fault => simp [bind, Except.bind]
  | ok instruction => simp [bind, Except.bind, pure, Except.pure, eq_comm]

section

variable {gap : ConfigGap} {node group : Node} {tag mark : Tag} {config : Config}

/-- Where an instruction is read, so is its group. -/
theorem ofNode_grouped (hgap : gap.IsNamed) (hgroup : GroupOf format node group)
    (halike : ReadsAlike format node) (hdepth : node.nesting + 4 ≤ format.depthLimit)
    (h : Config.ofNode format (gap.fill (.list tag [node])) = .ok config) :
    ∃ instruction, config.instructions = [instruction] ∧
      Config.ofNode format (gap.fill (.list mark [group])) =
        .ok { config with instructions := [.group none [instruction]] } := by
  obtain ⟨script, hscript, rfl, hfill⟩ := ofNode_fill hgap h
  obtain ⟨instruction, hinstruction, hsingle⟩ := instructionsOfNode_singleton_iff.1 hscript
  have hread : instructionOfNode format group = .ok (.group none [instruction]) :=
    (instructionOfNode_grouped_iff hgroup halike hdepth).2 ⟨instruction, hinstruction, rfl⟩
  exact ⟨instruction, hsingle,
    hfill _ _ (instructionsOfNode_singleton_iff.2 ⟨_, hread, rfl⟩)⟩

/-- Where a group is read, so is its only instruction. -/
theorem ofNode_alone (hgap : gap.IsNamed) (hgroup : GroupOf format node group)
    (halike : ReadsAlike format node) (hdepth : node.nesting + 4 ≤ format.depthLimit)
    (h : Config.ofNode format (gap.fill (.list mark [group])) = .ok config) :
    ∃ config, Config.ofNode format (gap.fill (.list tag [node])) = .ok config := by
  obtain ⟨script, hscript, -, hfill⟩ := ofNode_fill hgap h
  obtain ⟨instruction, hinstruction, -⟩ := instructionsOfNode_singleton_iff.1 hscript
  obtain ⟨child, hchild, -⟩ :=
    (instructionOfNode_grouped_iff hgroup halike hdepth).1 hinstruction
  exact ⟨_, hfill _ _ (instructionsOfNode_singleton_iff.2 ⟨child, hchild, rfl⟩)⟩

/-- Where a group is read, a condition of its only instruction has a text or null as its value. -/
theorem condition_of_grouped {pairs : List (Node × Node)} {e : Node × Node}
    (hgap : gap.IsNamed) (hgroup : GroupOf format (.map tag pairs) group)
    (h : Config.ofNode format (gap.fill (.list mark [group])) = .ok config) (he : e ∈ pairs)
    (hkey : e.1.content format 0 = .ok (.scalar (.text conditionField))) :
    ∃ found, e.2.content format 0 = .ok (optionContent found) := by
  obtain ⟨script, hscript, -, -⟩ := ofNode_fill hgap h
  obtain ⟨instruction, hinstruction, -⟩ := instructionsOfNode_singleton_iff.1 hscript
  obtain ⟨levels, hlevels⟩ : ∃ levels, 3 * format.depthLimit = levels + 3 := by
    cases format <;> exact ⟨_, rfl⟩
  -- The instruction has been read as a value, and with it the condition.
  obtain ⟨c, hc, child, hchild, -⟩ := (instructionOfNode_group_iff hgroup hlevels).1 hinstruction
  obtain ⟨entries, rfl⟩ := map_of_instructionOfContent hchild
  obtain ⟨_, _, hmap, hentries⟩ := Node.map_of_content hc
  cases hmap
  obtain ⟨condition, others, hsplit, -⟩ := instructionOfContent_map_iff.1 hchild
  obtain ⟨found, hfound⟩ :=
    condition_of_splitContent hentries hsplit e he (Node.scalar_at_depth hkey _)
  exact ⟨found, optionContent_at_depth hfound 0⟩

end

/-! ### Texts -/

/-- The document of a text. -/
def Document.ofText : Format → String → Document
  | .json, s => Json.parse s
  | .yaml, s => Yaml.parse s

theorem ofText_eq {s : String} {root : Node} (h : Document.ofText format s = ⟨root, true⟩) :
    Config.ofText format s = Config.ofNode format root := by
  have hdocument : Config.ofText format s =
      Config.ofDocument format (Document.ofText format s) := by
    cases format <;> rfl
  rw [hdocument, h, Config.ofDocument]
  cases Config.ofNode format root <;> rfl

theorem genuine_of_isPure {e : Node × Node} (hkey : e.1.isString = true)
    (hvalue : e.2.isPure = true) : Genuine .json e := by
  obtain ⟨key, value⟩ := e
  constructor
  case name =>
    intro s hs
    cases key with
    | scalar value => cases value <;> cases hs; rfl
    | written => cases hkey
    | _ => cases hs
  case number =>
    intro i hi
    rcases Node.scalar_of_content hi with rfl | ⟨_, _, _, rfl, -⟩
    · cases hkey
    · cases hkey
  case condition =>
    intro _ found hfound
    cases value with
    | scalar scalar => cases scalar <;> cases hfound <;> rfl
    | written => cases hvalue
    | _ => cases hfound

theorem readsAlike_of_isPure {node : Node} (h : node.isPure = true) : ReadsAlike .json node := by
  constructor
  case unmarked =>
    intro pairs hnode
    subst hnode
    cases h
  case genuine =>
    intro tag pairs hnode e he
    subst hnode
    rw [Node.isPure, Bool.and_eq_true] at h
    obtain ⟨hkey, hvalue⟩ := Node.allPairsPure_iff.1 h.2 e he
    exact genuine_of_isPure hkey hvalue

theorem isPure_of_fill {gap : ConfigGap} {node : Node} {tag : Tag}
    (h : (gap.fill (.list tag [node])).isPure = true) : node.isPure = true := by
  have hlist : (Node.list tag [node]).isPure = true → node.isPure = true := by
    simp [Node.isPure, Node.allPure]
  cases gap with
  | fields outer before key after =>
    rw [ConfigGap.fill, Node.isPure, Bool.and_eq_true, Node.allPairsPure_iff] at h
    exact hlist (h.2 (key, _) (by simp)).2
  | positions outer name description =>
    simp only [ConfigGap.fill, Node.isPure, Node.allPure, Bool.and_eq_true] at h
    exact h.2.2.2.1.2.1

/-- In JSON every instruction reads alike. -/
theorem readsAlike_of_json {gap : ConfigGap} {node : Node} {tag : Tag} {s : String}
    {complete : Bool} (h : Json.parse s = ⟨gap.fill (.list tag [node]), complete⟩) :
    ReadsAlike .json node := by
  have hpure := Json.isPure_parse s
  rw [h] at hpure
  exact readsAlike_of_isPure (isPure_of_fill hpure)

/-- An instruction means the same in the outermost list and in a group, unless it has a mark of its
own, or a key or a condition that only looks like a text. As a condition in a group, what only
looks like a text is refused. -/
theorem grouping_keeps_instruction {gap : ConfigGap} {node group : Node} {tag mark : Tag}
    {alone grouped : String} (hgap : gap.IsNamed) (hgroup : GroupOf format node group)
    (hdepth : node.nesting + 4 ≤ format.depthLimit)
    (halone : Document.ofText format alone = ⟨gap.fill (.list tag [node]), true⟩)
    (hgrouped : Document.ofText format grouped = ⟨gap.fill (.list mark [group]), true⟩) :
    ((format = .yaml → ReadsAlike .yaml node) →
      ((∃ config, Config.ofText format alone = .ok config) ↔
        ∃ config, Config.ofText format grouped = .ok config) ∧
      ∀ first second, Config.ofText format alone = .ok first →
        Config.ofText format grouped = .ok second →
          ∃ instruction, first.instructions = [instruction] ∧
            second = { first with instructions := [.group none [instruction]] }) ∧
    ∀ inner pairs, node = .map inner pairs → ∀ e ∈ pairs,
      e.1.content format 0 = .ok (.scalar (.text conditionField)) →
      (∀ found, e.2.content format 0 ≠ .ok (optionContent found)) →
        ∀ config, Config.ofText format grouped ≠ .ok config := by
  rw [ofText_eq halone, ofText_eq hgrouped]
  constructor
  · intro hyaml
    have halike : ReadsAlike format node := by
      cases format with
      | json => exact readsAlike_of_json halone
      | yaml => exact hyaml rfl
    refine ⟨⟨?_, ?_⟩, ?_⟩
    · rintro ⟨config, hconfig⟩
      obtain ⟨instruction, -, hread⟩ := ofNode_grouped hgap hgroup halike hdepth hconfig
      exact ⟨_, hread⟩
    · rintro ⟨config, hconfig⟩
      exact ofNode_alone hgap hgroup halike hdepth hconfig
    · intro first second hfirst hsecond
      obtain ⟨instruction, hsingle, hread⟩ := ofNode_grouped hgap hgroup halike hdepth hfirst
      exact ⟨instruction, hsingle, Except.ok.inj (hsecond.symm.trans hread)⟩
  · rintro inner pairs rfl e he hkey hvalue config hconfig
    obtain ⟨found, hfound⟩ := condition_of_grouped hgap hgroup hconfig he hkey
    exact hvalue found hfound

/-! ### A condition with and without quotes -/

/-- A scalar of a text without quotes. -/
def plainNode (s : String) : Node := .written .none true s

/-- The word of the condition, with quotes unless it is plain. -/
def trueNode (plain : Bool) : Node := Yaml.scalarNode "" plain "true"

/-- An instruction with the condition. -/
def conditionalNode (plain : Bool) : Node :=
  .map .none [(plainNode "type", plainNode "process_templates"),
    (plainNode "condition", trueNode plain)]

/-- The group of this instruction. -/
def conditionalGroup (plain : Bool) : Node :=
  .map .none [(plainNode "type", plainNode "group"),
    (plainNode "instructions", .list .none [conditionalNode plain])]

/-- A configuration that has a script and nothing else. -/
def scriptGap : ConfigGap := .fields .none [] (plainNode "instructions") []

/-- How the word is written. -/
def trueWord : Bool → String
  | true => "true"
  | false => "\"true\""

/-- The text with the instruction in the outermost list. -/
def conditionalText (plain : Bool) : String :=
  "instructions:\n- type: process_templates\n  condition: " ++ trueWord plain ++ "\n"

/-- The text with the instruction in a group. -/
def conditionalGroupText (plain : Bool) : String :=
  "instructions:\n- type: group\n  instructions:\n  - type: process_templates\n" ++
    "    condition: " ++ trueWord plain ++ "\n"

theorem parse_conditionalText (plain : Bool) : Document.ofText .yaml (conditionalText plain) =
    ⟨scriptGap.fill (.list .none [conditionalNode plain]), true⟩ := by
  have htokens : Yaml.tokens (Yaml.withoutMarks (conditionalText plain)) =
      ([.blockMapStart, .key, .scalar true "instructions", .value, .blockEntry, .blockMapStart,
        .key, .scalar true "type", .value, .scalar true "process_templates",
        .key, .scalar true "condition", .value, .scalar plain "true", .blockEnd, .blockEnd,
        .streamEnd], true) := by
    cases plain <;> decide +kernel
  rw [Document.ofText, Yaml.parse, htokens]
  cases plain <;> rfl

theorem parse_conditionalGroupText (plain : Bool) :
    Document.ofText .yaml (conditionalGroupText plain) =
      ⟨scriptGap.fill (.list .none [conditionalGroup plain]), true⟩ := by
  have htokens : Yaml.tokens (Yaml.withoutMarks (conditionalGroupText plain)) =
      ([.blockMapStart, .key, .scalar true "instructions", .value, .blockEntry, .blockMapStart,
        .key, .scalar true "type", .value, .scalar true "group", .key, .scalar true "instructions",
        .value, .blockEntry, .blockMapStart,
        .key, .scalar true "type", .value, .scalar true "process_templates",
        .key, .scalar true "condition", .value, .scalar plain "true", .blockEnd, .blockEnd,
        .blockEnd, .streamEnd], true) := by
    cases plain <;> decide +kernel
  rw [Document.ofText, Yaml.parse, htokens]
  cases plain <;> rfl

theorem groupOf_conditional (plain : Bool) :
    GroupOf .yaml (conditionalNode plain) (conditionalGroup plain) :=
  .mk rfl rfl rfl (by decide) (.inl rfl)

theorem readsAlike_quoted : ReadsAlike .yaml (conditionalNode false) where
  unmarked pairs h := by cases h
  genuine tag pairs h e he := by
    cases h
    have htype : Genuine .yaml (plainNode "type", plainNode "process_templates") :=
      ⟨fun s hs => by cases hs; rfl, fun i => nofun, nofun⟩
    have hcondition : Genuine .yaml (plainNode "condition", trueNode false) :=
      ⟨fun s hs => by cases hs; rfl, fun i => nofun, fun _ found hfound => by cases hfound; rfl⟩
    rcases List.mem_cons.1 he with rfl | he
    · exact htype
    · exact List.mem_singleton.1 he ▸ hcondition

/-- With quotes the group is as good as the instruction alone, and without them it is refused. -/
theorem grouping_keeps_quoted_condition :
    Config.ofText .yaml (conditionalText false) =
      .ok { instructions := [.step (some "true") .process] } ∧
    (∃ config, Config.ofText .yaml (conditionalGroupText false) = .ok config) ∧
    ∀ config, Config.ofText .yaml (conditionalGroupText true) ≠ .ok config := by
  have hgap : scriptGap.IsNamed := rfl
  have hdepth : ∀ plain, (conditionalNode plain).nesting + 4 ≤ Format.yaml.depthLimit := by
    decide
  have hquoted := grouping_keeps_instruction hgap (groupOf_conditional false) (hdepth false)
    (parse_conditionalText false) (parse_conditionalGroupText false)
  have hplain := grouping_keeps_instruction hgap (groupOf_conditional true) (hdepth true)
    (parse_conditionalText true) (parse_conditionalGroupText true)
  have hread : Config.ofText .yaml (conditionalText false) =
      .ok { instructions := [.step (some "true") .process] } := by
    rw [ofText_eq (parse_conditionalText false)]
    rfl
  refine ⟨hread, (hquoted.1 fun _ => readsAlike_quoted).1.1 ⟨_, hread⟩, ?_⟩
  refine hplain.2 _ _ rfl (plainNode "condition", trueNode true) (by simp) rfl ?_
  rintro (_ | s) <;> exact nofun

/-- In the outermost list the plain word is a condition, in a group it is refused. -/
theorem plain_condition_refused_in_group :
    Config.ofText .yaml (conditionalText true) =
      .ok { instructions := [.step (some "true") .process] } ∧
    Config.ofText .yaml (conditionalGroupText true) =
      .error (.invalidType ("boolean " ++ backquoted "true") "a string") := by
  rw [ofText_eq (parse_conditionalText true), ofText_eq (parse_conditionalGroupText true)]
  exact ⟨rfl, rfl⟩

end Scaffold
