import Scaffold.Proofs.Script.Places

/-! # Configurations with a gap

  The instructions are one field of a configuration. Whether a reader gets
  through the other fields does not depend on them, as long as they can be read.

  - `ConfigGap`: a configuration without its list of instructions.
  - `readEntries_step`: what an entry of a configuration can be.
  - `ofNode_fill`: the list decides the instructions and nothing else.
-/

namespace Scaffold

variable {format : Format}

/-! ### Configurations with a gap -/

/-- A configuration without the value of its list of instructions. -/
inductive ConfigGap where
  /-- A map, with what stands before and after the list. -/
  | fields (tag : Tag) (before : List (Node × Node)) (key : Node) (after : List (Node × Node))
  /-- A list of the fields in their order. -/
  | positions (tag : Tag) (name description : Node)

/-- The configuration with the list. -/
def ConfigGap.fill (gap : ConfigGap) (list : Node) : Node :=
  match gap with
  | .fields tag before key after => .map tag (before ++ (key, list) :: after)
  | .positions tag name description => .list tag [name, description, list]

/-- The gap is at the name of the instructions. -/
def ConfigGap.IsNamed : ConfigGap → Prop
  | .fields _ _ key _ => key.writing? = some instructionsField
  | .positions .. => True

theorem readEntries_instructions {key value : Node} {d : ConfigDraft} {script : List Instruction}
    (hkey : key.writing? = some instructionsField) (hd : d.instructions = none)
    (hvalue : instructionsOfNode format value = .ok script) (rest : List (Node × Node)) :
    readEntries format ((key, value) :: rest) d =
      readEntries format rest { d with instructions := some script } := by
  simp [readEntries, Node.text_eq_ok.2 hkey, instructionsField, hd, hvalue, bind, Except.bind]

/-- A reader refuses an entry, takes it for the instructions, or leaves those as they are. What
comes behind does not matter for that. -/
theorem readEntries_step (format : Format) (key value : Node) (d : ConfigDraft) :
    (∀ rest result, readEntries format ((key, value) :: rest) d ≠ .ok result) ∨
    (key.writing? = some instructionsField ∧ d.instructions = none ∧
      ∃ script, instructionsOfNode format value = .ok script) ∨
    (key.writing? ≠ some instructionsField ∧ ∃ name description, ∀ rest found,
      readEntries format ((key, value) :: rest) { d with instructions := found } =
        readEntries format rest ⟨name, description, found⟩) := by
  cases hwriting : key.writing? with
  | none =>
    left
    intro rest result h
    rw [readEntries] at h
    obtain ⟨name, hname, -⟩ := bind_eq_ok h
    rw [Node.text_eq_ok, hwriting] at hname
    cases hname
  | some name =>
    have htext : key.text format "field identifier" = .ok name := Node.text_eq_ok.2 hwriting
    simp only [readEntries, htext, bind, Except.bind]
    split
    · by_cases hd : d.name.isSome
      · exact .inl fun rest result => by simp [hd]
      · cases value.optionalText format with
        | error fault => exact .inl fun rest result => by simp [hd]
        | ok found =>
          refine .inr (.inr ⟨by decide, some found, d.description, ?_⟩)
          intro rest other
          simp [hd]
    · by_cases hd : d.description.isSome
      · exact .inl fun rest result => by simp [hd]
      · cases value.optionalText format with
        | error fault => exact .inl fun rest result => by simp [hd]
        | ok found =>
          refine .inr (.inr ⟨by decide, d.name, some found, ?_⟩)
          intro rest other
          simp [hd]
    · cases d.instructions with
      | some _ => exact .inl fun rest result => by simp
      | none =>
        cases instructionsOfNode format value with
        | error fault => exact .inl fun rest result => by simp
        | ok script => exact .inr (.inl ⟨rfl, rfl, script, rfl⟩)
    · next hscript =>
      by_cases hsound : value.isSound = true
      · have hname : some name ≠ some instructionsField :=
          fun h => hscript (Option.some.inj h)
        refine .inr (.inr ⟨hname, d.name, d.description, ?_⟩)
        intro rest found
        simp [hsound]
      · exact .inl fun rest result => by simp [hsound]

/-- Instructions that were read stay, whatever they are and whatever stands behind them. -/
theorem readEntries_kept {after : List (Node × Node)} {d result : ConfigDraft}
    {script : List Instruction} (hd : d.instructions = some script)
    (h : readEntries format after d = .ok result) :
    result.instructions = some script ∧ ∀ other, readEntries format after
      { d with instructions := other } = .ok { result with instructions := other } := by
  induction after generalizing d with
  | nil =>
    cases h
    exact ⟨hd, fun other => rfl⟩
  | cons e rest ih =>
    obtain ⟨key, value⟩ := e
    rcases readEntries_step format key value d with hrefused | ⟨-, hnone, -⟩ |
      ⟨-, name, description, hstep⟩
    · exact absurd h (hrefused rest result)
    · rw [hd] at hnone
      cases hnone
    · have hrest : readEntries format rest ⟨name, description, d.instructions⟩ = .ok result :=
        (hstep rest d.instructions).symm.trans h
      have hnext : (⟨name, description, d.instructions⟩ : ConfigDraft).instructions =
          some script := hd
      obtain ⟨hkept, hother⟩ := ih hnext hrest
      exact ⟨hkept, fun other => (hstep rest other).trans (hother other)⟩

theorem readEntries_fill {before after : List (Node × Node)} {key list : Node}
    {d result : ConfigDraft} (hkey : key.writing? = some instructionsField)
    (h : readEntries format (before ++ (key, list) :: after) d = .ok result) :
    ∃ script, instructionsOfNode format list = .ok script ∧ result.instructions = some script ∧
      ∀ other found, instructionsOfNode format other = .ok found →
        readEntries format (before ++ (key, other) :: after) d =
          .ok { result with instructions := some found } := by
  induction before generalizing d with
  | nil =>
    rw [List.nil_append] at h
    rcases readEntries_step format key list d with hrefused | ⟨-, hnone, script, hscript⟩ |
      ⟨hother, -⟩
    · exact absurd h (hrefused after result)
    · -- What follows has been read behind one script, so it can be read behind the other.
      rw [readEntries_instructions hkey hnone hscript] at h
      obtain ⟨hkept, hafter⟩ := readEntries_kept rfl h
      refine ⟨script, hscript, hkept, ?_⟩
      intro other found hfound
      rw [List.nil_append, readEntries_instructions hkey hnone hfound]
      exact hafter (some found)
    · exact absurd hkey hother
  | cons e before ih =>
    obtain ⟨other, value⟩ := e
    simp only [List.cons_append] at h ⊢
    rcases readEntries_step format other value d with hrefused | ⟨hother, hnone, script, hscript⟩ |
      ⟨-, name, description, hstep⟩
    · exact absurd h (hrefused _ result)
    · simp only [readEntries_instructions hother hnone hscript] at h ⊢
      exact ih h
    · have hsame : ∀ rest, readEntries format ((other, value) :: rest) d =
          readEntries format rest ⟨name, description, d.instructions⟩ :=
        fun rest => hstep rest d.instructions
      simp only [hsame] at h ⊢
      exact ih h

/-- The list that fills a gap decides the instructions and nothing else. -/
theorem ofNode_fill {gap : ConfigGap} {list : Node} {config : Config} (hgap : gap.IsNamed)
    (h : Config.ofNode format (gap.fill list) = .ok config) :
    ∃ script, instructionsOfNode format list = .ok script ∧ config.instructions = script ∧
      ∀ other found, instructionsOfNode format other = .ok found →
        Config.ofNode format (gap.fill other) = .ok { config with instructions := found } := by
  cases gap with
  | fields tag before key after =>
    have hread : ∀ list, Config.ofNode format (.map tag (before ++ (key, list) :: after)) =
        readEntries format (before ++ (key, list) :: after) {} >>= fun d => .ok d.finish := by
      cases format <;> exact fun list => rfl
    simp only [ConfigGap.fill, hread] at h ⊢
    obtain ⟨d, hd, hconfig⟩ := bind_eq_ok h
    obtain rfl := Except.ok.inj hconfig
    obtain ⟨script, hscript, hkept, hother⟩ := readEntries_fill hgap hd
    refine ⟨script, hscript, by simp [ConfigDraft.finish, hkept], ?_⟩
    intro other found hfound
    rw [hother other found hfound]
    rfl
  | positions tag name description =>
    cases format with
    | yaml =>
      -- A list of the fields is no configuration here.
      obtain ⟨pairs, hpairs, -⟩ := bind_eq_ok h
      cases hpairs
    | json =>
      obtain ⟨d, hd, hconfig⟩ := bind_eq_ok h
      obtain ⟨first, hfirst, hd⟩ := bind_eq_ok hd
      obtain ⟨second, hsecond, hd⟩ := bind_eq_ok hd
      obtain ⟨script, hscript, hd⟩ := bind_eq_ok hd
      cases hd
      cases hconfig
      refine ⟨script, hscript, rfl, ?_⟩
      intro other found hfound
      simp only [ConfigGap.fill, Config.ofNode, readPositions, hfirst, hsecond, hfound]
      rfl

end Scaffold
