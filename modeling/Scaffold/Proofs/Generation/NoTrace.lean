import Scaffold.Proofs.Generation.Phases

/-! # A failed generation leaves no trace

  A generation that fails before it publishes leaves the file system as it was,
  and one that succeeds has written the returned files and no others.

  - `generate_leaves_no_trace`: both halves.
-/

namespace Scaffold

open FileSystem (Confined Extends)

/-- A generation that fails before it publishes leaves all files as they were, and one that succeeds
has changed files below the output only, all of them among the returned ones. The staging tree is
gone in any case. -/
theorem generate_leaves_no_trace (o : Order) (fs : FileSystem) (hfs : fs.WellFormed)
    (hfree : fs.isPresent o.stage = false)
    (hsteps : ∀ step q, o.Reaches fs step q → step.StaysBelow q.env) :
    (generate o fs).fs.isPresent o.stage = false ∧
    (∀ e, (generate o fs).result = .error e → (∀ path fault, e ≠ .copy path fault) →
      (generate o fs).fs = fs) ∧
    (∀ written, (generate o fs).result = .ok written → ∀ l,
      (generate o fs).fs.contentAt l = fs.contentAt l ∨
        (fs.reading o.output <+: l ∧ ∃ path ∈ written, fs.reading path = l)) := by
  rcases generate_cases hfs hfree hsteps with
    ⟨e, he, hend⟩ | ⟨staged, -, h, houtput, hresult, hend⟩
  · rw [hend]
    refine ⟨hfree, fun _ _ _ => rfl, fun written hwritten => ?_⟩
    rw [he] at hwritten
    cases hwritten
  · rw [Staging.publish_of_located o.output (h.reading o.stage ▸ h.locate_stage)] at hresult hend
    have hnames := Staging.isName_of_publishedFiles o.stage h.wellFormed
    have hpublished :=
      Staging.publishEach_extends o.stage o.output (Staging.publishedFiles staged o.stage) staged
    rw [hend]
    refine ⟨isPresent_discard h hpublished, fun e he hcopy => ?_, fun written hwritten l => ?_⟩
    · obtain ⟨path, fault, rfl⟩ :=
        Staging.publishEach_eq_error (Prod.ext (hresult.symm.trans he) rfl)
      exact absurd rfl (hcopy path fault)
    · have hall := Staging.publishEach_eq_ok (Prod.ext (hresult.symm.trans hwritten) rfl)
      -- A location is the target of a published file, or nothing has changed there.
      by_cases hl : ∃ v ∈ Staging.publishedFiles staged o.stage,
          staged.reading (o.output.join v.name) = l
      · obtain ⟨v, hv, rfl⟩ := hl
        refine .inr ⟨?_, o.output.join v.name, ?_, (h.reading _).symm⟩
        · rw [FileSystem.reading_join_name houtput (hnames v hv), h.reading]
          exact List.prefix_append _ _
        · rw [hall]
          exact List.mem_map_of_mem hv
      · exact .inl (contentAt_discard h hpublished hl)

/-- A template with a note. Its script deletes all notes and then fails at a malformed wildcard. -/
def failingTemplate : FileSystem where
  entries := [
    (["template"], .directory),
    (["template", "kiln.json"], .file ("\x7b\"instructions\":[" ++
      "\x7b\"type\":\"delete\",\"files\":\"*.md\"\x7d," ++
      "\x7b\"type\":\"delete\",\"files\":\"[\"\x7d]\x7d").toUTF8),
    (["template", "note.md"], .file "To be deleted.".toUTF8)]

/-- A generation from the failing template. -/
def failingOrder : Order where
  template := ⟨"template"⟩
  output := ⟨"project"⟩
  stage := ⟨"stage"⟩

theorem generate_leaves_no_trace_of_failing :
    (generate failingOrder failingTemplate).fs.isPresent ⟨"stage"⟩ = false ∧
    (∀ e, (generate failingOrder failingTemplate).result = .error e →
      (∀ path fault, e ≠ .copy path fault) →
        (generate failingOrder failingTemplate).fs = failingTemplate) ∧
    (∀ written, (generate failingOrder failingTemplate).result = .ok written → ∀ l,
      (generate failingOrder failingTemplate).fs.contentAt l = failingTemplate.contentAt l ∨
        (failingTemplate.reading ⟨"project"⟩ <+: l ∧
          ∃ path ∈ written, failingTemplate.reading path = l)) := by
  refine generate_leaves_no_trace failingOrder failingTemplate (by decide +kernel)
    (by decide +kernel) ?_
  rintro step q ⟨config, p, ⟨_, _, _, hconfig, -, -, -, -⟩, hreach⟩
  have hall : (Config.load failingTemplate failingOrder.template).toOption.map
      (allSteps ·.instructions) = some [.delete "*.md" none, .delete "[" none] := by decide +kernel
  rw [hconfig] at hall
  have hscript : allSteps config.instructions = [.delete "*.md" none, .delete "[" none] :=
    Option.some.inj hall
  -- The script holds no move and no rename, so there is nothing to say about its places.
  have hmem := hreach.mem_allSteps
  rw [hscript] at hmem
  refine Step.staysBelow_of_not_isRelocation ?_ q.env
  rcases List.mem_cons.1 hmem with rfl | hmem
  · rfl
  · rw [List.mem_singleton.1 hmem]
    rfl

end Scaffold
