import Scaffold.CommandLine.Session
import Scaffold.Proofs.FileSystem.Missing
import Scaffold.Proofs.Generation.Phases
import Scaffold.Proofs.Source.Fetching

/-! # Runs that are not forced

  A run without `--force` is refused if something is at the output path. So it
  can change an existing file only if the path misses a directory: nothing was
  found there, but by the time the files are published the path leads to the
  directory, and whatever is staged replaces what has the same name.

  - `SessionInput.IsSound`: what every run starts from.
  - `runSession_cases`: nothing has changed, or a publication is all that is left.
  - `unforced_run_keeps_file`: which files are kept, and which are replaced.
  - `unforced_run_replaces_file`: a file that is replaced.
-/

namespace Scaffold

open FileSystem (Confined Extends Misses)

variable {input : SessionInput} {a : Arguments} {template : LoadedTemplate} {fs : FileSystem}
  {o : Order} {l : Location} {content : ByteArray}

/-! ### What a run generates -/

/-- What every run starts from. -/
structure SessionInput.IsSound (input : SessionInput) : Prop where
  /-- The files make up a file system. -/
  files : input.fs.WellFormed
  /-- So do the files of a repository that can be fetched. -/
  clones : ∀ address tree, input.clone address = .ok tree → tree.WellFormed
  /-- Nothing is at the place of the staging tree when the template is there. -/
  free : ∀ a template, Arguments.parse input.arguments = .ok a → input.load a = .ok template →
    template.fs.isPresent input.stage = false

/-- A run publishes from the file system `staged`. -/
def SessionInput.Publishes (input : SessionInput) (a : Arguments) (staged : FileSystem) : Prop :=
  ∃ template answers, input.load a = .ok template ∧ readAnswers a input.stdin = .ok answers ∧
    (input.order a template answers).Publishes template.fs staged

/-- The script of a run holds no step that gives entries other places. -/
def SessionInput.OnlyFills (input : SessionInput) (a : Arguments) : Prop :=
  ∀ template config, input.load a = .ok template →
    Config.load template.fs template.root = .ok config →
    ∀ step ∈ allSteps config.instructions, step.isRelocation = false

theorem SessionInput.load_cases (hinput : input.IsSound) (h : input.load a = .ok template) :
    (template.checkout = none ∧ template.fs = input.fs) ∨
      (template.checkout = some input.checkout ∧
        Confined input.fs input.checkout template.fs) :=
  TemplateSource.load_cases hinput.files hinput.clones h

theorem SessionInput.IsSound.isBeside (hinput : input.IsSound)
    (h : input.load a = .ok template) : template.IsBeside input.fs :=
  LoadedTemplate.isBeside_of_cases hinput.files (input.load_cases hinput h)

theorem finishSession_spec (stdout : String) (output : Path) (g : Generation) :
    (finishSession stdout output g).fs = g.fs ∧
      ((finishSession stdout output g).code = 0 ↔ g.result.isOk) := by
  unfold finishSession
  dsimp only
  split
  · next e he => exact ⟨rfl, by simp [failedSession, he, Except.isOk, Except.toBool]⟩
  · next written hwritten => exact ⟨rfl, by simp [hwritten, Except.isOk, Except.toBool]⟩

/-- With its template there, a run fails before it generates, or it ends as its generation does. -/
theorem runTemplate_cases (input : SessionInput) (a : Arguments) (template : LoadedTemplate) :
    ((runTemplate input a template).code ≠ 0 ∧
      (runTemplate input a template).fs = template.fs) ∨
    ∃ answers, readAnswers a input.stdin = .ok answers ∧
      (runTemplate input a template).fs =
        (generate (input.order a template answers) template.fs).fs ∧
      ((runTemplate input a template).code = 0 ↔
        (generate (input.order a template answers) template.fs).result.isOk) := by
  unfold runTemplate
  split
  · exact .inl ⟨Nat.one_ne_zero, rfl⟩
  · next answers hanswers => exact .inr ⟨answers, hanswers, finishSession_spec _ _ _⟩

/-! ### The end of a run -/

theorem Session.code_released (s : Session) (template : LoadedTemplate) :
    (s.released template).code = s.code := by
  unfold Session.released
  split <;> rfl

/-- Nothing goes away if nothing was fetched. -/
theorem Session.released_of_none (s : Session) (h : template.checkout = none) :
    s.released template = s := by
  unfold Session.released
  rw [h]

/-- A run that leaves all files as they were when the template was there leaves them as they were in
the beginning. -/
theorem Session.fs_released_of_same {s : Session} (hinput : input.IsSound)
    (hload : input.load a = .ok template) (h : s.fs = template.fs) :
    (s.released template).fs = input.fs := by
  rcases input.load_cases hinput hload with ⟨hnone, hsame⟩ | ⟨hsome, hconfined⟩
  · rw [s.released_of_none hnone, h, hsame]
  · unfold Session.released
    rw [hsome]
    dsimp only
    rw [h, discard_of_confined hconfined]

/-- What was there in the beginning does not go away with a fetched repository. -/
theorem Session.contentAt_released {s : Session} (hinput : input.IsSound)
    (hload : input.load a = .ok template) (hcurrent : s.fs.current = template.fs.current)
    (hl : input.fs.contentAt l = some content) :
    (s.released template).fs.contentAt l = s.fs.contentAt l := by
  rcases input.load_cases hinput hload with ⟨hnone, -⟩ | ⟨hsome, hconfined⟩
  · rw [s.released_of_none hnone]
  · unfold Session.released Staging.discard
    rw [hsome]
    dsimp only
    split
    · next fs' hremoved =>
      obtain ⟨-, -, rfl⟩ := FileSystem.removeTree_eq_ok hremoved
      have hreading : s.fs.reading input.checkout = input.fs.reading input.checkout :=
        FileSystem.reading_congr (hcurrent.trans hconfined.current) input.checkout
      rw [hreading, FileSystem.contentAt_eraseTree hconfined.get?_root.1, if_neg]
      intro hpre
      have hget := FileSystem.contentAt_eq_some.1 hl
      rw [hconfined.get?_before hpre] at hget
      cases hget
    · rfl

/-- The output directory of proper arguments has a name. -/
theorem output_ne_empty {arguments : List String} (ha : Arguments.parse arguments = .ok a) :
    a.output ≠ "" := by
  unfold Arguments.parse at ha
  split at ha
  · cases ha
  · next d _ =>
    unfold Arguments.ofDraft at ha
    split at ha
    · cases ha
    · next hsound =>
      split at ha
      · next template output hvalues =>
        obtain rfl := Except.ok.inj ha
        rintro rfl
        exact hsound (by simp [ArgumentDraft.isSound, hvalues])
      · cases ha

/-! ### What becomes of an existing file -/

section Published

variable {fs staged : FileSystem} {stage output : Path} (h : Confined fs stage staged)

include h

theorem publish_eq (output : Path) :
    Staging.publish staged stage output =
      Staging.publishEach stage output (Staging.publishedFiles staged stage) staged :=
  Staging.publish_of_located output (h.reading stage ▸ h.locate_stage)

/-- Published files lie below the reading of the output path. -/
theorem changed_iff (houtput : output.text ≠ "") {l : Location} :
    (∃ v ∈ Staging.publishedFiles staged stage, staged.reading (output.join v.name) = l) ↔
      ∃ v ∈ Staging.publishedFiles staged stage, fs.reading output ++ v.relative = l := by
  have hnames := Staging.isName_of_publishedFiles stage h.wellFormed
  refine exists_congr fun v => and_congr_right fun hv => ?_
  rw [FileSystem.reading_join_name houtput (hnames v hv), h.reading]

/-- A publication leaves the current directory where it was. -/
theorem current_publish (output : Path) :
    (Staging.discard (Staging.publish staged stage output).2 stage).current = fs.current := by
  have hpublished := Staging.publishEach_extends stage output
    (Staging.publishedFiles staged stage) staged
  rw [publish_eq h, discard_of_extends h hpublished]
  exact hpublished.current.trans h.current

/-- A file stays if it is not below an existing directory at the reading of the output path. -/
theorem publish_keeps (houtput : output.text ≠ "") {l : Location} {content : ByteArray}
    (hl : fs.contentAt l = some content)
    (hsafe : fs.isDirectoryAt (fs.reading output) → ¬ fs.reading output <+: l) :
    (Staging.discard (Staging.publish staged stage output).2 stage).contentAt l = some content := by
  have hpublished := Staging.publishEach_extends stage output
    (Staging.publishedFiles staged stage) staged
  rw [publish_eq h, contentAt_discard h hpublished, hl]
  rw [changed_iff h houtput]
  rintro ⟨v, hv, rfl⟩
  have hne := (Staging.mem_publishedFiles.1 hv).1.2
  have hsome : (fs.get? (fs.reading output ++ v.relative)).isSome := by
    rw [FileSystem.contentAt_eq_some.1 hl]
    rfl
  refine hsafe ?_ (List.prefix_append _ _)
  exact h.before.isDirectoryAt_of_prefix hsome (List.prefix_append _ _) (by simpa using hne)

/-- The published files are those below the staging root, by the names that lead to them. -/
theorem published_iff {rel : Location} :
    (∃ v ∈ Staging.publishedFiles staged stage, v.relative = rel) ↔
      ∃ new, staged.contentAt (fs.reading stage ++ rel) = some new := by
  constructor
  · rintro ⟨v, hv, rfl⟩
    obtain ⟨⟨hmem, -⟩, hfile⟩ := Staging.mem_publishedFiles.1 hv
    rw [h.reading] at hmem
    cases hentry : v.entry with
    | directory =>
      rw [hentry] at hfile
      cases hfile
    | file new =>
      rw [hentry] at hmem
      exact ⟨new, FileSystem.contentAt_eq_some.2 (h.wellFormed.get?_of_mem hmem)⟩
  · rintro ⟨new, hnew⟩
    have hget := FileSystem.contentAt_eq_some.1 hnew
    have hne : rel ≠ [] := by
      rintro rfl
      rw [List.append_nil, h.get?_root.2] at hget
      cases hget
    refine ⟨⟨rel, .file new⟩, ?_, rfl⟩
    rw [Staging.mem_publishedFiles, h.reading]
    exact ⟨⟨FileSystem.mem_entries_of_get? (by simp [hne]) hget, hne⟩, rfl⟩

/-- A complete publication next to the staging tree puts every published file at its place. -/
theorem contentAt_publishEach (houtput : output.text ≠ "")
    (hok : (Staging.publish staged stage output).1.isOk)
    (hapart : ∀ rel, ¬ fs.reading stage <+: fs.reading output ++ rel) {v : FileSystem.Visited}
    (hv : v ∈ Staging.publishedFiles staged stage) :
    (Staging.publishEach stage output (Staging.publishedFiles staged stage)
      staged).2.contentAt (fs.reading output ++ v.relative) =
        staged.contentAt (fs.reading stage ++ v.relative) := by
  rw [publish_eq h] at hok
  cases hr : Staging.publishEach stage output (Staging.publishedFiles staged stage) staged with
  | mk result fs' =>
    rw [hr] at hok
    cases result with
    | error e => cases hok
    | ok written =>
      have hlands : ∀ w ∈ Staging.publishedFiles staged stage,
          ¬ staged.reading stage <+: staged.reading output ++ w.relative := by
        intro w _
        rw [h.reading, h.reading]
        exact hapart w.relative
      have hcontents := Staging.publishEach_contents h.text_ne_empty houtput
        (Staging.isName_of_publishedFiles stage h.wellFormed)
        (Staging.nodup_publishedFiles stage h.wellFormed) hlands hr v hv
      rwa [h.reading, h.reading] at hcontents

/-- A file below the reading of the output path stays if no other one is staged for its place. -/
theorem publish_replaces (houtput : output.text ≠ "")
    (hok : (Staging.publish staged stage output).1.isOk)
    (hapart : ¬ fs.reading output <+: fs.reading stage) {rel : Location} {content : ByteArray}
    (hrel : fs.contentAt (fs.reading output ++ rel) = some content) :
    (Staging.discard (Staging.publish staged stage output).2 stage).contentAt
        (fs.reading output ++ rel) = some content ↔
      ∀ new, staged.contentAt (fs.reading stage ++ rel) = some new → new = content := by
  have hpublished := Staging.publishEach_extends stage output
    (Staging.publishedFiles staged stage) staged
  -- The file was there before the staging tree was, so it is not in the staging tree.
  have hbefore : ¬ fs.reading stage <+: fs.reading output ++ rel := by
    intro hpre
    have hget := FileSystem.contentAt_eq_some.1 hrel
    rw [h.get?_before hpre] at hget
    cases hget
  by_cases hstaged : ∃ v ∈ Staging.publishedFiles staged stage, v.relative = rel
  · obtain ⟨new, hnew⟩ := (published_iff h).1 hstaged
    obtain ⟨v, hv, rfl⟩ := hstaged
    -- Neither is anything else below the output path, as the output path is not above it.
    have hnone : ∀ rest, ¬ fs.reading stage <+: fs.reading output ++ rest := by
      intro rest hpre
      rcases List.prefix_or_prefix_of_prefix hpre (List.prefix_append _ _) with hle | hle
      · exact hbefore (hle.trans (List.prefix_append _ _))
      · exact hapart hle
    have hreplaced := contentAt_publishEach h houtput hok hnone hv
    rw [publish_eq h, discard_of_extends h hpublished,
      FileSystem.contentAt_eraseTree h.get?_root.1, if_neg hbefore, hreplaced, hnew]
    simp
  · have hunchanged : ¬ ∃ v ∈ Staging.publishedFiles staged stage,
        staged.reading (output.join v.name) = fs.reading output ++ rel := by
      rw [changed_iff h houtput]
      rintro ⟨v, hv, heq⟩
      exact hstaged ⟨v, hv, List.append_cancel_left heq⟩
    rw [publish_eq h, contentAt_discard h hpublished hunchanged, hrel]
    refine iff_of_true rfl fun new hnew => ?_
    exact absurd ((published_iff h).2 ⟨new, hnew⟩) hstaged

end Published

/-! ### Whole runs -/

/-- A run that is not forced changes nothing, or it ends like a publication to a path where nothing
was found. -/
theorem runSession_cases (hinput : input.IsSound)
    (ha : Arguments.parse input.arguments = .ok a) (hforce : a.force = false)
    (hscript : input.OnlyFills a) :
    ((runSession input).code ≠ 0 ∧ (runSession input).fs = input.fs) ∨
    (∃ template staged, input.load a = .ok template ∧ input.Publishes a staged ∧
      Confined template.fs input.stage staged ∧ a.output ≠ "" ∧
      input.fs.isPresent ⟨a.output⟩ = false ∧
      ((runSession input).code = 0 ↔ (Staging.publish staged input.stage ⟨a.output⟩).1.isOk) ∧
      ∀ l content, input.fs.contentAt l = some content → (runSession input).fs.contentAt l =
        (Staging.discard (Staging.publish staged input.stage ⟨a.output⟩).2 input.stage).contentAt
          l) := by
  have hrun : runSession input = runArguments input a := by
    unfold runSession
    rw [ha]
  rw [hrun]
  unfold runArguments
  split
  · exact .inl ⟨Nat.one_ne_zero, rfl⟩
  · next hcheck =>
    have habsent : input.fs.isPresent ⟨a.output⟩ = false := by
      unfold checkOutput at hcheck
      split at hcheck
      · cases hcheck
      · next h => simpa [hforce] using h
    split
    · exact .inl ⟨Nat.one_ne_zero, rfl⟩
    · next template hload =>
      rw [Session.code_released]
      rcases runTemplate_cases input a template with
        ⟨hcode, hsame⟩ | ⟨answers, hanswers, hend, hcode⟩
      · exact .inl ⟨hcode, Session.fs_released_of_same hinput hload hsame⟩
      · have hsteps : ∀ step q, (input.order a template answers).Reaches template.fs step q →
            step.StaysBelow q.env := by
          rintro step q ⟨config, p, ⟨_, _, _, hconfig, -⟩, hreach⟩
          exact Step.staysBelow_of_not_isRelocation
            (hscript template config hload hconfig step hreach.mem_allSteps) q.env
        rcases generate_cases (hinput.isBeside hload).wellFormed
            (hinput.free a template ha hload) hsteps with
          ⟨e, he, hsame⟩ | ⟨staged, hpublishes, h, houtput, hresult, hfinal⟩
        · refine .inl ⟨?_, Session.fs_released_of_same hinput hload (hend.trans hsame)⟩
          rw [ne_eq, hcode, he]
          exact nofun
        · refine .inr ⟨template, staged, hload, ⟨template, answers, hload, hanswers, hpublishes⟩, h,
            houtput, habsent, by rw [hcode, hresult]; rfl, fun l content hl => ?_⟩
          have hcurrent : (runTemplate input a template).fs.current = template.fs.current := by
            rw [hend, hfinal]
            exact current_publish h ⟨a.output⟩
          rw [Session.contentAt_released hinput hload hcurrent hl, hend, hfinal]
          rfl

/-- A run that is not forced, of a script that neither moves nor renames, keeps every existing file,
except below a directory that the output path misses. There a file is replaced, if the run succeeds,
by the staged file of the same name. Only a path with `..` misses a directory. It is so whatever the
user replies, and whether the template is a directory or a repository. -/
theorem unforced_run_keeps_file (input : SessionInput) (hinput : input.IsSound)
    (hforce : ∀ a, Arguments.parse input.arguments = .ok a → a.force = false)
    (hscript : ∀ a, Arguments.parse input.arguments = .ok a → input.OnlyFills a) :
    (∀ l content, input.fs.contentAt l = some content →
      (∀ a, Arguments.parse input.arguments = .ok a → input.fs.Misses ⟨a.output⟩ →
        ¬ input.fs.reading ⟨a.output⟩ <+: l) →
      (runSession input).fs.contentAt l = some content) ∧
    (∀ a, Arguments.parse input.arguments = .ok a → (runSession input).code = 0 →
      ¬ input.fs.reading ⟨a.output⟩ <+: input.fs.reading input.stage →
      ∃ staged, input.Publishes a staged ∧
        ∀ rel content, input.fs.contentAt (input.fs.reading ⟨a.output⟩ ++ rel) = some content →
          ((runSession input).fs.contentAt (input.fs.reading ⟨a.output⟩ ++ rel) = some content ↔
            ∀ new, staged.contentAt (input.fs.reading input.stage ++ rel) = some new →
              new = content)) ∧
    (∀ a, Arguments.parse input.arguments = .ok a → input.fs.Misses ⟨a.output⟩ →
      ".." ∈ (Path.mk a.output).names) := by
  refine ⟨?_, ?_, fun a ha hmisses => hmisses.has_parent hinput.files (output_ne_empty ha)⟩
  · intro l content hl hsafe
    cases ha : Arguments.parse input.arguments with
    | error fault =>
      have hsame : (runSession input).fs = input.fs := by
        unfold runSession
        rw [ha]
        dsimp only
        split <;> rfl
      rw [hsame]
      exact hl
    | ok a =>
      rcases runSession_cases hinput ha (hforce a ha) (hscript a ha) with
        ⟨-, hsame⟩ | ⟨template, staged, hload, -, h, houtput, habsent, -, hend⟩
      · rw [hsame]
        exact hl
      · have hbeside := hinput.isBeside hload
        rw [hend l content hl]
        refine publish_keeps h houtput (hbeside.contentAt hl) fun hdir hpre => ?_
        rw [hbeside.reading] at hdir hpre
        exact hsafe a ha ⟨habsent, hbeside.isDirectoryAt_above hinput.files hl hdir hpre⟩ hpre
  · intro a ha hcode hapart
    rcases runSession_cases hinput ha (hforce a ha) (hscript a ha) with
      ⟨hfailed, -⟩ | ⟨template, staged, hload, hpublishes, h, houtput, -, hok, hend⟩
    · exact absurd hcode hfailed
    · have hbeside := hinput.isBeside hload
      refine ⟨staged, hpublishes, fun rel content hrel => ?_⟩
      rw [hend _ content hrel, ← hbeside.reading ⟨a.output⟩, ← hbeside.reading input.stage]
      rw [← hbeside.reading ⟨a.output⟩] at hrel hapart
      rw [← hbeside.reading input.stage] at hapart
      exact publish_replaces h houtput (hok.1 hcode) hapart (hbeside.contentAt hrel)

/-! ### A replaced file -/

/-- A template with one file, and a directory `kept` that holds a file of the same name. -/
def keptFiles : FileSystem where
  entries := [
    (["template"], .directory),
    (["template", "kiln.json"], .file "\x7b\"instructions\":[]\x7d".toUTF8),
    (["template", "a.txt"], .file "new".toUTF8),
    (["work"], .directory),
    (["work", "kept"], .directory),
    (["work", "kept", "a.txt"], .file "old".toUTF8)]
  current := ["work"]

/-- A run into `kept`, by way of a directory that is not there yet. -/
def keptInput : SessionInput where
  arguments := ["../template", "fresh/../kept"]
  fs := keptFiles
  stage := ⟨"/stage"⟩

/-- The arguments of the run. -/
def keptArguments : Arguments := ⟨"../template", "fresh/../kept", false, false, false⟩

/-- The template of the run. -/
def keptTemplate : LoadedTemplate := ⟨⟨"../template"⟩, keptFiles, none⟩

theorem keptFiles_wellFormed : keptFiles.WellFormed := by decide +kernel

theorem parse_keptInput : Arguments.parse keptInput.arguments = .ok keptArguments := rfl

theorem load_keptInput : keptInput.load keptArguments = .ok keptTemplate := rfl

theorem load_keptFiles : ∃ config, Config.load keptFiles ⟨"../template"⟩ = .ok config ∧
    config.instructions = [] := by
  have hload : (Config.load keptFiles ⟨"../template"⟩).toOption.map (·.instructions.length) =
      some 0 := by decide +kernel
  cases hconfig : Config.load keptFiles ⟨"../template"⟩ with
  | error e => rw [hconfig] at hload; cases hload
  | ok config =>
    rw [hconfig] at hload
    exact ⟨config, rfl, List.eq_nil_of_length_eq_zero (Option.some.inj hload)⟩

theorem keptInput_isSound : keptInput.IsSound := by
  refine ⟨keptFiles_wellFormed, nofun, fun a template ha hload => ?_⟩
  rw [parse_keptInput] at ha
  obtain rfl := Except.ok.inj ha
  rw [load_keptInput] at hload
  obtain rfl := Except.ok.inj hload
  rfl

theorem keptInput_onlyFills (a : Arguments) (ha : Arguments.parse keptInput.arguments = .ok a) :
    a.force = false ∧ keptInput.OnlyFills a := by
  rw [parse_keptInput] at ha
  obtain rfl := Except.ok.inj ha
  refine ⟨rfl, fun template config hload hconfig step hstep => ?_⟩
  rw [load_keptInput] at hload
  obtain rfl := Except.ok.inj hload
  obtain ⟨config', hload, hempty⟩ := load_keptFiles
  obtain rfl : config' = config := Except.ok.inj (hload.symm.trans hconfig)
  rw [hempty] at hstep
  cases hstep

/-- The staging tree of the run. -/
def keptStaged : FileSystem :=
  (keptFiles.addDirectory ["stage"]).setFile ["stage", "a.txt"] "new".toUTF8

theorem create_keptFiles : ∃ rules, Staging.ignoreRules keptFiles ⟨"../template"⟩ = .ok rules ∧
    Staging.create keptFiles ⟨"../template"⟩ ⟨"/stage"⟩ rules = (.ok (), keptStaged) := by
  have hmade : keptFiles.createDirectory ⟨"/stage"⟩ = .ok (keptFiles.addDirectory ["stage"]) := rfl
  have hroot : (keptFiles.addDirectory ["stage"]).walkRoot ⟨"../template"⟩ = .ok ["template"] := rfl
  have hfs : (keptFiles.addDirectory ["stage"]).WellFormed := by decide +kernel
  have hfound : (keptFiles.addDirectory ["stage"]).collectAsListed ["template"] =
      [⟨["kiln.json"], .file "\x7b\"instructions\":[]\x7d".toUTF8⟩,
        ⟨["a.txt"], .file "new".toUTF8⟩] :=
    List.mergeSort_of_pairwise (by decide +kernel)
  have hkept : (Staging.ignoreRules keptFiles ⟨"../template"⟩).toOption.map
      (fun r => (Staging.isStaged r ["kiln.json"], Staging.isStaged r ["a.txt"])) =
        some (false, true) := by decide +kernel
  cases hrules : Staging.ignoreRules keptFiles ⟨"../template"⟩ with
  | error e => rw [hrules] at hkept; cases hkept
  | ok rules =>
    rw [hrules] at hkept
    obtain ⟨hskipped, hstaged⟩ := Prod.mk.inj (Option.some.inj hkept)
    have hchosen : Staging.chosen rules none
        (((keptFiles.addDirectory ["stage"]).collectAsListed ["template"]).map
          Staging.Listed.ofVisited) = [⟨["a.txt"], .file "new".toUTF8⟩] := by
      rw [Staging.chosen_collectAsListed hfs, hfound]
      simp [hskipped, hstaged]
    refine ⟨rules, rfl, ?_⟩
    unfold Staging.create
    simp only [hmade, hroot, Staging.stageWalk, hchosen]
    rfl

theorem publish_keptStaged : Staging.publish keptStaged ⟨"/stage"⟩ ⟨"fresh/../kept"⟩ =
    Staging.publishEach ⟨"/stage"⟩ ⟨"fresh/../kept"⟩ [⟨["a.txt"], .file "new".toUTF8⟩]
      keptStaged := by
  have hroot : keptStaged.walkRoot ⟨"/stage"⟩ = .ok ["stage"] := rfl
  have hfound : keptStaged.collectAsListed ["stage"] = [⟨["a.txt"], .file "new".toUTF8⟩] :=
    List.mergeSort_singleton _
  unfold Staging.publish
  simp only [hroot, hfound]
  rfl

/-- A script without steps publishes what was staged. -/
theorem generate_of_no_steps {config : Config} {rules : IgnoreRules} {staged : FileSystem}
    {name : String} (hconfig : Config.load fs o.template = .ok config)
    (hempty : config.instructions = []) (hrules : Staging.ignoreRules fs o.template = .ok rules)
    (hcreate : Staging.create fs o.template o.stage rules = (.ok (), staged))
    (hname : projectFolderName fs o.output = .ok name) :
    (generate o fs).fs =
      Staging.discard (Staging.publish staged o.stage o.output).2 o.stage := by
  unfold generate stageAndExecute
  simp only [hconfig, hrules, hcreate, hname, execute, hempty, runAll, Generation.cleaned]

theorem generate_keptFiles :
    (generate (keptInput.order keptArguments keptTemplate {}) keptFiles).fs =
      Staging.discard (Staging.publishEach ⟨"/stage"⟩ ⟨"fresh/../kept"⟩
        [⟨["a.txt"], .file "new".toUTF8⟩] keptStaged).2 ⟨"/stage"⟩ := by
  obtain ⟨config, hconfig, hempty⟩ := load_keptFiles
  obtain ⟨rules, hrules, hcreate⟩ := create_keptFiles
  have hname : projectFolderName keptFiles ⟨"fresh/../kept"⟩ = .ok "kept" := rfl
  rw [← publish_keptStaged]
  exact generate_of_no_steps hconfig hempty hrules hcreate hname

/-- The run into `kept` is not forced, and yet it replaces the file that was there: nothing was at
`fresh/../kept` until `fresh` was made. -/
theorem unforced_run_replaces_file :
    keptInput.IsSound ∧
    (∀ a, Arguments.parse keptInput.arguments = .ok a → a.force = false ∧ keptInput.OnlyFills a) ∧
    keptInput.fs.contentAt ["work", "kept", "a.txt"] = some "old".toUTF8 ∧
    (runSession keptInput).fs.contentAt ["work", "kept", "a.txt"] = some "new".toUTF8 := by
  refine ⟨keptInput_isSound, keptInput_onlyFills, rfl, ?_⟩
  have hcheck : checkOutput keptInput.fs keptArguments = .ok () := rfl
  have hanswers : readAnswers keptArguments keptInput.stdin = .ok {} := rfl
  have hend : (runSession keptInput).fs =
      (generate (keptInput.order keptArguments keptTemplate {}) keptFiles).fs := by
    have hrun : runSession keptInput =
        (runTemplate keptInput keptArguments keptTemplate).released keptTemplate := by
      unfold runSession
      rw [parse_keptInput]
      dsimp only
      unfold runArguments
      rw [hcheck, load_keptInput]
    rw [hrun, Session.released_of_none _ rfl]
    unfold runTemplate
    rw [hanswers]
    exact (finishSession_spec _ _ _).1
  rw [hend, generate_keptFiles]
  rfl

/-! ### A fetched template -/

/-- The template of the run as a repository. -/
def keptRepository : FileSystem where
  entries := [
    (["kiln.json"], .file "\x7b\"instructions\":[]\x7d".toUTF8),
    (["a.txt"], .file "new".toUTF8)]

/-- A run into `kept` of a template that is fetched. -/
def fetchedInput : SessionInput :=
  { keptInput with
    arguments := ["git:base", "fresh/../kept"]
    replies := ["yes"]
    clone := fun _ => .ok keptRepository }

/-- The arguments of the run. -/
def fetchedArguments : Arguments := ⟨"git:base", "fresh/../kept", false, false, false⟩

/-- The template of the run. -/
def fetchedTemplate : LoadedTemplate :=
  ⟨⟨"/repository"⟩, (keptFiles.addDirectory ["repository"]).plant ["repository"] keptRepository,
    some ⟨"/repository"⟩⟩

theorem parse_fetchedInput : Arguments.parse fetchedInput.arguments = .ok fetchedArguments := rfl

theorem load_fetchedInput : fetchedInput.load fetchedArguments = .ok fetchedTemplate := by
  have hsource : fetchedInput.source fetchedArguments = .repository "git:base" := by
    decide +kernel
  unfold SessionInput.load
  rw [hsource]
  rfl

theorem fetchedInput_isSound : fetchedInput.IsSound := by
  refine ⟨keptFiles_wellFormed, fun address tree htree => ?_, fun a template ha hload => ?_⟩
  · obtain rfl := Except.ok.inj htree
    decide +kernel
  · rw [parse_fetchedInput] at ha
    obtain rfl := Except.ok.inj ha
    rw [load_fetchedInput] at hload
    obtain rfl := Except.ok.inj hload
    rfl

theorem fetchedInput_onlyFills (a : Arguments)
    (ha : Arguments.parse fetchedInput.arguments = .ok a) :
    a.force = false ∧ fetchedInput.OnlyFills a := by
  rw [parse_fetchedInput] at ha
  obtain rfl := Except.ok.inj ha
  refine ⟨rfl, fun template config hload hconfig step hstep => ?_⟩
  rw [load_fetchedInput] at hload
  obtain rfl := Except.ok.inj hload
  have hempty : (Config.load fetchedTemplate.fs fetchedTemplate.root).toOption.map
      (·.instructions.length) = some 0 := by decide +kernel
  rw [hconfig] at hempty
  rw [List.eq_nil_of_length_eq_zero (Option.some.inj hempty)] at hstep
  cases hstep

/-- The run keeps what lies elsewhere, as it could not keep the file in `kept`. -/
theorem unforced_run_keeps_file_of_fetched :
    (∀ l content, fetchedInput.fs.contentAt l = some content →
      (∀ a, Arguments.parse fetchedInput.arguments = .ok a →
        fetchedInput.fs.Misses ⟨a.output⟩ → ¬ fetchedInput.fs.reading ⟨a.output⟩ <+: l) →
      (runSession fetchedInput).fs.contentAt l = some content) ∧
    (∀ a, Arguments.parse fetchedInput.arguments = .ok a → (runSession fetchedInput).code = 0 →
      ¬ fetchedInput.fs.reading ⟨a.output⟩ <+: fetchedInput.fs.reading fetchedInput.stage →
      ∃ staged, fetchedInput.Publishes a staged ∧
        ∀ rel content,
          fetchedInput.fs.contentAt (fetchedInput.fs.reading ⟨a.output⟩ ++ rel) = some content →
          ((runSession fetchedInput).fs.contentAt
              (fetchedInput.fs.reading ⟨a.output⟩ ++ rel) = some content ↔
            ∀ new, staged.contentAt (fetchedInput.fs.reading fetchedInput.stage ++ rel) =
              some new → new = content)) ∧
    (∀ a, Arguments.parse fetchedInput.arguments = .ok a →
      fetchedInput.fs.Misses ⟨a.output⟩ → ".." ∈ (Path.mk a.output).names) :=
  unforced_run_keeps_file fetchedInput fetchedInput_isSound
    (fun a ha => (fetchedInput_onlyFills a ha).1) (fun a ha => (fetchedInput_onlyFills a ha).2)

end Scaffold
