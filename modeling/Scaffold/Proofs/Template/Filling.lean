import Scaffold.Proofs.Template.Parsing
import Scaffold.Renderer

/-! # Texts with placeholders, filled in

  Where all names of a text with placeholders are known, it is rendered as its
  literal texts with what the names stand for between them. What is filled in is
  not read again. A name that is unknown fails, at the first place where one is
  needed.

  - `shown?`: what stands for a name in the output.
  - `evalBody_filled`, `evalBody_unknown`: statements, by induction on the
    placeholders.
  - `letter_rendering`: texts and files.
-/

namespace Scaffold.Template

variable {host : Host} {calls : Calls} {m : Machine} {env : Environment} {name : String}

/-! ### Names -/

/-- What stands for a name in the output, if the name is known at all. -/
def shown? (env : Environment) (name : String) : Option String :=
  (((env.get? name).map (bindingValue name)) <|> global? name).map Value.render

theorem shown?_of_text {text : String} (h : env.get? name = some (.text text)) :
    shown? env name = some text := by
  simp [shown?, h, bindingValue, Value.ofText, Value.render]

theorem shown?_eq_none : shown? env name = none ↔ env.get? name = none ∧ global? name = none := by
  simp [shown?]

/-- A name that is known stands for a text or a function. -/
theorem known_value {v : Value}
    (h : ((env.get? name).map (bindingValue name) <|> global? name) = some v) :
    (∃ text, v = .text text false) ∨ ∃ callable, v = .function callable := by
  cases hget : env.get? name with
  | some binding =>
    rw [hget] at h
    cases h
    cases binding with
    | text text => exact .inl ⟨text, rfl⟩
    | builtin builtin => exact .inr ⟨_, rfl⟩
  | none =>
    rw [hget] at h
    replace h : global? name = some v := h
    unfold global? at h
    split at h <;> cases h <;> exact .inr ⟨_, rfl⟩

theorem lookup_contextOf (env : Environment) (name : String) :
    (contextOf env).lookup name = (env.get? name).map (bindingValue name) := by
  unfold contextOf Environment.get?
  induction env.bindings with
  | nil => rfl
  | cons pair rest ih =>
    obtain ⟨n, b⟩ := pair
    by_cases h : name = n
    · subst h
      simp
    · have hne : (name == n) = false := beq_false_of_ne h
      rw [List.map_cons, List.lookup_cons, List.lookup_cons, hne]
      exact ih

/-! ### Machines at the top of a template -/

/-- No statement has bound a name or changed the escaping. -/
structure AtTop (m : Machine) : Prop where
  frames : m.frames = [{ base := .context }]
  escape : m.escape = .plain
  discarding : m.discarding = false

theorem atTop_start (source : Source) : AtTop (Machine.start source) := ⟨rfl, rfl, rfl⟩

/-- The machine has written more. -/
def Machine.wrote (m : Machine) (s : String) : Machine := { m with output := m.output ++ s }

theorem AtTop.wrote (h : AtTop m) (s : String) : AtTop (m.wrote s) :=
  ⟨h.frames, h.escape, h.discarding⟩

theorem Machine.wrote_wrote (m : Machine) (s t : String) :
    (m.wrote s).wrote t = m.wrote (s ++ t) := by
  simp [Machine.wrote, String.append_assoc]

theorem Machine.wrote_empty (m : Machine) : m.wrote "" = m := by
  simp [Machine.wrote]

theorem AtTop.lookup (h : AtTop m) (host : Host) (name : String) :
    m.lookup host name = (host.context.lookup name <|> global? name) := by
  unfold Machine.lookup
  rw [h.frames]
  simp [Machine.inFrame]

/-- There a name stands for its value in the environment, else for a global one. -/
theorem AtTop.lookup_env (h : AtTop m) (hcontext : host.context = contextOf env) (name : String) :
    m.lookup host name = ((env.get? name).map (bindingValue name) <|> global? name) := by
  rw [h.lookup, hcontext, lookup_contextOf]

theorem get_eq (m : Machine) : (get : Eval Machine) m = .ok (m, m) := rfl

theorem set_eq (m m' : Machine) : (set m' : Eval Unit) m = .ok ((), m') := rfl

theorem write_eq (h : AtTop m) (s : String) : write s m = .ok ((), m.wrote s) := by
  simp [write, modify, modifyGet, MonadStateOf.modifyGet, StateT.modifyGet, h.discarding,
    Machine.wrote, pure, Except.pure]

/-! ### Statements -/

/-- A computation that fails ends there. -/
theorem bind_error {α β : Type} {act : Eval α} {f : α → Eval β} {failure : Failure}
    (h : act m = .error failure) : (act >>= f) m = .error failure := by
  simp only [bind, StateT.bind, h, Except.bind]

theorem evalStmt_raw (h : AtTop m) (text : String) (line : Nat) :
    evalStmt host calls (.raw text line) m = .ok (.next, m.wrote text) := by
  rw [evalStmt, bind_ok (write_eq h text)]
  rfl

theorem evalExpr_var (host : Host) (calls : Calls) (m : Machine) (name : String) (line : Nat) :
    evalExpr host calls (.var name line) m = .ok ((m.lookup host name).getD .missing, m) := by
  rw [evalExpr]
  rfl

/-- An expression that changes nothing is written as the text of its value. -/
theorem evalStmt_emit {e : Expr} {v : Value} {text : String} (h : AtTop m)
    (hvalue : evalExpr host calls e m = .ok (v, m)) (htext : resultText v m = .ok (text, m)) :
    evalStmt host calls (.emit e) m = .ok (.next, m.wrote text) := by
  have hlocated : located e.settled (resultText v) m = .ok (text, m) := by
    simp [located, htext]
  rw [evalStmt, bind_ok hvalue, bind_ok hlocated, bind_ok (write_eq h _)]
  rfl

/-- What is given as a name's value is written as it is. -/
theorem resultText_render {v : Value} (h : m.escape = .plain)
    (hv : (∃ text, v = .text text false) ∨ ∃ callable, v = .function callable) :
    resultText v m = .ok (v.render, m) := by
  have hresult : m.escape.writeResult (m.resolve resolveDepth v) = .ok v.render := by
    rw [h]
    rcases hv with ⟨text, rfl⟩ | ⟨callable, rfl⟩ <;> rfl
  have hresolved : resolved v m = .ok (m.resolve resolveDepth v, m) := rfl
  unfold resultText
  rw [bind_ok (get_eq m), bind_ok hresolved, hresult]
  rfl

section

variable (hcontext : host.context = contextOf env)
include hcontext

/-- A name that is known is written as what stands for it. -/
theorem evalStmt_shown (h : AtTop m) {text : String} (hshown : shown? env name = some text)
    (line : Nat) : evalStmt host calls (.emit (.var name line)) m = .ok (.next, m.wrote text) := by
  obtain ⟨v, hv, rfl⟩ := Option.map_eq_some_iff.1 hshown
  have hlookup : m.lookup host name = some v := by
    rw [h.lookup_env hcontext, hv]
  have hkind := known_value hv
  have hvalue : evalExpr host calls (.var name line) m = .ok (v, m) := by
    rw [evalExpr_var, hlookup, Option.getD_some]
  exact evalStmt_emit h hvalue (resultText_render h.escape hkind)

/-- A name that is unknown fails where it stands. -/
theorem evalStmt_unknown (h : AtTop m) (hshown : shown? env name = none) (line : Nat) :
    evalStmt host calls (.emit (.var name line)) m =
      .error { kind := .undefinedValue, template := some m.template, line := some line } := by
  obtain ⟨hget, hglobal⟩ := shown?_eq_none.1 hshown
  have hlookup : m.lookup host name = none := by
    rw [h.lookup_env hcontext, hget, hglobal]
    rfl
  have hlocated : located line (resultText .missing) m =
      .error { kind := .undefinedValue, template := some m.template, line := some line } := by
    rfl
  rw [evalStmt, bind_ok (evalExpr_var ..), hlookup]
  rw [Option.getD_none, Expr.settled, bind_error hlocated]

end

theorem evalBody_cons {stmt : Stmt} {rest : List Stmt} {m' : Machine}
    (h : evalStmt host calls stmt m = .ok (.next, m')) :
    evalBody host calls (stmt :: rest) m = evalBody host calls rest m' := by
  rw [evalBody, bind_ok h]

theorem evalBody_raw (h : AtTop m) (text : List Char) (line : Nat) (rest : List Stmt) :
    evalBody host calls (rawStmts text line ++ rest) m =
      evalBody host calls rest (m.wrote (String.ofList text)) := by
  unfold rawStmts
  cases text with
  | nil =>
    rw [String.ofList_nil, m.wrote_empty]
    rfl
  | cons c more => exact evalBody_cons (evalStmt_raw h _ _)

/-! ### Bodies -/

/-- What placeholders become. -/
def holesFilled (value : String → String) : List Hole → String
  | [] => ""
  | h :: rest => value h.name ++ h.behind ++ holesFilled value rest

/-- The text with its placeholders filled in. -/
def FormLetter.filled (letter : FormLetter) (value : String → String) : String :=
  letter.lead ++ holesFilled value letter.holes

theorem evalBody_filled (hcontext : host.context = contextOf env) {value : String → String}
    {holes : List Hole} (h : AtTop m)
    (hshown : ∀ hole ∈ holes, shown? env hole.name = some (value hole.name)) (line : Nat) :
    evalBody host calls (holesStmts line holes) m =
      .ok (.next, m.wrote (holesFilled value holes)) := by
  induction holes generalizing m line with
  | nil =>
    rw [holesFilled, m.wrote_empty, holesStmts, evalBody]
    rfl
  | cons hole rest ih =>
    obtain ⟨hfirst, hrest⟩ := List.forall_mem_cons.1 hshown
    rw [holesStmts, evalBody_cons (evalStmt_shown hcontext h hfirst _), evalBody_raw (h.wrote _),
      ih ((h.wrote _).wrote _) hrest, String.ofList_toList, Machine.wrote_wrote,
      Machine.wrote_wrote, ← String.append_assoc, holesFilled]

/-- What stands before an unknown name is written, and then the rendering fails: the induction is
on the placeholders up to the first unknown name. -/
theorem evalBody_unknown {holes : List Hole} (hshown : ∃ hole ∈ holes, shown? env hole.name = none)
    (line : Nat) :
    ∃ place, ∀ (host : Host) (calls : Calls) (m : Machine), host.context = contextOf env →
      AtTop m → evalBody host calls (holesStmts line holes) m =
        .error { kind := .undefinedValue, template := some m.template, line := some place } := by
  induction holes generalizing line with
  | nil =>
    obtain ⟨hole, hmem, -⟩ := hshown
    cases hmem
  | cons hole rest ih =>
    cases hfirst : shown? env hole.name with
    | none =>
      -- The place of the failure is the line of the name, behind the blanks before it.
      refine ⟨line + Lexeme.lineEnds hole.before.toList, fun host calls m hcontext h => ?_⟩
      rw [holesStmts, evalBody, bind_error (evalStmt_unknown hcontext h hfirst _)]
    | some text =>
      have hrest : ∃ hole ∈ rest, shown? env hole.name = none := by
        obtain ⟨other, hmem, hnone⟩ := hshown
        rcases List.mem_cons.1 hmem with rfl | hmem
        · rw [hfirst] at hnone
          cases hnone
        · exact ⟨other, hmem, hnone⟩
      obtain ⟨place, hplace⟩ := ih hrest (line + Lexeme.lineEnds hole.before.toList +
        Lexeme.lineEnds hole.after.toList + Lexeme.lineEnds hole.behind.toList)
      refine ⟨place, fun host calls m hcontext h => ?_⟩
      rw [holesStmts, evalBody_cons (evalStmt_shown hcontext h hfirst _),
        evalBody_raw (h.wrote _)]
      exact hplace host calls _ hcontext ((h.wrote _).wrote _)

/-! ### Whole texts -/

/-- The statements of a template run with the calls of the levels below. -/
theorem callsOf_stmts (host : Host) :
    ∃ below, (callsOf host levels).stmts = evalBody host below := by
  -- The number of levels does not matter, and must not be computed.
  have hlevels : levels = 2 * depthLimit + 3 + 1 := rfl
  rw [hlevels, callsOf]
  exact ⟨_, rfl⟩

theorem start_again (source : Source) :
    ({ Machine.start source with template := source.name, parent := none } : Machine) =
      Machine.start source := rfl

theorem render_ok {source : Source} {m' : Machine} (hparent : m'.parent = none)
    (h : ∀ calls, evalBody host calls source.body (Machine.start source) = .ok (.next, m')) :
    source.render host = .ok m'.output := by
  obtain ⟨below, hbelow⟩ := callsOf_stmts host
  have hrun : ∃ last, runSource (callsOf host levels) source (Machine.start source) =
      .ok ((), last) ∧ last.output = m'.output := by
    unfold runSource
    rw [bind_ok (get_eq _), bind_ok (set_eq _ _), start_again, hbelow, bind_ok (h below),
      bind_ok (get_eq _), hparent]
    exact ⟨_, rfl, rfl⟩
  obtain ⟨last, hlast, houtput⟩ := hrun
  unfold Source.render
  rw [StateT.run, hlast, ← houtput]
  rfl

theorem render_error {source : Source} {failure : Failure}
    (h : ∀ calls, evalBody host calls source.body (Machine.start source) = .error failure) :
    source.render host = .error failure := by
  obtain ⟨below, hbelow⟩ := callsOf_stmts host
  have hrun : runSource (callsOf host levels) source (Machine.start source) = .error failure := by
    unfold runSource
    rw [bind_ok (get_eq _), bind_ok (set_eq _ _), start_again, hbelow, bind_error (h below)]
  unfold Source.render
  rw [StateT.run, hrun]
  rfl

/-- A text without blocks whose statements write a text is rendered as that text. -/
theorem renderNamed_wrote {load : String → Loaded} {name text result : String} {stmts : List Stmt}
    (hparse : Source.parse name text = .ok ⟨name, stmts, []⟩)
    (hrun : ∀ calls m, AtTop m → evalBody { context := contextOf env, load } calls stmts m =
      .ok (.next, m.wrote result)) : renderNamed load env name text = .ok result := by
  let source : Source := ⟨name, stmts, []⟩
  have hrender : source.render { context := contextOf env, load } =
      .ok ((Machine.start source).wrote result).output :=
    render_ok rfl fun calls => hrun calls _ (atTop_start source)
  have houtput : ((Machine.start source).wrote result).output = result := String.empty_append
  unfold renderNamed
  rw [hparse]
  exact houtput ▸ hrender

/-- Text whose names are known is rendered as the text with the names filled in. -/
theorem renderNamed_filled (load : String → Loaded) (name : String) {letter : FormLetter}
    {value : String → String}
    (h : ∀ hole ∈ letter.holes, shown? env hole.name = some (value hole.name)) :
    renderNamed load env name letter.text = .ok (letter.filled value) := by
  refine renderNamed_wrote (parse_text letter name) fun calls m htop => ?_
  rw [FormLetter.stmts, evalBody_raw htop, evalBody_filled rfl (htop.wrote _) h,
    Machine.wrote_wrote, String.ofList_toList, FormLetter.filled]

/-- Text with an unknown name is not rendered. -/
theorem renderNamed_unknown (load : String → Loaded) (name : String) {letter : FormLetter}
    (h : ∃ hole ∈ letter.holes, shown? env hole.name = none) :
    ∃ place, renderNamed load env name letter.text =
      .error { kind := .undefinedValue, template := some name, line := some place } := by
  let source : Source := ⟨name, letter.stmts, []⟩
  let host : Host := { context := contextOf env, load }
  have htop : AtTop (Machine.start source) := atTop_start source
  obtain ⟨place, hplace⟩ := evalBody_unknown h (1 + Lexeme.lineEnds letter.lead.toList)
  have hrun : ∀ calls, evalBody host calls letter.stmts (Machine.start source) =
      .error { kind := .undefinedValue, template := some name, line := some place } := by
    intro calls
    rw [FormLetter.stmts, evalBody_raw htop, hplace host calls _ rfl (htop.wrote _)]
    rfl
  have hrender : source.render host =
      .error { kind := .undefinedValue, template := some name, line := some place } :=
    render_error hrun
  refine ⟨place, ?_⟩
  unfold renderNamed
  rw [parse_text]
  exact hrender

end Scaffold.Template

namespace Scaffold

open Template

/-! ### Texts and files -/

/-- Renderings that give the same text, or fail in the same way. -/
def SameRendering (a b : Except Error String) : Prop :=
  (∃ text, a = .ok text ∧ b = .ok text) ∨
    ∃ failure failure' : Failure, a = .error (.template failure) ∧
      b = .error (.template failure') ∧ failure.kind = failure'.kind

/-- A text with placeholders becomes the text with them filled in if their names are bound to
texts, whatever these are, and fails if a name is unknown. A file that holds the text is rendered
in the same way, whatever its name. -/
theorem letter_rendering (letter : FormLetter) (env : Environment) :
    (∀ value : String → String,
      (∀ hole ∈ letter.holes, env.get? hole.name = some (.text (value hole.name))) →
        expandText env letter.text = .ok (letter.filled value)) ∧
    ((∃ hole ∈ letter.holes, env.get? hole.name = none ∧ global? hole.name = none) →
      ∃ failure, expandText env letter.text = .error (.template failure) ∧
        failure.kind = .undefinedValue) ∧
    ∀ (fs : FileSystem) (root : Path) (relative : String),
      fs.readText (root.join relative) = .ok letter.text →
        SameRendering (renderFile fs root relative env) (expandText env letter.text) := by
  refine ⟨fun value h => ?_, fun h => ?_, fun fs root relative hread => ?_⟩
  · have hfilled : expand env letter.text = .ok (letter.filled value) :=
      renderNamed_filled _ inlineName fun hole hmem => shown?_of_text (h hole hmem)
    rw [expandText, hfilled]
  · obtain ⟨hole, hmem, hnone⟩ := h
    obtain ⟨place, hplace⟩ := renderNamed_unknown (fun _ => .missing) inlineName
      ⟨hole, hmem, shown?_eq_none.2 hnone⟩
    refine ⟨{ kind := .undefinedValue, template := some inlineName, line := some place }, ?_, rfl⟩
    rw [expandText, expand, hplace]
  · unfold renderFile expandText expand
    rw [hread]
    dsimp only
    by_cases hknown : ∃ hole ∈ letter.holes, shown? env hole.name = none
    · obtain ⟨place, hplace⟩ := renderNamed_unknown (loadBelow fs root) relative hknown
      obtain ⟨place', hplace'⟩ := renderNamed_unknown (fun _ => .missing) inlineName hknown
      rw [hplace, hplace']
      exact .inr ⟨_, _, rfl, rfl, rfl⟩
    · have hvalue : ∀ hole ∈ letter.holes,
          shown? env hole.name = some ((shown? env hole.name).getD "") := by
        intro hole hmem
        obtain ⟨text, htext⟩ := Option.ne_none_iff_exists'.1 fun e => hknown ⟨hole, hmem, e⟩
        rw [htext, Option.getD_some]
      have hname : ∀ load name, renderNamed load env name letter.text =
          .ok (letter.filled fun name => (shown? env name).getD "") :=
        fun load name => renderNamed_filled load name hvalue
      rw [hname, hname]
      exact .inl ⟨_, rfl, rfl⟩

/-- A literal that ends in half a marker, and a value that looks like a placeholder. -/
def sampleLetter : FormLetter where
  lead := "a$"
  holes := [{
    before := " "
    name := "n"
    behind := "\x7d\n"
    before_blank := List.all_eq_true.1 rfl
    after_blank := List.all_eq_true.1 rfl
    name_identifier := ⟨'n', [], rfl, rfl, List.all_eq_true.1 rfl⟩
    name_free := by decide
    behind_free := ⟨by decide, by decide, by decide⟩ }]
  lead_free := ⟨by decide, by decide, by decide⟩

/-- The text in a file whose name asks for markup. -/
def sampleMarkup : FileSystem := { entries := [(["a.html"], .file sampleLetter.text.toUTF8)] }

theorem letter_rendering_of_sample :
    expandText ⟨[("n", .text "$\x7bn\x7d<")]⟩ sampleLetter.text = .ok "a$$\x7bn\x7d<\x7d\n" ∧
    (∃ failure, expandText ⟨[]⟩ sampleLetter.text = .error (.template failure) ∧
      failure.kind = .undefinedValue) ∧
    SameRendering (renderFile sampleMarkup ⟨"/"⟩ "a.html" ⟨[("n", .text "$\x7bn\x7d<")]⟩)
      (expandText ⟨[("n", .text "$\x7bn\x7d<")]⟩ sampleLetter.text) := by
  obtain ⟨hfilled, -, hfile⟩ := letter_rendering sampleLetter ⟨[("n", .text "$\x7bn\x7d<")]⟩
  obtain ⟨-, hunknown, -⟩ := letter_rendering sampleLetter ⟨[]⟩
  refine ⟨hfilled (fun _ => "$\x7bn\x7d<") (by decide),
    hunknown ⟨_, List.mem_singleton.2 rfl, rfl, rfl⟩, hfile sampleMarkup ⟨"/"⟩ "a.html" ?_⟩
  decide +kernel

end Scaffold
