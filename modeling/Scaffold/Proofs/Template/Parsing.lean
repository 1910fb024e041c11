import Scaffold.Proofs.Template.Lexing
import Scaffold.Template.Parser

/-! # The statements of texts with placeholders

  An operand whose next token neither continues it nor joins it to another one
  is the whole expression. So a text with placeholders is read as its literal
  texts and the values of its names, in order.

  - `sum_of_primary`, `expr_of_sum`: an operand on its own.
  - `ReadsAs.emit`: one more expression before statements.
  - `readsAs_holes`: statements, by induction on the placeholders.
  - `parse_text`: a whole text.
-/

namespace Scaffold.Template

/-- A computation that succeeds hands over to what follows it. -/
theorem bind_ok {σ α β : Type} {p : StateT σ Outcome α} {f : α → StateT σ Outcome β} {a : α}
    {s s' : σ} (h : p s = .ok (a, s')) : (p >>= f) s = f a s' := by
  simp only [bind, StateT.bind, h, Except.bind]

/-! ### Statements -/

/-- A copied text, unless it is empty, as statements. -/
def rawStmts (text : List Char) (line : Nat) : List Stmt :=
  if text.isEmpty then [] else [.raw (String.ofList text) line]

/-- The statements of placeholders that begin on a line. -/
def holesStmts (line : Nat) : List Hole → List Stmt
  | [] => []
  | h :: rest =>
    let named := line + Lexeme.lineEnds h.before.toList
    let closed := named + Lexeme.lineEnds h.after.toList
    .emit (.var h.name named) ::
      (rawStmts h.behind.toList closed ++
        holesStmts (closed + Lexeme.lineEnds h.behind.toList) rest)

/-- The statements of a text with placeholders. -/
def FormLetter.stmts (letter : FormLetter) : List Stmt :=
  rawStmts letter.lead.toList 1 ++
    holesStmts (1 + Lexeme.lineEnds letter.lead.toList) letter.holes

namespace Parser

variable {α : Type} {st st' : ParseState} {t : Token} {l : Nat} {rest : List Lexeme}
variable {fuel : Nat} {e : Expr}

/-! ### The next token -/

theorem modify_eq (f : ParseState → ParseState) (st : ParseState) :
    (modify f : Parser PUnit) st = .ok (.unit, f st) := rfl

theorem line_eq (h : st.ahead = ⟨t, l⟩ :: rest) : line st = .ok (l, st) := by
  simp [line, h]

/-- A token that is whole is seen. -/
theorem peek_eq (h : st.ahead = ⟨t, l⟩ :: rest) (ht : ∀ kind, t ≠ .broken kind) :
    peek st = .ok (some t, st) := by
  unfold peek
  rw [h]
  cases t with
  | broken kind => exact absurd rfl (ht kind)
  | _ => rfl

/-- A token that is whole is consumed. -/
theorem next_eq (h : st.ahead = ⟨t, l⟩ :: rest) (ht : ∀ kind, t ≠ .broken kind) :
    next st = .ok (some t, { st with ahead := rest, lastLine := l }) := by
  unfold next
  rw [bind_ok (peek_eq h ht), bind_ok (modify_eq _ st), h]
  rfl

/-! ### What is not next -/

theorem atSymbol_eq {s : Symbol} (h : st.ahead = ⟨t, l⟩ :: rest) (ht : ∀ kind, t ≠ .broken kind)
    (hs : t ≠ .symbol s) : atSymbol s st = .ok (false, st) := by
  unfold atSymbol
  rw [bind_ok (peek_eq h ht)]
  cases t with
  | symbol other =>
    have hne : s ≠ other := fun e => hs (e ▸ rfl)
    exact congrArg (fun found => Except.ok (found, st)) (decide_eq_false hne)
  | _ => rfl

theorem skipSymbol_eq {s : Symbol} (h : st.ahead = ⟨t, l⟩ :: rest) (ht : ∀ kind, t ≠ .broken kind)
    (hs : t ≠ .symbol s) : skipSymbol s st = .ok (false, st) := by
  unfold skipSymbol
  rw [bind_ok (atSymbol_eq h ht hs)]
  rfl

theorem skipWord_eq {word : String} (h : st.ahead = ⟨t, l⟩ :: rest)
    (ht : ∀ kind, t ≠ .broken kind) (hw : t ≠ .ident word) :
    skipWord word st = .ok (false, st) := by
  have hat : atWord word st = .ok (false, st) := by
    unfold atWord
    rw [bind_ok (peek_eq h ht)]
    cases t with
    | ident name =>
      have hne : name ≠ word := fun e => hw (e ▸ rfl)
      exact congrArg (fun found => Except.ok (found, st)) (decide_eq_false hne)
    | _ => rfl
  unfold skipWord
  rw [bind_ok hat]
  rfl

/-! ### Operands on their own -/

/-- A token with which an operand of a comparison ends. -/
def endsSum : Token → Bool
  | .variableEnd => true
  | .symbol s => (comparison? s).isSome
  | _ => false

theorem not_broken_of_endsSum (ht : endsSum t = true) (kind : FailureKind) :
    t ≠ .broken kind := by
  rintro rfl
  cases ht

theorem not_ident_of_endsSum (ht : endsSum t = true) (name : String) : t ≠ .ident name := by
  rintro rfl
  cases ht

theorem not_symbol_of_endsSum {s : Symbol} (ht : endsSum t = true) (hs : comparison? s = none) :
    t ≠ .symbol s := by
  rintro rfl
  simp [endsSum, hs] at ht

/-- No operator of a table that is free of comparisons ends an operand of a comparison. -/
theorem symbolIn_of_endsSum {table : List (Symbol × Operator)}
    (htable : ∀ pair ∈ table, comparison? pair.1 = none) (ht : endsSum t = true) :
    symbolIn table t = none := by
  cases t with
  | symbol s =>
    have hlookup : table.lookup s = none := by
      rw [List.lookup_eq_none_iff]
      rintro pair hpair
      have hne : s ≠ pair.1 := fun e => not_symbol_of_endsSum ht (e ▸ htable pair hpair) rfl
      simpa using hne
    simp [symbolIn, hlookup]
  | _ => rfl

/-- An operand before a token that is no operator is read alone. -/
theorem operators_eq {operand : Parser Expr} {operator? : Token → Option (Expr → Expr → Nat → Expr)}
    {first t' : Token} {start l' : Nat} {rest' : List Lexeme} (fuel : Nat)
    (hfirst : st.ahead = ⟨first, start⟩ :: rest) (h : operand st = .ok (e, st'))
    (hnext : st'.ahead = ⟨t', l'⟩ :: rest') (ht : ∀ kind, t' ≠ .broken kind)
    (hnone : operator? t' = none) : operators operand operator? fuel st = .ok (e, st') := by
  unfold operators
  rw [bind_ok (line_eq hfirst), bind_ok h]
  cases fuel with
  | zero => rfl
  | succ fuel =>
    unfold leftAssoc
    rw [bind_ok (peek_eq hnext ht)]
    simp only [Option.bind_some, hnone]
    rfl

/-- A reader one level deeper gives what it gives. -/
theorem nested_eq {p : Parser α} {a : α} (hdepth : st.depth < depthLimit)
    (h : p { st with depth := st.depth + 1 } = .ok (a, st')) :
    nested p st = .ok (a, { st' with depth := st.depth }) := by
  have hget : (get : Parser ParseState) st = .ok (st, st) := rfl
  have hset : (set { st with depth := st.depth + 1 } : Parser PUnit) st =
      .ok (.unit, { st with depth := st.depth + 1 }) := rfl
  unfold nested
  rw [bind_ok hget, if_neg (Nat.not_le.2 hdepth), bind_ok hset, bind_ok h,
    bind_ok (modify_eq _ st')]
  rfl

theorem members_eq {start : Nat} (h : st.ahead = ⟨t, l⟩ :: rest) (ht : endsSum t = true) :
    members (fuel + 1) start e st = .ok (e, st) := by
  have hwhole := not_broken_of_endsSum ht
  unfold members
  rw [bind_ok (skipSymbol_eq h hwhole (not_symbol_of_endsSum ht rfl))]
  simp only [Bool.false_eq_true, if_false]
  rw [bind_ok (skipSymbol_eq h hwhole (not_symbol_of_endsSum ht rfl))]
  simp only [Bool.false_eq_true, if_false]
  rw [bind_ok (atSymbol_eq h hwhole (not_symbol_of_endsSum ht rfl))]
  rfl

theorem filters_eq (h : st.ahead = ⟨t, l⟩ :: rest) (ht : endsSum t = true) :
    filters (fuel + 1) e st = .ok (e, st) := by
  have hwhole := not_broken_of_endsSum ht
  unfold filters
  rw [bind_ok (skipSymbol_eq h hwhole (not_symbol_of_endsSum ht rfl))]
  simp only [Bool.false_eq_true, if_false]
  rw [bind_ok (skipWord_eq h hwhole (not_ident_of_endsSum ht _))]
  rfl

section

variable {first t' : Token} {l' : Nat} {rest' : List Lexeme}

/-- A literal or name before the end of a sum is the whole sum. -/
theorem sum_of_primary (hfirst : st.ahead = ⟨first, l⟩ :: rest)
    (hwhole : ∀ kind, first ≠ .broken kind) (hminus : first ≠ .symbol .minus)
    (hdepth : st.depth < depthLimit)
    (h : primary fuel { st with depth := st.depth + 1 } = .ok (e, st'))
    (hnext : st'.ahead = ⟨t', l'⟩ :: rest') (ht : endsSum t' = true) :
    sum (fuel + 6) st = .ok (e, { st' with depth := st.depth }) := by
  have hwhole' := not_broken_of_endsSum ht
  have hback : ParseState.ahead { st' with depth := st.depth } = ⟨t', l'⟩ :: rest' := hnext
  -- From here on each kind of operator, from the tightest to the loosest, finds none of its own.
  have hsign : sign (fuel + 1) st = .ok (e, { st' with depth := st.depth }) := by
    unfold sign
    rw [bind_ok (line_eq hfirst), bind_ok (skipSymbol_eq hfirst hwhole hminus)]
    exact nested_eq hdepth h
  have hsigned : signed (fuel + 2) st = .ok (e, { st' with depth := st.depth }) := by
    unfold signed
    rw [bind_ok (line_eq hfirst), bind_ok hsign, bind_ok (members_eq hback ht)]
    exact filters_eq hback ht
  have hpower : power (fuel + 3) st = .ok (e, { st' with depth := st.depth }) := by
    rw [power]
    exact operators_eq _ hfirst hsigned hback hwhole' (symbolIn_of_endsSum (by decide) ht)
  have hproduct : product (fuel + 4) st = .ok (e, { st' with depth := st.depth }) := by
    rw [product]
    exact operators_eq _ hfirst hpower hback hwhole' (symbolIn_of_endsSum (by decide) ht)
  have hjoined : joined (fuel + 5) st = .ok (e, { st' with depth := st.depth }) := by
    rw [joined]
    exact operators_eq _ hfirst hproduct hback hwhole' (symbolIn_of_endsSum (by decide) ht)
  rw [sum]
  exact operators_eq _ hfirst hjoined hback hwhole' (symbolIn_of_endsSum (by decide) ht)

/-- What stands before the closing brace, if it is read up to the brace, is the whole expression:
there is no connective and no choice. -/
theorem expr_of_negation (hfirst : st.ahead = ⟨first, l⟩ :: rest) (hdepth : st.depth < depthLimit)
    (h : negation (fuel + 1) { st with depth := st.depth + 1 } = .ok (e, st'))
    (hnext : st'.ahead = ⟨.variableEnd, l'⟩ :: rest') :
    expr (fuel + 5) st = .ok (e, { st' with depth := st.depth }) := by
  have hend : ∀ kind, Token.variableEnd ≠ .broken kind := fun kind h => by cases h
  have hinside : ParseState.ahead { st with depth := st.depth + 1 } = ⟨first, l⟩ :: rest := hfirst
  have hconjunction : conjunction (fuel + 2) { st with depth := st.depth + 1 } = .ok (e, st') := by
    rw [conjunction]
    exact operators_eq _ hinside h hnext hend rfl
  have hdisjunction : disjunction (fuel + 3) { st with depth := st.depth + 1 } = .ok (e, st') := by
    rw [disjunction]
    exact operators_eq _ hinside hconjunction hnext hend rfl
  have htail : ∀ start, choiceTail (fuel + 3) start e st' = .ok (e, st') := by
    intro start
    unfold choiceTail
    rw [bind_ok (skipWord_eq hnext hend fun h => by cases h)]
    rfl
  have hchoice : choice (fuel + 4) { st with depth := st.depth + 1 } = .ok (e, st') := by
    unfold choice
    rw [bind_ok (line_eq hinside), bind_ok hdisjunction]
    exact htail l
  rw [expr]
  exact nested_eq hdepth hchoice

/-- Before the closing brace a chain of comparisons ends. -/
theorem links_end (operand : Parser Expr) (hnext : st.ahead = ⟨.variableEnd, l'⟩ :: rest') :
    links operand fuel st = .ok ([], st) := by
  cases fuel with
  | zero => rfl
  | succ fuel =>
    have hskip : skipComparison st = .ok (none, st) := by
      unfold skipComparison
      rw [bind_ok (peek_eq hnext nofun)]
      rfl
    unfold links
    rw [bind_ok hskip]
    rfl

/-- A sum before the closing brace is the whole expression. -/
theorem expr_of_sum (hfirst : st.ahead = ⟨first, l⟩ :: rest)
    (hwhole : ∀ kind, first ≠ .broken kind) (hnot : first ≠ .ident "not")
    (hdepth : st.depth < depthLimit)
    (h : sum fuel { st with depth := st.depth + 1 } = .ok (e, st'))
    (hnext : st'.ahead = ⟨.variableEnd, l'⟩ :: rest') :
    expr (fuel + 5) st = .ok (e, { st' with depth := st.depth }) := by
  have hinside : ParseState.ahead { st with depth := st.depth + 1 } = ⟨first, l⟩ :: rest := hfirst
  have hnegation : negation (fuel + 1) { st with depth := st.depth + 1 } = .ok (e, st') := by
    unfold negation
    rw [bind_ok (line_eq hinside), bind_ok (skipWord_eq hinside hwhole hnot)]
    simp only [Bool.false_eq_true, if_false]
    rw [bind_ok h, bind_ok (links_end _ hnext)]
    rfl
  exact expr_of_negation hfirst hdepth hnegation hnext

end

/-! ### Names -/

/-- A name that is no keyword is read as the name of a value. -/
theorem primary_name {name : String} (h : st.ahead = ⟨.ident name, l⟩ :: rest)
    (hfree : name ∉ keywords) :
    primary (fuel + 1) st = .ok (.var name l, { st with ahead := rest, lastLine := l }) := by
  unfold primary
  rw [bind_ok (line_eq h), bind_ok (next_eq h nofun)]
  dsimp only
  split <;> first | exact absurd (by decide) hfree | rfl

/-- A name that fills the braces is the whole expression. -/
theorem expr_name {name : String} {l' : Nat} {rest' : List Lexeme}
    (h : st.ahead = ⟨.ident name, l⟩ :: ⟨.variableEnd, l'⟩ :: rest')
    (hfree : name ∉ keywords) (hdepth : st.depth + 1 < depthLimit) :
    expr (fuel + 12) st = .ok (.var name l,
      { st with ahead := ⟨.variableEnd, l'⟩ :: rest', lastLine := l }) := by
  have hnot : Token.ident name ≠ .ident "not" := by
    rintro heq
    exact hfree (Token.ident.inj heq ▸ by decide)
  have hinside : ParseState.ahead { st with depth := st.depth + 1 } =
      ⟨.ident name, l⟩ :: ⟨.variableEnd, l'⟩ :: rest' := h
  have hprimary : primary (fuel + 1) { st with depth := st.depth + 1 + 1 } = .ok (.var name l,
      { st with depth := st.depth + 1 + 1, ahead := ⟨.variableEnd, l'⟩ :: rest', lastLine := l }) :=
    primary_name h hfree
  have hsum : sum (fuel + 7) { st with depth := st.depth + 1 } = .ok (.var name l,
      { st with depth := st.depth + 1, ahead := ⟨.variableEnd, l'⟩ :: rest', lastLine := l }) :=
    sum_of_primary hinside nofun nofun hdepth hprimary rfl rfl
  exact expr_of_sum h nofun hnot (by omega) hsum rfl

/-! ### Bodies -/

/-- These lexemes are the rest of a template, and are read as these statements. The bound leaves
room for one more expression. -/
def ReadsAs (lexemes : List Lexeme) (stmts : List Stmt) : Prop :=
  ∀ (fuel : Nat) (done : List Stmt) (st : ParseState), st.ahead = lexemes → st.depth = 0 →
    lexemes.length + 12 ≤ fuel → ∃ last, body [] fuel done st =
      .ok (done.reverse ++ stmts, { st with ahead := [], lastLine := last })

theorem readsAs_nil : ReadsAs [] [] := by
  intro fuel done st h _ hfuel
  obtain ⟨fuel, rfl⟩ := Nat.exists_eq_add_of_le' hfuel
  have hpeek : peek st = .ok (none, st) := by
    unfold peek
    rw [h]
  have hnext : next st = .ok (none, st) := by
    unfold next
    rw [bind_ok hpeek, bind_ok (modify_eq _ st), h]
    rfl
  refine ⟨st.lastLine, ?_⟩
  have hline : line st = .ok (st.lastLine, st) := by simp [line, h]
  rw [List.length_nil, Nat.zero_add, body, bind_ok hline, bind_ok hnext, List.append_nil, ← h]
  rfl

variable {lexemes : List Lexeme} {stmts : List Stmt}

theorem ReadsAs.data (h : ReadsAs lexemes stmts) (text : List Char) (l : Nat) :
    ReadsAs (Lexeme.dataLexeme text l ++ lexemes) (rawStmts text l ++ stmts) := by
  unfold Lexeme.dataLexeme rawStmts
  cases text.isEmpty with
  | true => exact h
  | false =>
    intro fuel done st hahead hdepth hfuel
    obtain ⟨fuel, rfl⟩ := Nat.exists_eq_add_of_le' (show 1 ≤ fuel by omega)
    obtain ⟨last, hbody⟩ := h fuel (.raw (String.ofList text) l :: done)
      { st with ahead := lexemes, lastLine := l } rfl hdepth (by simp at hfuel; omega)
    refine ⟨last, ?_⟩
    rw [body, bind_ok (line_eq hahead), bind_ok (next_eq hahead nofun)]
    simpa using hbody

/-- An expression that is read up to its brace is written. -/
theorem ReadsAs.emit (h : ReadsAs lexemes stmts) (inside : List Lexeme) (l closed : Nat)
    (hexpr : ∀ (fuel : Nat) (st : ParseState),
      st.ahead = inside ++ ⟨.variableEnd, closed⟩ :: lexemes → st.depth = 0 →
        ∃ last, expr (fuel + 12) st =
          .ok (e, { st with ahead := ⟨.variableEnd, closed⟩ :: lexemes, lastLine := last })) :
    ReadsAs (⟨.variableStart, l⟩ :: (inside ++ ⟨.variableEnd, closed⟩ :: lexemes))
      (.emit e :: stmts) := by
  intro fuel done st hahead hdepth hfuel
  -- One step for the statement and twelve levels of the grammar for the expression.
  obtain ⟨fuel, rfl⟩ := Nat.exists_eq_add_of_le' (show 13 ≤ fuel by simp at hfuel; omega)
  obtain ⟨last, hbody⟩ := h (fuel + 12) (.emit e :: done)
    { st with ahead := lexemes, lastLine := closed } rfl hdepth (by simp at hfuel; omega)
  obtain ⟨lastInside, hinside⟩ := hexpr fuel
    { st with ahead := inside ++ ⟨.variableEnd, closed⟩ :: lexemes, lastLine := l } rfl hdepth
  have hend : next { st with ahead := ⟨.variableEnd, closed⟩ :: lexemes, lastLine := lastInside } =
      .ok (some .variableEnd, { st with ahead := lexemes, lastLine := closed }) :=
    next_eq rfl nofun
  refine ⟨last, ?_⟩
  rw [body, bind_ok (line_eq hahead), bind_ok (next_eq hahead nofun)]
  dsimp only
  rw [bind_ok hinside, bind_ok hend]
  simpa using hbody

theorem ReadsAs.name (h : ReadsAs lexemes stmts) {name : String} (hfree : name ∉ keywords)
    (l named closed : Nat) :
    ReadsAs (⟨.variableStart, l⟩ :: ⟨.ident name, named⟩ :: ⟨.variableEnd, closed⟩ :: lexemes)
      (.emit (.var name named) :: stmts) :=
  h.emit [⟨.ident name, named⟩] l closed fun fuel st hahead hdepth =>
    ⟨named, expr_name hahead hfree (by rw [hdepth]; decide)⟩

/-- The induction is on the placeholders; the text behind each one is read before the rest. -/
theorem readsAs_holes (holes : List Hole) (line : Nat) :
    ReadsAs (holesLexemes line holes) (holesStmts line holes) := by
  induction holes generalizing line with
  | nil => exact readsAs_nil
  | cons h rest ih => exact ((ih _).data _ _).name h.name_free _ _ _

end Parser

/-- A text whose lexemes are read as statements is a template of these, without blocks. -/
theorem parse_of_readsAs {text : String} {lexemes : List Lexeme} {stmts : List Stmt}
    (hlexemes : Lexeme.ofTemplate text = lexemes) (h : Parser.ReadsAs lexemes stmts)
    (name : String) : Source.parse name text = .ok ⟨name, stmts, []⟩ := by
  obtain ⟨last, hbody⟩ := h (32 * (lexemes.length + 2)) [] { ahead := lexemes } rfl rfl (by omega)
  unfold Source.parse
  rw [hlexemes]
  simp only [StateT.run, hbody]
  rfl

/-- The template of a text with placeholders has no blocks, and its statements are the texts and
names in order. -/
theorem parse_text (letter : FormLetter) (name : String) :
    Source.parse name letter.text = .ok ⟨name, letter.stmts, []⟩ :=
  parse_of_readsAs (ofTemplate_text letter) ((Parser.readsAs_holes letter.holes _).data _ _) name

end Scaffold.Template
