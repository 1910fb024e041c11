import Scaffold.Proofs.Template.Filling

/-! # Conditions that compare a name with a literal

  A literal between single quotes that holds neither a quote nor a backslash
  stands for itself, whatever delimiters are in it. A comparison of a name with
  such a literal becomes `true` or `false`. So a condition that consists of the
  comparison alone holds as the comparison does, and one with any text around the
  comparison never holds.

  - `Comparing`: a comparison with the text around it.
  - `ofTemplate_comparing`, `parse_comparing`: its lexemes and its statements.
  - `equality_condition`: the conditions on equality and on its opposite.
-/

namespace Scaffold.Template

open Lexeme

/-! ### Comparisons of a name with a literal -/

/-- A comparison of a name with a literal, and the text around it. -/
structure Comparing where
  /-- The literal text before the comparison. -/
  lead : String := ""
  /-- The name. -/
  name : String
  /-- What the name is compared with. -/
  word : String
  /-- The literal text behind the comparison. -/
  trail : String := ""
  name_identifier : IsIdentifier name
  name_free : name ∉ keywords
  word_plain : ∀ c ∈ word.toList, c ≠ '\'' ∧ c ≠ '\\'
  lead_free : MarkerFree lead.toList := by exact ⟨by decide, by decide, by decide⟩
  trail_free : MarkerFree trail.toList := by exact ⟨by decide, by decide, by decide⟩

/-- How a comparison is written, and which one it is. -/
structure IsSign (sign : String) (symbol : Symbol) (op : Comparison) : Prop where
  /-- Two characters are read as one symbol. -/
  written : ∃ first second, sign.toList = [first, second] ∧ longSymbol? first second = some symbol
  /-- The symbol compares. -/
  meaning : Parser.comparison? symbol = some op

/-- The text of a comparison by a sign. -/
def Comparing.text (c : Comparing) (sign : String) : String :=
  c.lead ++ "$\x7b " ++ c.name ++ " " ++ sign ++ " '" ++ c.word ++ "' \x7d" ++ c.trail

/-- The line of the comparison. -/
def Comparing.start (c : Comparing) : Nat := 1 + lineEnds c.lead.toList

/-- The line where the comparison ends: the literal can take several lines. -/
def Comparing.closed (c : Comparing) : Nat := c.start + lineEnds c.word.toList

/-- The lexemes between the delimiters. -/
def Comparing.inside (c : Comparing) (symbol : Symbol) : List Lexeme :=
  [⟨.ident c.name, c.start⟩, ⟨.symbol symbol, c.start⟩, ⟨.str c.word, c.start⟩]

/-- The lexemes of a comparison. -/
def Comparing.lexemes (c : Comparing) (symbol : Symbol) : List Lexeme :=
  dataLexeme c.lead.toList 1 ++ ⟨.variableStart, c.start⟩ ::
    (c.inside symbol ++ ⟨.variableEnd, c.closed⟩ :: dataLexeme c.trail.toList c.closed)

/-- The expression between the delimiters. -/
def Comparing.expr (c : Comparing) (op : Comparison) : Expr :=
  .chain (.var c.name c.start) [.mk op (.const (.ofText c.word) c.start)] c.start

/-- The statements of a comparison. -/
def Comparing.stmts (c : Comparing) (op : Comparison) : List Stmt :=
  rawStmts c.lead.toList 1 ++ .emit (c.expr op) :: rawStmts c.trail.toList c.closed

/-! ### Literals -/

/-- A literal ends at the first quote, and delimiters in it end nothing. -/
theorem literalBody_plain {cs : List Char} (h : ∀ c ∈ cs, c ≠ '\'' ∧ c ≠ '\\')
    (rest : List Char) : literalBody '\'' (cs ++ '\'' :: rest) = some (cs, rest) := by
  induction cs with
  | nil =>
    rw [List.nil_append, literalBody.eq_def]
    exact if_pos rfl
  | cons c more ih =>
    obtain ⟨⟨hquote, hslash⟩, hmore⟩ := List.forall_mem_cons.1 h
    rw [List.cons_append, literalBody.eq_def]
    simp only [if_neg hquote, if_neg hslash, ih hmore, Option.map_some]

/-- Text without backslashes has no escapes. -/
theorem unescape_plain {cs : List Char} (h : ∀ c ∈ cs, c ≠ '\\') :
    unescape cs.length none cs = some cs := by
  induction cs with
  | nil => rfl
  | cons c more ih =>
    obtain ⟨hslash, hmore⟩ := List.forall_mem_cons.1 h
    rw [List.length_cons, unescape]
    · simp [ih hmore]
    · exact fun heq _ => hslash heq
    · exact fun _ _ heq _ => hslash heq

theorem inner_literal {word : String} (h : ∀ c ∈ word.toList, c ≠ '\'' ∧ c ≠ '\\')
    (rest : List Char) :
    Lexeme.inner '\'' (word.toList ++ '\'' :: rest) = (.str word, rest) := by
  have hlong : (word.toList ++ '\'' :: rest).head?.bind (longSymbol? '\'') = none := by
    cases (word.toList ++ '\'' :: rest).head? <;> rfl
  have hliteral : literal '\'' (word.toList ++ '\'' :: rest) = (.str word, rest) := by
    unfold literal
    rw [literalBody_plain h]
    simp only [unescape_plain fun c hc => (h c hc).2, String.ofList_toList]
  unfold Lexeme.inner
  rw [hlong, hliteral]
  rfl

/-! ### Lexemes -/

/-- The sign of a comparison is one symbol. -/
theorem scan_sign {sign : String} {symbol : Symbol} {op : Comparison} (h : IsSign sign symbol op)
    (fuel line : Nat) (rest : List Char) :
    scan (fuel + 1) (.variable 0) line ([' '] ++ (sign.toList ++ rest)) =
      ⟨.symbol symbol, line⟩ :: scan fuel (.variable 0) line rest := by
  obtain ⟨⟨first, second, hchars, hsymbol⟩, -⟩ := h
  have hinner : Lexeme.inner first ([second] ++ rest) = (.symbol symbol, rest) := by
    simp [Lexeme.inner, hsymbol]
  -- No symbol of two characters is a bracket, and none ends an expression.
  have hplain : isInnerBlank first = false ∧ first ∉ ['-', '+', '%', '\x7d'] ∧
      lineEnds [first, second] = 0 ∧ bracketChange symbol = 0 := by
    unfold longSymbol? at hsymbol
    split at hsymbol <;> cases hsymbol <;> decide
  obtain ⟨hblank, hopen, hline, hbracket⟩ := hplain
  have hstep := scan_token isInnerBlank_space hblank hopen hinner nofun
    (fun s hs => by cases hs; exact hbracket) fuel line 0
  rw [hline] at hstep
  rw [hchars]
  exact hstep

/-- A literal is one token, whatever delimiters it holds. -/
theorem scan_literal {word : String} (h : ∀ c ∈ word.toList, c ≠ '\'' ∧ c ≠ '\\')
    (fuel line : Nat) (rest : List Char) :
    scan (fuel + 1) (.variable 0) line ([' '] ++ '\'' :: (word.toList ++ '\'' :: rest)) =
      ⟨.str word, line⟩ :: scan fuel (.variable 0) (line + lineEnds word.toList) rest := by
  have hinner : Lexeme.inner '\'' ((word.toList ++ ['\'']) ++ rest) = (.str word, rest) := by
    rw [List.append_assoc]
    exact inner_literal h rest
  have hline : lineEnds ('\'' :: (word.toList ++ ['\''])) = lineEnds word.toList := by
    simp [lineEnds]
  have hstep := scan_token isInnerBlank_space rfl (by decide) hinner nofun nofun fuel line 0
  rw [hline, List.append_assoc] at hstep
  exact hstep

theorem toList_comparing (c : Comparing) (sign : String) :
    (c.text sign).toList = c.lead.toList ++ '$' :: '\x7b' :: ([' '] ++ (c.name.toList ++
      ([' '] ++ (sign.toList ++ ([' '] ++ '\'' :: (c.word.toList ++
        '\'' :: ([' '] ++ '\x7d' :: c.trail.toList))))))) := by
  simp [Comparing.text]

/-- The lexemes of a comparison. -/
theorem ofTemplate_comparing (c : Comparing) {sign : String} {symbol : Symbol} {op : Comparison}
    (h : IsSign sign symbol op) : ofTemplate (c.text sign) = c.lexemes symbol := by
  -- The opening delimiter, the name, the sign, the literal and the brace are one step each, and
  -- the text behind them is another one.
  have hlong : 6 ≤ (c.text sign).length + 1 := by
    rw [← String.length_toList, toList_comparing]
    simp
    omega
  obtain ⟨fuel, hfuel⟩ := Nat.exists_eq_add_of_le' hlong
  have hstop : ∀ d, (([' '] : List Char) ++ (sign.toList ++ ([' '] ++ '\'' :: (c.word.toList ++
      '\'' :: ([' '] ++ '\x7d' :: c.trail.toList))))).head? = some d → isNamePart d = false := by
    intro d hd
    cases hd
    rfl
  unfold ofTemplate Comparing.lexemes
  rw [hfuel, toList_comparing, scan]
  simp only [splitAtMarker_hole c.lead_free,
    openingSign_of_name c.name_identifier isInnerBlank_space,
    scan_name c.name_identifier isInnerBlank_space hstop, scan_sign h, scan_literal c.word_plain,
    scan_close isInnerBlank_space]
  rw [scan]
  simp only [splitAtMarker_free c.trail_free]
  rfl

/-! ### Statements -/

namespace Parser

variable {st : ParseState} {t : Token} {l l' : Nat} {rest : List Lexeme}
variable {word name : String} {symbol : Symbol} {op : Comparison}

/-- A literal before the end of a sum is one constant. -/
theorem primary_literal (h : st.ahead = ⟨.str word, l⟩ :: ⟨t, l'⟩ :: rest)
    (ht : endsSum t = true) (fuel : Nat) :
    primary (fuel + 1) st = .ok (.const (.ofText word) l,
      { st with ahead := ⟨t, l'⟩ :: rest, lastLine := l }) := by
  have hmore : moreText fuel word { st with ahead := ⟨t, l'⟩ :: rest, lastLine := l } =
      .ok (word, { st with ahead := ⟨t, l'⟩ :: rest, lastLine := l }) := by
    cases fuel with
    | zero => rfl
    | succ fuel =>
      unfold moreText
      rw [bind_ok (peek_eq rfl (not_broken_of_endsSum ht))]
      cases t with
      | str text => cases ht
      | _ => rfl
  unfold primary
  rw [bind_ok (line_eq h), bind_ok (next_eq h nofun)]
  dsimp only
  rw [bind_ok hmore]
  rfl

theorem skipComparison_eq (h : st.ahead = ⟨.symbol symbol, l⟩ :: rest)
    (hop : comparison? symbol = some op) :
    skipComparison st = .ok (some op, { st with ahead := rest, lastLine := l }) := by
  unfold skipComparison
  rw [bind_ok (peek_eq h nofun)]
  dsimp only
  rw [hop]
  dsimp only
  rw [bind_ok (next_eq h nofun)]
  rfl

/-- One level deeper, behind a lexeme of a line. -/
def within (st : ParseState) (l : Nat) (ahead : List Lexeme) : ParseState :=
  { st with depth := st.depth + 1, ahead, lastLine := l }

/-- A comparison of a name with a literal that fills the braces is the whole expression. -/
theorem expr_compared
    (h : st.ahead = [⟨.ident name, l⟩, ⟨.symbol symbol, l⟩, ⟨.str word, l⟩] ++
      ⟨.variableEnd, l'⟩ :: rest)
    (hfree : name ∉ keywords) (hop : comparison? symbol = some op)
    (hdepth : st.depth + 1 < depthLimit) (fuel : Nat) :
    expr (fuel + 12) st = .ok (.chain (.var name l) [.mk op (.const (.ofText word) l)] l,
      { st with ahead := ⟨.variableEnd, l'⟩ :: rest, lastLine := l }) := by
  have hnot : Token.ident name ≠ .ident "not" := by
    rintro heq
    exact hfree (Token.ident.inj heq ▸ by decide)
  have hname : ∀ kind, Token.ident name ≠ .broken kind := fun kind heq => by cases heq
  have hword : ∀ kind, Token.str word ≠ .broken kind := fun kind heq => by cases heq
  have hunsigned : Token.ident name ≠ .symbol .minus ∧ Token.str word ≠ .symbol .minus :=
    ⟨fun heq => (by cases heq), fun heq => (by cases heq)⟩
  have hends : endsSum (.symbol symbol) = true := by simp [endsSum, hop]
  have hinside : ParseState.ahead { st with depth := st.depth + 1 } =
      ⟨.ident name, l⟩ :: ⟨.symbol symbol, l⟩ :: ⟨.str word, l⟩ :: ⟨.variableEnd, l'⟩ :: rest := h
  have hleft : sum (fuel + 7) { st with depth := st.depth + 1 } = .ok (.var name l,
      within st l (⟨.symbol symbol, l⟩ :: ⟨.str word, l⟩ :: ⟨.variableEnd, l'⟩ :: rest)) :=
    sum_of_primary hinside hname hunsigned.1 hdepth (primary_name h hfree) rfl hends
  have hbehind : (within st l (⟨.str word, l⟩ :: ⟨.variableEnd, l'⟩ :: rest)).ahead =
      ⟨.str word, l⟩ :: ⟨.variableEnd, l'⟩ :: rest := rfl
  have hright : sum (fuel + 7) (within st l (⟨.str word, l⟩ :: ⟨.variableEnd, l'⟩ :: rest)) =
      .ok (.const (.ofText word) l, within st l (⟨.variableEnd, l'⟩ :: rest)) :=
    sum_of_primary hbehind hword hunsigned.2 hdepth (primary_literal rfl rfl fuel) rfl rfl
  have hlinks : links (sum (fuel + 7)) (fuel + 7)
      (within st l (⟨.symbol symbol, l⟩ :: ⟨.str word, l⟩ :: ⟨.variableEnd, l'⟩ :: rest)) =
        .ok ([.mk op (.const (.ofText word) l)], within st l (⟨.variableEnd, l'⟩ :: rest)) := by
    have hskip : skipComparison
        (within st l (⟨.symbol symbol, l⟩ :: ⟨.str word, l⟩ :: ⟨.variableEnd, l'⟩ :: rest)) =
          .ok (some op, within st l (⟨.str word, l⟩ :: ⟨.variableEnd, l'⟩ :: rest)) :=
      skipComparison_eq rfl hop
    rw [links, bind_ok hskip]
    dsimp only
    rw [bind_ok hright, bind_ok (links_end _ rfl)]
    rfl
  have hnegation : negation (fuel + 8) { st with depth := st.depth + 1 } =
      .ok (.chain (.var name l) [.mk op (.const (.ofText word) l)] l,
        within st l (⟨.variableEnd, l'⟩ :: rest)) := by
    unfold negation
    rw [bind_ok (line_eq hinside), bind_ok (skipWord_eq hinside hname hnot)]
    simp only [Bool.false_eq_true, if_false]
    rw [bind_ok hleft, bind_ok hlinks]
    rfl
  exact expr_of_negation h (by omega) hnegation rfl

end Parser

/-- A comparison is read as the text before it, its value and the text behind it. -/
theorem parse_comparing (c : Comparing) {sign : String} {symbol : Symbol} {op : Comparison}
    (h : IsSign sign symbol op) (name : String) :
    Source.parse name (c.text sign) = .ok ⟨name, c.stmts op, []⟩ := by
  have htrail : Parser.ReadsAs (dataLexeme c.trail.toList c.closed)
      (rawStmts c.trail.toList c.closed) := by
    simpa using Parser.readsAs_nil.data c.trail.toList c.closed
  have hread : Parser.ReadsAs (⟨.variableStart, c.start⟩ ::
      (c.inside symbol ++ ⟨.variableEnd, c.closed⟩ :: dataLexeme c.trail.toList c.closed))
      (.emit (c.expr op) :: rawStmts c.trail.toList c.closed) :=
    htrail.emit _ _ _ fun fuel st hahead hdepth => ⟨c.start,
      Parser.expr_compared hahead c.name_free h.meaning (by rw [hdepth]; decide) fuel⟩
  exact parse_of_readsAs (ofTemplate_comparing c h) (hread.data c.lead.toList 1) name

/-! ### Values -/

variable {host : Host} {calls : Calls} {m : Machine} {env : Environment} {v : String}

/-- Equality of texts is equality. -/
theorem apply_eq (s t : String) : Comparison.eq.apply (.ofText s) (.ofText t) = .ok (s == t) := rfl

theorem apply_ne (s t : String) :
    Comparison.ne.apply (.ofText s) (.ofText t) = .ok (!(s == t)) := rfl

/-- Texts are compared as they are. -/
theorem compareValues_text {op : Comparison} {s t : String} {holds : Bool}
    (h : op.apply (.ofText s) (.ofText t) = .ok holds) :
    compareValues op (.ofText s) (.ofText t) m = .ok (holds, m) := by
  have hleft : resolved (.ofText s) m = .ok (.ofText s, m) := rfl
  have hright : resolved (.ofText t) m = .ok (.ofText t, m) := rfl
  have hbound : ∀ text, bound (.ofText text) m = .ok ((), m) := fun _ => rfl
  unfold compareValues
  rw [bind_ok (hbound s), bind_ok (hbound t), bind_ok hleft, bind_ok hright, h]
  rfl

/-- A chain of one comparison is whether it holds. -/
theorem evalExpr_compared {c : Comparing} {op : Comparison} {holds : Bool} (h : AtTop m)
    (hcontext : host.context = contextOf env) (hget : env.get? c.name = some (.text v))
    (happly : op.apply (.ofText v) (.ofText c.word) = .ok holds) :
    evalExpr host calls (c.expr op) m = .ok (.bool holds, m) := by
  have hlookup : m.lookup host c.name = some (.ofText v) := by
    rw [h.lookup_env hcontext, hget]
    rfl
  have hname : evalExpr host calls (.var c.name c.start) m = .ok (.ofText v, m) := by
    rw [evalExpr_var, hlookup, Option.getD_some]
  have hword : evalExpr host calls (.const (.ofText c.word) c.start) m =
      .ok (.ofText c.word, m) := by
    rw [evalExpr]
    rfl
  have hlocated : located (Expr.const (.ofText c.word) c.start).settled
      (compareValues op (.ofText v) (.ofText c.word)) m = .ok (holds, m) := by
    simp only [located, compareValues_text happly]
  have hlinks : evalLinks host calls (.ofText v) [.mk op (.const (.ofText c.word) c.start)] m =
      .ok (holds, m) := by
    rw [evalLinks, bind_ok hword, bind_ok hlocated]
    cases holds with
    | false => rfl
    | true =>
      rw [if_pos rfl, evalLinks]
      rfl
  rw [Comparing.expr, evalExpr, bind_ok hname, bind_ok hlinks]
  rfl

/-- A comparison becomes the word for its truth, between the texts around it. -/
theorem expand_comparing (c : Comparing) {sign : String} {symbol : Symbol} {op : Comparison}
    {holds : Bool} (h : IsSign sign symbol op) (hget : env.get? c.name = some (.text v))
    (happly : op.apply (.ofText v) (.ofText c.word) = .ok holds) :
    expand env (c.text sign) = .ok (c.lead ++ (if holds then "true" else "false") ++ c.trail) := by
  refine renderNamed_wrote (parse_comparing c h inlineName) fun calls m htop => ?_
  have htext : ∀ m' : Machine, resultText (.bool holds) m' =
      .ok (if holds then "true" else "false", m') := fun _ => rfl
  have hnothing : rawStmts c.trail.toList c.closed = rawStmts c.trail.toList c.closed ++ [] := by
    simp
  rw [Comparing.stmts, evalBody_raw htop, evalBody_cons (evalStmt_emit (htop.wrote _)
    (evalExpr_compared (htop.wrote _) rfl hget happly) (htext _)), hnothing,
    evalBody_raw ((htop.wrote _).wrote _), evalBody, Machine.wrote_wrote, Machine.wrote_wrote,
    String.ofList_toList, String.ofList_toList, String.append_assoc]
  rfl

end Scaffold.Template

namespace Scaffold

open Template

/-! ### Conditions -/

theorem isSign_equal : IsSign "==" .equal .eq := ⟨⟨'=', '=', rfl, rfl⟩, rfl⟩

theorem isSign_notEqual : IsSign "!=" .notEqual .ne := ⟨⟨'!', '=', rfl, rfl⟩, rfl⟩

/-- No word for a truth value is shorter than `true`, so with any text around it it is longer. -/
theorem surrounded_eq_true_iff {lead trail : String} {holds : Bool} :
    lead ++ (if holds then "true" else "false") ++ trail = "true" ↔
      lead = "" ∧ trail = "" ∧ holds = true := by
  constructor
  · intro heq
    have hlength := congrArg String.length heq
    cases holds with
    | false =>
      have hword : ("false" : String).length = 5 := rfl
      have htrue : ("true" : String).length = 4 := rfl
      simp only [Bool.false_eq_true, if_false, String.length_append] at hlength
      omega
    | true =>
      simp only [if_true, String.length_append] at hlength
      exact ⟨String.length_eq_zero_iff.1 (by omega), String.length_eq_zero_iff.1 (by omega), rfl⟩
  · rintro ⟨rfl, rfl, rfl⟩
    rfl

/-- As a condition a comparison holds if there is no text around it and what it says is true. -/
theorem conditionHolds_comparing (c : Comparing) {env : Environment} {v sign : String}
    {symbol : Symbol} {op : Comparison} {holds : Bool} (h : IsSign sign symbol op)
    (hget : env.get? c.name = some (.text v))
    (happly : op.apply (.ofText v) (.ofText c.word) = .ok holds) :
    conditionHolds env (c.text sign) =
      .ok (decide (c.lead = "" ∧ c.trail = "" ∧ holds = true)) := by
  have htrue : Template.isTrue env (c.text sign) =
      .ok (c.lead ++ (if holds then "true" else "false") ++ c.trail == "true") := by
    unfold Template.isTrue
    rw [expand_comparing c h hget happly]
    rfl
  unfold conditionHolds
  rw [htrue]
  simp only [beq_eq_decide, surrounded_eq_true_iff]

/-- A condition that compares a name for equality with a literal holds exactly if what the name
stands for is the literal, and the opposite condition exactly if it is not, whatever delimiters and
ends of lines the literal holds. With any text before or behind it neither holds. -/
theorem equality_condition (c : Comparing) (env : Environment) (v : String)
    (h : env.get? c.name = some (.text v)) :
    conditionHolds env (c.text "==") =
      .ok (decide (c.lead = "" ∧ c.trail = "" ∧ v = c.word)) ∧
    conditionHolds env (c.text "!=") =
      .ok (decide (c.lead = "" ∧ c.trail = "" ∧ v ≠ c.word)) := by
  constructor
  · rw [conditionHolds_comparing c isSign_equal h (apply_eq v c.word)]
    simp only [beq_iff_eq]
  · rw [conditionHolds_comparing c isSign_notEqual h (apply_ne v c.word)]
    simp only [Bool.not_eq_true', beq_eq_false_iff_ne]

/-- A literal that holds every delimiter and the end of a line. -/
def hardWord : String := "\x7d$\x7b\x7b%%\x7d#\x7d\n\""

theorem hardWord_plain : ∀ c ∈ hardWord.toList, c ≠ '\'' ∧ c ≠ '\\' := by
  simp [hardWord]

/-- A comparison with this literal, alone in its condition. -/
def hardCondition : Comparing where
  name := "kind"
  word := hardWord
  name_identifier := ⟨'k', ['i', 'n', 'd'], rfl, rfl, List.all_eq_true.1 rfl⟩
  name_free := by decide
  word_plain := hardWord_plain

/-- The same condition with the end of a line behind it. -/
def hardConditionOnLine : Comparing :=
  { hardCondition with
    trail := "\n"
    trail_free := ⟨by decide, by decide, by decide⟩ }

/-- The name of the condition, bound to a text. -/
def boundTo (v : String) : Environment := ⟨[("kind", .text v)]⟩

theorem equality_condition_of_hardCondition :
    conditionHolds (boundTo hardWord) (hardCondition.text "==") = .ok true ∧
      conditionHolds (boundTo "\x7d") (hardCondition.text "!=") = .ok true ∧
      conditionHolds (boundTo hardWord) (hardConditionOnLine.text "==") = .ok false := by
  obtain ⟨hequal, -⟩ := equality_condition hardCondition (boundTo hardWord) _ rfl
  obtain ⟨-, hdiffers⟩ := equality_condition hardCondition (boundTo "\x7d") _ rfl
  obtain ⟨hline, -⟩ := equality_condition hardConditionOnLine (boundTo hardWord) _ rfl
  exact ⟨hequal.trans (congrArg _ (by decide)), hdiffers.trans (congrArg _ (by decide)),
    hline.trans (congrArg _ (by decide))⟩

end Scaffold
