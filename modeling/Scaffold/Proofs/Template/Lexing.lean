import Mathlib.Data.List.Infix
import Scaffold.Proofs.Text.Spans
import Scaffold.Template.Lexeme

/-! # The lexemes of texts with placeholders

  A text with placeholders is literal text with names between `${` and `}`. The
  literal text can be anything that holds no marker, also if it ends in half of
  one. Its lexemes are the literal texts, as they are, and three lexemes for
  every placeholder.

  - `Hole`, `FormLetter`: a placeholder with the text behind it, and a whole text.
  - `splitAtMarker_hole`: literal text ends at the marker behind it.
  - `ofTemplate_text`: the lexemes of a text with placeholders.
-/

namespace Scaffold.Template

open Lexeme

/-! ### Texts with placeholders -/

/-- Text in which no expression, statement or comment begins. -/
structure MarkerFree (cs : List Char) : Prop where
  /-- No expression begins. -/
  no_variable : ¬ ['$', '\x7b'] <:+: cs
  /-- No statement begins. -/
  no_block : ¬ ['\x7b', '%'] <:+: cs
  /-- No comment begins. -/
  no_comment : ¬ ['\x7b', '#'] <:+: cs

/-- A letter or underscore and then letters, digits and underscores, all of them ASCII. -/
def IsIdentifier (name : String) : Prop :=
  ∃ first rest, name.toList = first :: rest ∧ isNameStart first = true ∧
    ∀ c ∈ rest, isNamePart c = true

/-- The words that are no name where an expression begins. -/
def keywords : List String := ["true", "True", "false", "False", "none", "None", "not"]

/-- A placeholder, and the literal text behind it. -/
structure Hole where
  /-- Blanks before the name. -/
  before : String := ""
  /-- The name. -/
  name : String
  /-- Blanks behind the name. -/
  after : String := ""
  /-- The literal text behind the placeholder. -/
  behind : String
  before_blank : ∀ c ∈ before.toList, isInnerBlank c = true
  after_blank : ∀ c ∈ after.toList, isInnerBlank c = true
  name_identifier : IsIdentifier name
  name_free : name ∉ keywords
  behind_free : MarkerFree behind.toList

/-- A text with placeholders. -/
structure FormLetter where
  /-- The literal text before the first placeholder. -/
  lead : String
  /-- The placeholders. -/
  holes : List Hole
  lead_free : MarkerFree lead.toList

/-- The text of a placeholder and of what is behind it. -/
def Hole.text (h : Hole) : String :=
  "$\x7b" ++ h.before ++ h.name ++ h.after ++ "\x7d" ++ h.behind

/-- The text of placeholders. -/
def holesText : List Hole → String
  | [] => ""
  | h :: rest => h.text ++ holesText rest

/-- The whole text. -/
def FormLetter.text (letter : FormLetter) : String := letter.lead ++ holesText letter.holes

theorem toList_holesText_cons (h : Hole) (rest : List Hole) :
    (holesText (h :: rest)).toList = '$' :: '\x7b' :: (h.before.toList ++ (h.name.toList ++
      (h.after.toList ++ '\x7d' :: (h.behind.toList ++ (holesText rest).toList)))) := by
  simp [holesText, Hole.text]

/-! ### Lexemes -/

/-- The lexemes of placeholders that begin on a line. -/
def holesLexemes (line : Nat) : List Hole → List Lexeme
  | [] => []
  | h :: rest =>
    let named := line + lineEnds h.before.toList
    let closed := named + lineEnds h.after.toList
    ⟨.variableStart, line⟩ :: ⟨.ident h.name, named⟩ :: ⟨.variableEnd, closed⟩ ::
      (dataLexeme h.behind.toList closed ++
        holesLexemes (closed + lineEnds h.behind.toList) rest)

/-- The lexemes of a text with placeholders. -/
def FormLetter.lexemes (letter : FormLetter) : List Lexeme :=
  dataLexeme letter.lead.toList 1 ++ holesLexemes (1 + lineEnds letter.lead.toList) letter.holes

/-! ### Literal text -/

theorem MarkerFree.of_cons {c : Char} {cs : List Char} (h : MarkerFree (c :: cs)) :
    MarkerFree cs where
  no_variable := fun hinfix => h.no_variable (List.infix_cons hinfix)
  no_block := fun hinfix => h.no_block (List.infix_cons hinfix)
  no_comment := fun hinfix => h.no_comment (List.infix_cons hinfix)

/-- Text without markers is read to its end. -/
theorem splitAtMarker_free {cs : List Char} (h : MarkerFree cs) :
    splitAtMarker cs = (cs, none) := by
  induction cs with
  | nil => rfl
  | cons c rest ih =>
    unfold splitAtMarker
    split
    · exact absurd ⟨[], _, rfl⟩ h.no_variable
    · exact absurd ⟨[], _, rfl⟩ h.no_block
    · exact absurd ⟨[], _, rfl⟩ h.no_comment
    · rw [ih h.of_cons]

/-- Two characters that follow each other, the second of which is not the beginning of what is
behind the text, both belong to the text. -/
theorem infix_of_append_eq {c second : Char} {rest behind tail : List Char} (hne : '$' ≠ second)
    (h : rest ++ '$' :: behind = second :: tail) : [c, second] <:+: c :: rest := by
  cases rest with
  | nil => exact absurd (List.cons.inj h).1 hne
  | cons d more =>
    obtain ⟨rfl, -⟩ := List.cons.inj h
    exact ⟨[], more, rfl⟩

/-- Text without markers is read up to the expression behind it. Half a marker at its end makes no
whole one. -/
theorem splitAtMarker_hole {cs : List Char} (h : MarkerFree cs) (behind : List Char) :
    splitAtMarker (cs ++ '$' :: '\x7b' :: behind) = (cs, some (.variable, behind)) := by
  induction cs with
  | nil => rfl
  | cons c rest ih =>
    rw [List.cons_append]
    unfold splitAtMarker
    split
    · next heq => exact absurd (infix_of_append_eq (by decide) heq) h.no_variable
    · next heq => exact absurd (infix_of_append_eq (by decide) heq) h.no_block
    · next heq => exact absurd (infix_of_append_eq (by decide) heq) h.no_comment
    · rw [ih h.of_cons]

/-! ### Names between blanks -/

theorem isInnerBlank_space : ∀ c ∈ [' '], isInnerBlank c = true := List.all_eq_true.1 rfl

theorem shortSymbol?_of_isNameStart {c : Char} (h : isNameStart c = true) :
    shortSymbol? c = none := by
  unfold shortSymbol?
  split <;> first | rfl | exact absurd h (by decide)

theorem longSymbol?_of_isNameStart {c : Char} (h : isNameStart c = true) (d : Char) :
    longSymbol? c d = none := by
  unfold longSymbol?
  split <;> first | rfl | exact absurd h (by decide)

/-- What begins with none of these characters is not the end of an expression or statement. -/
theorem closing_of_not_mem {c : Char} (h : c ∉ ['-', '+', '%', '\x7d']) (mode : Mode)
    (rest : List Char) : closing mode (c :: rest) = none := by
  unfold closing
  split <;>
    first | rfl | (next heq => obtain ⟨rfl, -⟩ := List.cons.inj heq; exact absurd (by decide) h)

theorem not_isInnerBlank_of_isNameStart {c : Char} (h : isNameStart c = true) :
    isInnerBlank c = false := by
  refine Bool.eq_false_iff.2 fun hblank => ?_
  unfold isInnerBlank at hblank
  simp only [Bool.or_eq_true, beq_iff_eq] at hblank
  rcases hblank with (((rfl | rfl) | rfl) | rfl) | rfl <;> exact absurd h (by decide)

theorem not_isNamePart_of_isInnerBlank {c : Char} (h : isInnerBlank c = true) :
    isNamePart c = false := by
  unfold isInnerBlank at h
  simp only [Bool.or_eq_true, beq_iff_eq] at h
  rcases h with (((rfl | rfl) | rfl) | rfl) | rfl <;> rfl

theorem isNamePart_of_isNameStart {c : Char} (h : isNameStart c = true) : isNamePart c = true := by
  unfold isNameStart at h
  unfold isNamePart Char.isAlphanum
  rw [Bool.or_eq_true] at h ⊢
  exact h.imp_left fun halpha => by simp [halpha]

/-- A name is read up to what cannot go on with it. -/
theorem inner_of_identifier {first : Char} {rest more : List Char}
    (hfirst : isNameStart first = true) (hrest : ∀ c ∈ rest, isNamePart c = true)
    (hmore : ∀ c, more.head? = some c → isNamePart c = false) :
    Lexeme.inner first (rest ++ more) = (.ident (String.ofList (first :: rest)), more) := by
  have hspan := Text.span_run hrest hmore
  rw [List.span_eq_takeWhile_dropWhile] at hspan
  obtain ⟨htake, hdrop⟩ := Prod.mk.inj hspan
  have hquote : ¬ (first = '\'' ∨ first = '"') := by
    rintro (rfl | rfl) <;> exact absurd hfirst (by decide)
  -- The letters and the underscore are none of the digits.
  have hdigit : first.isDigit = false := by
    refine Bool.eq_false_iff.2 fun hdigit => ?_
    unfold isNameStart Char.isAlpha Char.isUpper Char.isLower at hfirst
    unfold Char.isDigit at hdigit
    simp only [Bool.or_eq_true, Bool.and_eq_true, decide_eq_true_eq, beq_iff_eq, ge_iff_le,
      UInt32.le_iff_toNat_le] at hfirst hdigit
    have hnine : '9'.val.toNat = 57 := rfl
    have hupper : 'A'.val.toNat = 65 := rfl
    have hlower : 'a'.val.toNat = 97 := rfl
    rcases hfirst with (h | h) | rfl
    · omega
    · omega
    · exact absurd hdigit (by decide)
  unfold Lexeme.inner
  have hlong : ((rest ++ more).head?.bind (longSymbol? first)) = none := by
    cases (rest ++ more).head? with
    | none => rfl
    | some d => exact longSymbol?_of_isNameStart hfirst d
  simp only [hlong, shortSymbol?_of_isNameStart hfirst]
  rw [if_neg hquote, if_neg (by simp [hdigit]), if_pos hfirst, htake, hdrop]

/-- No line ends in a name. -/
theorem lineEnds_of_nameParts {cs : List Char} (h : ∀ c ∈ cs, isNamePart c = true) :
    lineEnds cs = 0 :=
  List.count_eq_zero.2 fun hmem => absurd (h _ hmem) (by decide)

/-- A token that is no bracket is read behind the blanks before it, unless the expression ends
there. -/
theorem scan_token {c : Char} {before more rest : List Char} {t : Token}
    (hbefore : ∀ d ∈ before, isInnerBlank d = true) (hc : isInnerBlank c = false)
    (hopen : c ∉ ['-', '+', '%', '\x7d']) (h : Lexeme.inner c (more ++ rest) = (t, rest))
    (hwhole : ∀ kind, t ≠ .broken kind) (hbracket : ∀ s, t = .symbol s → bracketChange s = 0)
    (fuel line : Nat) (balance : Int) :
    scan (fuel + 1) (.variable balance) line (before ++ c :: (more ++ rest)) =
      ⟨t, line + lineEnds before⟩ :: scan fuel (.variable balance)
        (line + lineEnds before + lineEnds (c :: more)) rest := by
  have hspan : (before ++ c :: (more ++ rest)).span isInnerBlank = (before, c :: (more ++ rest)) :=
    Text.span_run hbefore fun d hd => by
      cases hd
      exact hc
  have hread : (c :: (more ++ rest)).take ((c :: (more ++ rest)).length - rest.length) =
      c :: more := by
    rw [← List.cons_append, List.length_append, Nat.add_sub_cancel, List.take_left]
  rw [scan]
  · simp only [hspan, closing_of_not_mem hopen, h, hread]
    cases t with
    | broken kind => exact absurd rfl (hwhole kind)
    | symbol s => simp only [hbracket s rfl, Int.add_zero]
    | _ => rfl
  · exact nofun

/-- A placeholder's name is read between its blanks. -/
theorem scan_name {name : String} {before more : List Char} (hname : IsIdentifier name)
    (hbefore : ∀ c ∈ before, isInnerBlank c = true)
    (hmore : ∀ c, more.head? = some c → isNamePart c = false) (fuel line : Nat) (balance : Int) :
    scan (fuel + 1) (.variable balance) line (before ++ (name.toList ++ more)) =
      ⟨.ident name, line + lineEnds before⟩ ::
        scan fuel (.variable balance) (line + lineEnds before) more := by
  obtain ⟨first, rest, hchars, hfirst, hrest⟩ := hname
  have hsigns : ['-', '+', '%', '\x7d'].all (fun c => !isNameStart c) = true := rfl
  have hopen : first ∉ ['-', '+', '%', '\x7d'] := by
    intro hmem
    have hsign := List.all_eq_true.1 hsigns first hmem
    rw [hfirst] at hsign
    cases hsign
  have hlines : lineEnds (first :: rest) = 0 := lineEnds_of_nameParts
    (List.forall_mem_cons.2 ⟨isNamePart_of_isNameStart hfirst, hrest⟩)
  have hback : String.ofList (first :: rest) = name := by rw [← hchars, String.ofList_toList]
  rw [hchars, List.cons_append, scan_token hbefore (not_isInnerBlank_of_isNameStart hfirst) hopen
    (inner_of_identifier hfirst hrest hmore) nofun nofun, hback, hlines, Nat.add_zero]

/-- The brace behind a name ends the placeholder. -/
theorem scan_close {after : List Char} (hafter : ∀ c ∈ after, isInnerBlank c = true)
    (fuel line : Nat) (behind : List Char) :
    scan (fuel + 1) (.variable 0) line (after ++ '\x7d' :: behind) =
      ⟨.variableEnd, line + lineEnds after⟩ :: scan fuel .data (line + lineEnds after) behind := by
  have hspan : (after ++ '\x7d' :: behind).span isInnerBlank = (after, '\x7d' :: behind) :=
    Text.span_run hafter fun c hc => by
      cases hc
      rfl
  rw [scan]
  · simp only [hspan]
    rfl
  · exact nofun

/-! ### Whole texts -/

theorem openingSign_of_ne {c : Char} (hminus : c ≠ '-') (hplus : c ≠ '+') (rest : List Char) :
    openingSign (c :: rest) = (false, c :: rest) := by
  unfold openingSign
  split
  · next heq => exact absurd (List.cons.inj heq).1 hminus
  · next heq => exact absurd (List.cons.inj heq).1 hplus
  · rfl

/-- A blank or a letter behind the opening delimiter is no sign. -/
theorem openingSign_of_name {name : String} {before : List Char} (hname : IsIdentifier name)
    (hbefore : ∀ c ∈ before, isInnerBlank c = true) (more : List Char) :
    openingSign (before ++ (name.toList ++ more)) = (false, before ++ (name.toList ++ more)) := by
  obtain ⟨first, rest, hchars, hfirst, -⟩ := hname
  rw [hchars]
  cases before with
  | nil =>
    refine openingSign_of_ne ?_ ?_ _ <;> (rintro rfl; exact absurd hfirst (by decide))
  | cons c blanks =>
    have hc := hbefore c (List.mem_cons_self ..)
    refine openingSign_of_ne ?_ ?_ _ <;> (rintro rfl; exact absurd hc (by decide))

/-- The text behind a placeholder's brace is literal, so it is read with the placeholders behind
it; the induction is on these. -/
theorem scan_holes (holes : List Hole) : ∀ {lead : List Char}, MarkerFree lead →
    ∀ fuel line, (lead ++ (holesText holes).toList).length < fuel →
      scan fuel .data line (lead ++ (holesText holes).toList) =
        dataLexeme lead line ++ holesLexemes (line + lineEnds lead) holes := by
  induction holes with
  | nil =>
    intro lead hfree fuel line hfuel
    obtain ⟨fuel, rfl⟩ := Nat.exists_eq_succ_of_ne_zero (by omega : fuel ≠ 0)
    simp [holesText, holesLexemes, scan, splitAtMarker_free hfree]
  | cons h rest ih =>
    intro lead hfree fuel line hfuel
    rw [toList_holesText_cons] at hfuel ⊢
    -- The delimiters and the name take three steps, and are at least three characters.
    have hlong : 3 ≤ fuel := by simp at hfuel; omega
    obtain ⟨fuel, rfl⟩ := Nat.exists_eq_add_of_le' hlong
    -- Behind the name is a blank or the brace.
    have hstop : ∀ c,
        (h.after.toList ++ '\x7d' :: (h.behind.toList ++ (holesText rest).toList)).head?
        = some c → isNamePart c = false := by
      intro c hc
      cases hafter : h.after.toList with
      | nil =>
        rw [hafter] at hc
        cases hc
        rfl
      | cons d blanks =>
        rw [hafter] at hc
        cases hc
        exact not_isNamePart_of_isInnerBlank (h.after_blank c (by simp [hafter]))
    have hrest : (h.behind.toList ++ (holesText rest).toList).length < fuel := by
      simp at hfuel ⊢
      omega
    rw [scan]
    simp only [splitAtMarker_hole hfree, openingSign_of_name h.name_identifier h.before_blank,
      scan_name h.name_identifier h.before_blank hstop, scan_close h.after_blank,
      ih h.behind_free _ _ hrest]
    rfl

/-- The lexemes of a text with placeholders. -/
theorem ofTemplate_text (letter : FormLetter) : ofTemplate letter.text = letter.lexemes := by
  have htext : letter.text.toList = letter.lead.toList ++ (holesText letter.holes).toList :=
    String.toList_append
  unfold ofTemplate FormLetter.lexemes
  rw [htext]
  exact scan_holes letter.holes letter.lead_free _ _ (by
    rw [← htext, String.length_toList]
    exact Nat.lt_succ_self _)

end Scaffold.Template
