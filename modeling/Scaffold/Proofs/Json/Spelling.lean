import Mathlib.Tactic.IntervalCases
import Scaffold.Json.Parser
import Scaffold.Proofs.Text.Spans

/-! # Strings and numbers of JSON, as they are written

  A string can be written in many ways: a character stands for itself, for an
  escape of one letter, or for four hexadecimal digits; one beyond the first
  plane is a pair of such escapes. A number has a whole part, and possibly a
  fraction and an exponent.

  - `WrittenUnits`, `Decoded`: the units of a string, and their characters.
  - `string_written`: a written string is read up to its closing quote.
  - `IsNumber`, `number_written`: a number is read up to what ends it.
-/

namespace Scaffold.Json

/-! ### Units -/

/-- A digit in base sixteen, in small or capital letters. -/
def IsHexDigit (c : Char) (v : Nat) : Prop :=
  "0123456789abcdef".toList[v]? = some c ∨ "0123456789ABCDEF".toList[v]? = some c

/-- The letters of escapes, with what they stand for. -/
def letterEscapes : List (Char × Char) :=
  [('"', '"'), ('\\', '\\'), ('/', '/'), ('b', '\x08'), ('f', '\x0c'), ('n', '\n'), ('r', '\r'),
   ('t', '\t')]

/-- The units of a string, and how they are written. -/
inductive WrittenUnits : List Unit → List Char → Prop
  /-- Nothing is left. -/
  | nil : WrittenUnits [] []
  /-- A character stands for itself. -/
  | plain {c : Char} {us : List Unit} {cs : List Char} (hquote : c ≠ '"') (hslash : c ≠ '\\')
      (hcontrol : 32 ≤ c.toNat) (rest : WrittenUnits us cs) :
      WrittenUnits (.char c :: us) (c :: cs)
  /-- An escape of one letter. -/
  | letter {e c : Char} {us : List Unit} {cs : List Char} (h : (e, c) ∈ letterEscapes)
      (rest : WrittenUnits us cs) : WrittenUnits (.char c :: us) ('\\' :: e :: cs)
  /-- An escape of four digits. -/
  | digits {a b c d : Char} {w x y z : Nat} {us : List Unit} {cs : List Char}
      (ha : IsHexDigit a w) (hb : IsHexDigit b x) (hc : IsHexDigit c y) (hd : IsHexDigit d z)
      (rest : WrittenUnits us cs) :
      WrittenUnits (.number (((w * 16 + x) * 16 + y) * 16 + z) :: us)
        ('\\' :: 'u' :: a :: b :: c :: d :: cs)

/-- The characters of units. The two halves of a pair stand next to each other. -/
inductive Decoded : List Unit → List Char → Prop
  /-- Nothing is left. -/
  | nil : Decoded [] []
  /-- A character. -/
  | char {c : Char} {us : List Unit} {cs : List Char} (rest : Decoded us cs) :
      Decoded (.char c :: us) (c :: cs)
  /-- A number that is no half of a pair. -/
  | number {n : Nat} {us : List Unit} {cs : List Char} (h : n < 0xD800 ∨ 0xDFFF < n)
      (rest : Decoded us cs) : Decoded (.number n :: us) (Char.ofNat n :: cs)
  /-- A pair. -/
  | pair {high low : Nat} {us : List Unit} {cs : List Char} (hhigh : 0xD800 ≤ high ∧ high ≤ 0xDBFF)
      (hlow : 0xDC00 ≤ low ∧ low ≤ 0xDFFF) (rest : Decoded us cs) :
      Decoded (.number high :: .number low :: us)
        (Char.ofNat (0x10000 + (high - 0xD800) * 0x400 + (low - 0xDC00)) :: cs)

/-- A digit is known by its place among the digits. -/
theorem hexValue?_eq {c : Char} {v : Nat} (h : IsHexDigit c v) : hexValue? c = some v := by
  have hv : v < 16 := by
    rcases h with h | h <;> exact (List.getElem?_eq_some_iff.1 h).1
  interval_cases v <;> rcases h with h | h <;> cases h <;> rfl

theorem characters?_of_decoded {us : List Unit} {cs : List Char} (h : Decoded us cs) :
    characters? us = some cs := by
  induction h with
  | nil => rfl
  | char rest ih => rw [characters?, ih, Option.map_some]
  | number h rest ih =>
    unfold characters?
    rw [if_neg (by omega), if_neg (by omega), ih, Option.map_some]
  | pair hhigh hlow rest ih =>
    unfold characters?
    rw [if_neg (by omega), if_pos hhigh]
    simp only [if_pos hlow, ih, Option.map_some]

theorem decoded_of_characters? {us : List Unit} {cs : List Char} (h : characters? us = some cs) :
    Decoded us cs := by
  fun_induction characters? us generalizing cs with
  | case1 =>
    cases h
    exact .nil
  | case2 c rest ih =>
    obtain ⟨more, hmore, rfl⟩ := Option.map_eq_some_iff.1 h
    exact .char (ih hmore)
  | case4 n hlow hhigh m rest hm ih =>
    obtain ⟨more, hmore, rfl⟩ := Option.map_eq_some_iff.1 h
    exact .pair hhigh hm (ih hmore)
  | case7 n rest hlow hhigh ih =>
    obtain ⟨more, hmore, rfl⟩ := Option.map_eq_some_iff.1 h
    exact .number (by omega) (ih hmore)
  | case3 | case5 | case6 => cases h

/-! ### Strings -/

/-- A written string is cut into its units up to the closing quote. -/
theorem units_written {us : List Unit} {cs : List Char} (h : WrittenUnits us cs)
    (rest : List Char) : units (cs ++ '"' :: rest) = some (us, rest) := by
  induction h with
  | nil => rfl
  | plain hquote hslash hcontrol _ ih =>
    rw [List.cons_append, units]
    · simp [hslash, Nat.not_lt.2 hcontrol, ih]
    all_goals simp [hquote, hslash]
  | letter h _ ih =>
    simp only [letterEscapes, List.mem_cons, Prod.mk.injEq, List.not_mem_nil, or_false] at h
    rcases h with ⟨rfl, rfl⟩ | ⟨rfl, rfl⟩ | ⟨rfl, rfl⟩ | ⟨rfl, rfl⟩ | ⟨rfl, rfl⟩ | ⟨rfl, rfl⟩ |
      ⟨rfl, rfl⟩ | ⟨rfl, rfl⟩ <;> simp [units, escaped?, ih]
  | digits ha hb hc hd _ ih =>
    simp [units, fourDigits?, hexValue?_eq ha, hexValue?_eq hb, hexValue?_eq hc, hexValue?_eq hd,
      ih]

/-- A string, and how it is written between its quotes. Half of a pair alone stands for nothing. -/
inductive WrittenString : Node → List Char → Prop
  /-- A text. -/
  | text {us : List Unit} {body cs : List Char} (h : WrittenUnits us body) (hd : Decoded us cs) :
      WrittenString (.scalar (.text (String.ofList cs))) body
  /-- No text. -/
  | half {us : List Unit} {body : List Char} (h : WrittenUnits us body)
      (hd : ∀ cs, ¬ Decoded us cs) : WrittenString .unreadable body

theorem string_written {node : Node} {body : List Char} (h : WrittenString node body)
    (rest : List Char) : string (body ++ '"' :: rest) = (node, some rest) := by
  cases h with
  | text h hd =>
    unfold string
    rw [units_written h rest]
    simp only [characters?_of_decoded hd]
  | half h hd =>
    unfold string
    rw [units_written h rest]
    dsimp only
    split
    · next cs hcs => exact absurd (decoded_of_characters? hcs) (hd cs)
    · rfl

/-- A text without quotes, backslashes and control characters can stand for itself. -/
theorem written_itself (s : String)
    (h : s.toList.all (fun c => c ≠ '"' ∧ c ≠ '\\' ∧ 32 ≤ c.toNat) = true) :
    WrittenString (.scalar (.text s)) s.toList := by
  have hboth : ∀ cs : List Char, cs.all (fun c => c ≠ '"' ∧ c ≠ '\\' ∧ 32 ≤ c.toNat) = true →
      WrittenUnits (cs.map .char) cs ∧ Decoded (cs.map .char) cs := by
    intro cs hcs
    induction cs with
    | nil => exact ⟨.nil, .nil⟩
    | cons c rest ih =>
      obtain ⟨hc, hrest⟩ := Bool.and_eq_true_iff.1 (List.all_cons.symm.trans hcs)
      obtain ⟨hquote, hslash, hcontrol⟩ := of_decide_eq_true hc
      obtain ⟨hwritten, hdecoded⟩ := ih hrest
      exact ⟨.plain hquote hslash hcontrol hwritten, .char hdecoded⟩
  obtain ⟨hwritten, hdecoded⟩ := hboth s.toList h
  have hstring := WrittenString.text hwritten hdecoded
  rwa [String.ofList_toList] at hstring

/-! ### Numbers -/

/-- At least one decimal digit. -/
def IsDigits (ds : List Char) : Prop := ds ≠ [] ∧ ∀ d ∈ ds, d.isDigit = true

/-- Digits that begin with a zero only if they are this zero. -/
def IsWhole (ds : List Char) : Prop := IsDigits ds ∧ (ds.head? = some '0' → ds = ['0'])

/-- Nothing, or a point and digits. -/
def IsFraction (cs : List Char) : Prop := cs = [] ∨ ∃ ds, IsDigits ds ∧ cs = '.' :: ds

/-- Nothing, or a letter, possibly a sign, and digits. -/
def IsExponent (cs : List Char) : Prop :=
  cs = [] ∨ ∃ e sign ds, (e = 'e' ∨ e = 'E') ∧ (sign = [] ∨ sign = ['-'] ∨ sign = ['+']) ∧
    IsDigits ds ∧ cs = e :: (sign ++ ds)

/-- A written number. -/
inductive IsNumber : List Char → Prop
  /-- Its parts. -/
  | mk {sign whole fraction exponent : List Char} (hsign : sign = [] ∨ sign = ['-'])
      (hwhole : IsWhole whole) (hfraction : IsFraction fraction) (hexponent : IsExponent exponent) :
      IsNumber (sign ++ (whole ++ (fraction ++ exponent)))

/-- What can follow a value: nothing, a blank, a comma or a closing bracket. -/
def Ends (rest : List Char) : Prop :=
  ∀ c, rest.head? = some c → isSpace c = true ∨ c = ',' ∨ c = ']' ∨ c = '\x7d'

theorem IsDigits.head_append {ds rest more : List Char} {c : Char} (h : IsDigits ds)
    (heq : ds ++ rest = c :: more) : c.isDigit = true := by
  cases ds with
  | nil => exact absurd rfl h.1
  | cons d others =>
    obtain ⟨rfl, -⟩ := List.cons.inj heq
    exact h.2 d (List.mem_cons_self ..)

theorem Ends.not_digit {rest : List Char} (h : Ends rest) (c : Char) (hc : rest.head? = some c) :
    c.isDigit = false ∧ c ≠ '.' ∧ c ≠ 'e' ∧ c ≠ 'E' := by
  rcases h c hc with hspace | rfl | rfl | rfl
  · simp only [isSpace, Bool.or_eq_true, beq_iff_eq] at hspace
    rcases hspace with ((rfl | rfl) | rfl) | rfl <;> decide
  all_goals decide

theorem scanWhole_written {ds rest : List Char} (h : IsWhole ds)
    (hrest : ∀ c, rest.head? = some c → c.isDigit = false) :
    scanWhole (ds ++ rest) = some (ds, rest) := by
  unfold scanWhole
  rw [Text.span_run h.1.2 hrest]
  split
  · next heq => exact absurd (Prod.mk.inj heq).1 h.1.1
  · next heq =>
    obtain ⟨hds, -⟩ := Prod.mk.inj heq
    rw [hds] at h
    cases h.2 rfl
  · rfl

theorem scanFraction_written {fs : List Char} (h : IsFraction fs) :
    ∃ fraction, ∀ rest : List Char,
      (∀ c, rest.head? = some c → c.isDigit = false ∧ c ≠ '.') →
        scanFraction (fs ++ rest) = some (fraction, rest) := by
  rcases h with rfl | ⟨ds, hds, rfl⟩
  · refine ⟨none, fun rest hrest => ?_⟩
    rw [List.nil_append]
    unfold scanFraction
    split
    · exact absurd rfl (hrest '.' rfl).2
    · rfl
  · refine ⟨some ds, fun rest hrest => ?_⟩
    rw [List.cons_append, scanFraction, Text.span_run hds.2 fun c hc => (hrest c hc).1]
    split
    · next heq => exact absurd (Prod.mk.inj heq).1 hds.1
    · next heq =>
      obtain ⟨rfl, rfl⟩ := Prod.mk.inj heq
      rfl

theorem scanPower_written (negative : Bool) {ds : List Char} (hds : IsDigits ds) :
    ∃ exponent, ∀ rest : List Char, Ends rest →
      scanPower negative (ds ++ rest) = some (exponent, rest) := by
  refine ⟨some (if negative then -(naturalOf ds : Int) else naturalOf ds), fun rest hrest => ?_⟩
  unfold scanPower
  rw [Text.span_run hds.2 fun c hc => (hrest.not_digit c hc).1]
  split
  · next heq => exact absurd (Prod.mk.inj heq).1 hds.1
  · next heq =>
    obtain ⟨rfl, rfl⟩ := Prod.mk.inj heq
    rfl

theorem scanExponent_written {es : List Char} (h : IsExponent es) :
    ∃ exponent, ∀ rest : List Char, Ends rest →
      scanExponent (es ++ rest) = some (exponent, rest) := by
  rcases h with rfl | ⟨e, sign, ds, he, hsign, hds, rfl⟩
  · refine ⟨none, fun rest hrest => ?_⟩
    cases rest with
    | nil => rfl
    | cons c more =>
      obtain ⟨-, -, hsmall, hcapital⟩ := hrest.not_digit c rfl
      rw [List.nil_append]
      unfold scanExponent
      dsimp only
      rw [if_neg (by simp [hsmall, hcapital])]
  · -- Either letter begins an exponent.
    have hletter : ∀ more, scanExponent (e :: more) = scanExponent ('e' :: more) := by
      intro more
      unfold scanExponent
      dsimp only
      rw [if_pos he, if_pos (.inl rfl)]
    simp only [List.cons_append, List.append_assoc, hletter]
    rcases hsign with rfl | rfl | rfl
    · obtain ⟨exponent, h⟩ := scanPower_written false hds
      refine ⟨exponent, fun rest hrest => ?_⟩
      rw [List.nil_append]
      unfold scanExponent
      dsimp only
      rw [if_pos (.inl rfl)]
      split
      · next heq => exact absurd (hds.head_append heq) (by decide)
      · next heq => exact absurd (hds.head_append heq) (by decide)
      · exact h rest hrest
    · obtain ⟨exponent, h⟩ := scanPower_written true hds
      exact ⟨exponent, h⟩
    · obtain ⟨exponent, h⟩ := scanPower_written false hds
      exact ⟨exponent, h⟩

/-- A number is cut off where something else begins. -/
theorem scan_written {cs : List Char} (h : IsNumber cs) :
    ∃ numeral, ∀ rest, Ends rest → scan (cs ++ rest) = some (numeral, rest) := by
  obtain ⟨hsign, hwhole, hfraction, hexponent⟩ := h
  rename_i sign whole fraction exponent
  obtain ⟨f, hf⟩ := scanFraction_written hfraction
  obtain ⟨e, he⟩ := scanExponent_written hexponent
  have hbehind : ∀ rest, Ends rest → ∀ c, (exponent ++ rest).head? = some c →
      c.isDigit = false ∧ c ≠ '.' := by
    intro rest hrest c hc
    rcases hexponent with rfl | ⟨letter, _, _, hletter, -, -, rfl⟩
    · exact ⟨(hrest.not_digit c hc).1, (hrest.not_digit c hc).2.1⟩
    · cases hc
      rcases hletter with rfl | rfl <;> decide
  have hpoint : ∀ rest, Ends rest → ∀ c, (fraction ++ (exponent ++ rest)).head? = some c →
      c.isDigit = false := by
    intro rest hrest c hc
    rcases hfraction with rfl | ⟨ds, -, rfl⟩
    · exact (hbehind rest hrest c hc).1
    · cases hc
      rfl
  rcases hsign with rfl | rfl
  · refine ⟨⟨false, whole, f, e⟩, fun rest hrest => ?_⟩
    simp only [List.append_assoc, List.nil_append]
    obtain ⟨d, more, rfl⟩ := List.exists_cons_of_ne_nil hwhole.1.1
    have hunsigned : d ≠ '-' := by
      rintro rfl
      exact absurd (hwhole.1.2 _ (List.mem_cons_self ..)) (by decide)
    have hscan := scanWhole_written hwhole (hpoint rest hrest)
    rw [List.cons_append] at hscan ⊢
    simp [scan, hunsigned, hscan, hf _ (hbehind rest hrest), he rest hrest]
  · refine ⟨⟨true, whole, f, e⟩, fun rest hrest => ?_⟩
    simp only [List.append_assoc, List.cons_append, List.nil_append]
    simp [scan, scanWhole_written hwhole (hpoint rest hrest), hf _ (hbehind rest hrest),
      he rest hrest]

/-- What a number reads as does not depend on what follows it. -/
theorem number_written {cs rest : List Char} (h : IsNumber cs) (hrest : Ends rest) :
    number (cs ++ rest) = ((number cs).1, some rest) := by
  obtain ⟨numeral, hscan⟩ := scan_written h
  have halone := hscan [] (fun c hc => by cases hc)
  rw [List.append_nil] at halone
  unfold number
  rw [hscan rest hrest, halone]
  dsimp only
  split <;> rfl

/-- A number is a value, or too large for one. -/
theorem number_kind {cs : List Char} (h : IsNumber cs) :
    (∃ value, (number cs).1 = .scalar value) ∨ (number cs).1 = .unreadable := by
  obtain ⟨numeral, hscan⟩ := scan_written h
  have halone := hscan [] (fun c hc => by cases hc)
  rw [List.append_nil] at halone
  unfold number
  rw [halone]
  dsimp only
  split
  · exact .inl ⟨_, rfl⟩
  · exact .inr rfl

end Scaffold.Json
