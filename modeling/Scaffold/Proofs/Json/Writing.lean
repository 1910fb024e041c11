import Scaffold.Proofs.Json.Spelling

/-! # Documents of JSON, as they are written

  The texts of a value: any blanks between its parts, any spelling of its
  strings and numbers. Such a text is read back as the value, whatever ends it,
  and the bound of the reader is never reached.

  - `Written`: a value and one of its texts.
  - `readsBack`: values, items and members, by induction on the bound.
  - `parse_written`: whole texts.
  - `isSound_written`: whatever is written keeps the rules.
-/

namespace Scaffold.Json

/-! ### Written values -/

/-- Blanks only. -/
def IsBlank (cs : List Char) : Prop := ∀ c ∈ cs, isSpace c = true

mutual

/-- A value, and how it is written. -/
inductive Written : Node → List Char → Prop
  /-- No value. -/
  | null : Written (.scalar .null) ['n', 'u', 'l', 'l']
  /-- A truth value. -/
  | yes : Written (.scalar (.bool true)) ['t', 'r', 'u', 'e']
  /-- A truth value. -/
  | no : Written (.scalar (.bool false)) ['f', 'a', 'l', 's', 'e']
  /-- A string between quotes. -/
  | string {node : Node} {cs : List Char} (h : WrittenString node cs) :
      Written node ('"' :: (cs ++ ['"']))
  /-- A number. -/
  | number {cs : List Char} (h : IsNumber cs) : Written (number cs).1 cs
  /-- A list without items. -/
  | emptyList {blanks : List Char} (h : IsBlank blanks) :
      Written (.list .none []) ('[' :: (blanks ++ [']']))
  /-- A list. -/
  | list {nodes : List Node} {cs : List Char} (h : WrittenItems nodes cs) :
      Written (.list .none nodes) ('[' :: (cs ++ [']']))
  /-- A map without members. -/
  | emptyMap {blanks : List Char} (h : IsBlank blanks) :
      Written (.map .none []) ('\x7b' :: (blanks ++ ['\x7d']))
  /-- A map. -/
  | map {pairs : List (Node × Node)} {cs : List Char} (h : WrittenMembers pairs cs) :
      Written (.map .none pairs) ('\x7b' :: (cs ++ ['\x7d']))

/-- Items with commas between them. -/
inductive WrittenItems : List Node → List Char → Prop
  /-- The last item. -/
  | last {node : Node} {before cs after : List Char} (hbefore : IsBlank before)
      (h : Written node cs) (hafter : IsBlank after) :
      WrittenItems [node] (before ++ (cs ++ after))
  /-- An item and more. -/
  | more {node : Node} {nodes : List Node} {before cs after more : List Char}
      (hbefore : IsBlank before) (h : Written node cs) (hafter : IsBlank after)
      (rest : WrittenItems nodes more) :
      WrittenItems (node :: nodes) (before ++ (cs ++ (after ++ ',' :: more)))

/-- Members with commas between them. -/
inductive WrittenMembers : List (Node × Node) → List Char → Prop
  /-- The last member. -/
  | last {key node : Node} {before ks behind inside cs after : List Char} (hbefore : IsBlank before)
      (hkey : WrittenString key ks) (hbehind : IsBlank behind) (hinside : IsBlank inside)
      (h : Written node cs) (hafter : IsBlank after) :
      WrittenMembers [(key, node)]
        (before ++ '"' :: (ks ++ '"' :: (behind ++ ':' :: (inside ++ (cs ++ after)))))
  /-- A member and more. -/
  | more {key node : Node} {pairs : List (Node × Node)}
      {before ks behind inside cs after more : List Char} (hbefore : IsBlank before)
      (hkey : WrittenString key ks) (hbehind : IsBlank behind) (hinside : IsBlank inside)
      (h : Written node cs) (hafter : IsBlank after) (rest : WrittenMembers pairs more) :
      WrittenMembers ((key, node) :: pairs)
        (before ++
          '"' :: (ks ++ '"' :: (behind ++ ':' :: (inside ++ (cs ++ (after ++ ',' :: more))))))

end

/-- A value with blanks around it. -/
def WrittenDocument (node : Node) (text : String) : Prop :=
  ∃ before cs after, IsBlank before ∧ Written node cs ∧ IsBlank after ∧
    text.toList = before ++ (cs ++ after)

/-! ### First characters -/

/-- The first characters of values. -/
def startsValue (c : Char) : Bool :=
  c == 'n' || c == 't' || c == 'f' || c == '"' || c == '-' || c == '[' || c == '\x7b' || c.isDigit

theorem skipSpace_run {blanks rest : List Char} (h : IsBlank blanks)
    (hrest : ∀ c, rest.head? = some c → isSpace c = false) : skipSpace (blanks ++ rest) = rest :=
  Text.dropWhile_run h hrest

theorem not_isSpace_of_startsValue {c : Char} (h : startsValue c = true) :
    isSpace c = false := by
  refine Bool.eq_false_iff.2 fun hspace => ?_
  simp only [isSpace, Bool.or_eq_true, beq_iff_eq] at hspace
  rcases hspace with ((rfl | rfl) | rfl) | rfl <;> exact absurd h (by decide)

theorem startsValue_number {cs : List Char} (h : IsNumber cs) :
    ∃ c more, cs = c :: more ∧ (c = '-' ∨ c.isDigit = true) := by
  obtain ⟨hsign, hwhole, -, -⟩ := h
  rcases hsign with rfl | rfl
  · obtain ⟨d, more, rfl⟩ := List.exists_cons_of_ne_nil hwhole.1.1
    exact ⟨d, _, rfl, .inr (hwhole.1.2 d (List.mem_cons_self ..))⟩
  · exact ⟨'-', _, rfl, .inl rfl⟩

theorem startsValue_written {node : Node} {cs : List Char} (h : Written node cs) :
    ∃ c more, cs = c :: more ∧ startsValue c = true := by
  cases h with
  | number h =>
    obtain ⟨c, more, rfl, hc⟩ := startsValue_number h
    refine ⟨c, more, rfl, ?_⟩
    rcases hc with rfl | hc
    · rfl
    · simp [startsValue, hc]
  | _ => exact ⟨_, _, rfl, rfl⟩

theorem skipSpace_written {node : Node} {blanks cs : List Char} (rest : List Char)
    (hblanks : IsBlank blanks)
    (h : Written node cs) : skipSpace (blanks ++ (cs ++ rest)) = cs ++ rest := by
  obtain ⟨c, more, rfl, hc⟩ := startsValue_written h
  refine skipSpace_run hblanks fun d hd => ?_
  cases hd
  exact not_isSpace_of_startsValue hc

theorem skipSpace_mark {c : Char} {blanks rest : List Char} (hblanks : IsBlank blanks)
    (hc : isSpace c = false) : skipSpace (blanks ++ c :: rest) = c :: rest :=
  skipSpace_run hblanks fun d hd => by
    cases hd
    exact hc

/-- Behind its blanks a list with items does not begin with its closing bracket. -/
theorem skipSpace_items {nodes : List Node} {cs : List Char} (rest : List Char)
    (h : WrittenItems nodes cs) :
    ∃ c more, skipSpace (cs ++ rest) = c :: more ∧ c ≠ ']' := by
  have hfirst : ∃ node before ts more, IsBlank before ∧ Written node ts ∧
      cs = before ++ (ts ++ more) := by
    cases h with
    | last hbefore h hafter => exact ⟨_, _, _, _, hbefore, h, rfl⟩
    | more hbefore h hafter _ => exact ⟨_, _, _, _, hbefore, h, rfl⟩
  obtain ⟨node, before, ts, more, hbefore, hts, rfl⟩ := hfirst
  rw [List.append_assoc, List.append_assoc, skipSpace_written _ hbefore hts]
  obtain ⟨c, others, rfl, hc⟩ := startsValue_written hts
  refine ⟨c, _, rfl, ?_⟩
  rintro rfl
  cases hc

/-- Behind its blanks a map with members begins with a quote. -/
theorem skipSpace_members {pairs : List (Node × Node)} {cs : List Char} (rest : List Char)
    (h : WrittenMembers pairs cs) : ∃ more, skipSpace (cs ++ rest) = '"' :: more := by
  cases h with
  | last hbefore =>
    rw [List.append_assoc]
    exact ⟨_, skipSpace_mark hbefore rfl⟩
  | more hbefore =>
    rw [List.append_assoc]
    exact ⟨_, skipSpace_mark hbefore rfl⟩

/-! ### Ends -/

theorem ends_blank {blanks rest : List Char} (hblanks : IsBlank blanks) (hrest : Ends rest) :
    Ends (blanks ++ rest) := by
  cases blanks with
  | nil => exact hrest
  | cons b more =>
    intro c hc
    cases hc
    exact .inl (hblanks b (List.mem_cons_self ..))

theorem ends_comma (rest : List Char) : Ends (',' :: rest) := by
  intro c hc
  cases hc
  exact .inr (.inl rfl)

theorem ends_bracket (rest : List Char) : Ends (']' :: rest) := by
  intro c hc
  cases hc
  exact .inr (.inr (.inl rfl))

theorem ends_brace (rest : List Char) : Ends ('\x7d' :: rest) := by
  intro c hc
  cases hc
  exact .inr (.inr (.inr rfl))

/-! ### Reading -/

/-- With this bound the reader gets everything back that is short enough. A bracket takes two
characters, and reading what it holds two steps. -/
structure ReadsBack (fuel : Nat) : Prop where
  /-- Values are read back. -/
  value : ∀ {node : Node} {blanks cs rest : List Char}, IsBlank blanks → Written node cs →
    Ends rest → 2 * cs.length ≤ fuel → value fuel (blanks ++ (cs ++ rest)) = (node, some rest)
  /-- Items are read back. -/
  items : ∀ {nodes : List Node} {cs rest : List Char}, WrittenItems nodes cs →
    2 * cs.length + 1 ≤ fuel → items fuel (cs ++ ']' :: rest) = (nodes, some rest)
  /-- Members are read back. -/
  members : ∀ {pairs : List (Node × Node)} {cs rest : List Char}, WrittenMembers pairs cs →
    2 * cs.length + 1 ≤ fuel → members fuel (cs ++ '\x7d' :: rest) = (pairs, some rest)

theorem length_written {node : Node} {cs : List Char} (h : Written node cs) : 1 ≤ cs.length := by
  obtain ⟨c, more, rfl, -⟩ := startsValue_written h
  simp

theorem value_of_number {fuel : Nat} {cs more : List Char} {c : Char}
    (h : skipSpace cs = c :: more) (hc : c = '-' ∨ c.isDigit = true) :
    value (fuel + 1) cs = number (c :: more) := by
  have hother : ∀ d : Char, d ≠ '-' → d.isDigit = false → c ≠ d := by
    rintro d hminus hdigit rfl
    rcases hc with rfl | hc
    · exact hminus rfl
    · rw [hdigit] at hc
      cases hc
  -- The other kinds of values each begin with a character of their own.
  unfold value
  rw [h]
  split
  case h_7 => rfl
  all_goals next heq => exact absurd (List.cons.inj heq).1 (hother _ (by decide) rfl)

theorem value_list {fuel : Nat} {cs inside more : List Char} {c : Char}
    (h : skipSpace cs = '[' :: inside) (hitems : skipSpace inside = c :: more) (hc : c ≠ ']') :
    value (fuel + 1) cs = (.list .none (items fuel inside).1, (items fuel inside).2) := by
  unfold value
  rw [h]
  simp only
  rw [hitems]
  split
  · next heq => exact absurd (List.cons.inj heq).1 hc
  · rfl

theorem value_map {fuel : Nat} {cs inside more : List Char}
    (h : skipSpace cs = '\x7b' :: inside) (hmembers : skipSpace inside = '"' :: more) :
    value (fuel + 1) cs = (.map .none (members fuel inside).1, (members fuel inside).2) := by
  unfold value
  rw [h]
  simp only
  rw [hmembers]
  rfl

theorem ReadsBack.value_step {fuel : Nat} (h : ReadsBack fuel) {node : Node}
    {blanks cs rest : List Char} (hblanks : IsBlank blanks) (hwritten : Written node cs)
    (hrest : Ends rest) (hfuel : 2 * cs.length ≤ fuel + 1) :
    Json.value (fuel + 1) (blanks ++ (cs ++ rest)) = (node, some rest) := by
  have hskip := skipSpace_written rest hblanks hwritten
  cases hwritten with
  | null | yes | no =>
    rw [Json.value, hskip]
    rfl
  | string hstring =>
    rw [Json.value, hskip]
    simpa using string_written hstring rest
  | number hnumber =>
    obtain ⟨c, more, rfl, hc⟩ := startsValue_number hnumber
    rw [value_of_number hskip hc]
    exact number_written hnumber hrest
  | emptyList hinside =>
    rw [Json.value, hskip]
    simp only [List.cons_append, List.append_assoc, List.nil_append]
    rw [skipSpace_mark hinside rfl]
    rfl
  | list hitems =>
    simp only [List.cons_append, List.append_assoc, List.nil_append] at hskip ⊢
    obtain ⟨c, more, hinside, hc⟩ := skipSpace_items (']' :: rest) hitems
    rw [value_list hskip hinside hc, h.items hitems (by simp at hfuel; omega)]
  | emptyMap hinside =>
    rw [Json.value, hskip]
    simp only [List.cons_append, List.append_assoc, List.nil_append]
    rw [skipSpace_mark hinside rfl]
    rfl
  | map hmembers =>
    simp only [List.cons_append, List.append_assoc, List.nil_append] at hskip ⊢
    obtain ⟨more, hinside⟩ := skipSpace_members ('\x7d' :: rest) hmembers
    rw [value_map hskip hinside, h.members hmembers (by simp at hfuel; omega)]

theorem ReadsBack.items_step {fuel : Nat} (h : ReadsBack fuel) {nodes : List Node}
    {cs rest : List Char} (hwritten : WrittenItems nodes cs)
    (hfuel : 2 * cs.length + 1 ≤ fuel + 1) :
    Json.items (fuel + 1) (cs ++ ']' :: rest) = (nodes, some rest) := by
  cases hwritten with
  | last hbefore hnode hafter =>
    have hends := ends_blank hafter (ends_bracket rest)
    simp only [List.append_assoc]
    rw [Json.items, h.value hbefore hnode hends (by simp at hfuel; omega)]
    simp only
    rw [skipSpace_mark hafter rfl]
    rfl
  | more hbefore hnode hafter hmore =>
    have hends := fun behind => ends_blank hafter (ends_comma behind)
    simp only [List.append_assoc, List.cons_append]
    rw [Json.items, h.value hbefore hnode (hends _) (by simp at hfuel; omega)]
    simp only
    rw [skipSpace_mark hafter rfl]
    simp only
    rw [h.items hmore (by simp at hfuel; omega)]

theorem ReadsBack.members_step {fuel : Nat} (h : ReadsBack fuel) {pairs : List (Node × Node)}
    {cs rest : List Char} (hwritten : WrittenMembers pairs cs)
    (hfuel : 2 * cs.length + 1 ≤ fuel + 1) :
    Json.members (fuel + 1) (cs ++ '\x7d' :: rest) = (pairs, some rest) := by
  cases hwritten with
  | last hbefore hkey hbehind hinside hnode hafter =>
    have hends := ends_blank hafter (ends_brace rest)
    simp only [List.append_assoc, List.cons_append]
    rw [Json.members, skipSpace_mark hbefore rfl]
    simp only
    rw [string_written hkey]
    simp only
    rw [skipSpace_mark hbehind rfl]
    simp only
    rw [h.value hinside hnode hends (by simp at hfuel; omega)]
    simp only
    rw [skipSpace_mark hafter rfl]
    rfl
  | more hbefore hkey hbehind hinside hnode hafter hmore =>
    have hends := fun behind => ends_blank hafter (ends_comma behind)
    simp only [List.append_assoc, List.cons_append]
    rw [Json.members, skipSpace_mark hbefore rfl]
    simp only
    rw [string_written hkey]
    simp only
    rw [skipSpace_mark hbehind rfl]
    simp only
    rw [h.value hinside hnode (hends _) (by simp at hfuel; omega)]
    simp only
    rw [skipSpace_mark hafter rfl]
    simp only
    rw [h.members hmore (by simp at hfuel; omega)]

theorem readsBack (fuel : Nat) : ReadsBack fuel := by
  induction fuel with
  | zero =>
    -- Nothing that is written is so short.
    refine ⟨fun _ hwritten _ hfuel => ?_, fun _ hfuel => ?_, fun _ hfuel => ?_⟩
    · have hlength := length_written hwritten
      omega
    · omega
    · omega
  | succ fuel ih => exact ⟨ih.value_step, ih.items_step, ih.members_step⟩

/-- A written value is read back, and nothing follows it. -/
theorem parse_written {node : Node} {text : String} (h : WrittenDocument node text) :
    parse text = ⟨node, true⟩ := by
  obtain ⟨before, cs, after, hbefore, hwritten, hafter, htext⟩ := h
  have hends : Ends after := by
    have hempty : Ends [] := fun c hc => by cases hc
    simpa using ends_blank hafter hempty
  have hlength : cs.length ≤ text.length := by
    rw [← String.length_toList, htext]
    simp
    omega
  have hend : skipSpace after = [] := by
    have hrest : ∀ c, ([] : List Char).head? = some c → isSpace c = false := fun c hc => by cases hc
    simpa using skipSpace_run hafter hrest
  unfold parse
  rw [htext, (readsBack _).value hbefore hwritten hends (by omega)]
  dsimp only
  rw [hend]
  rfl

/-! ### Soundness -/

theorem isSound_string {node : Node} {cs : List Char} (h : WrittenString node cs) :
    node.isSound = true := by
  cases h <;> rfl

mutual

/-- A value that is written keeps the rules, whether it can be read or not. -/
theorem isSound_written {node : Node} {cs : List Char} : Written node cs → node.isSound = true
  | .null | .yes | .no | .emptyList _ | .emptyMap _ => rfl
  | .string h => isSound_string h
  | .number h => by
    rcases number_kind h with ⟨value, hvalue⟩ | hnone
    · rw [hvalue]
      rfl
    · rw [hnone]
      rfl
  | .list h => allSound_written h
  | .map h => allPairsSound_written h

/-- The induction is on the items. -/
theorem allSound_written {nodes : List Node} {cs : List Char} :
    WrittenItems nodes cs → Node.allSound nodes = true
  | .last _ h _ => by simp [Node.allSound, isSound_written h]
  | .more _ h _ rest => by simp [Node.allSound, isSound_written h, allSound_written rest]

/-- The induction is on the members. -/
theorem allPairsSound_written {pairs : List (Node × Node)} {cs : List Char} :
    WrittenMembers pairs cs → Node.allPairsSound pairs = true
  | .last _ hkey _ _ h _ => by simp [Node.allPairsSound, isSound_string hkey, isSound_written h]
  | .more _ hkey _ _ h _ rest => by
    simp [Node.allPairsSound, isSound_string hkey, isSound_written h, allPairsSound_written rest]

end

end Scaffold.Json
