import Scaffold.Builtin

/-! # Package names

  A package name is a list of segments with dots between them. What is made of a
  file name is a segment, unless nothing is left of it or the rest is a reserved
  word.

  - `IsPackageSegment`, `IsPackage`: the grammar.
  - `checkPackage_eq_empty_iff`: what is accepted is what the grammar allows.
  - `toPackageSegment_formed`, `toPackageSegment_eq_self_iff`: what is made of a
    file name, and what stays as it is.
  - `fileToPackage_segment`: file names as package segments.
-/

namespace Scaffold

namespace Builtin

variable {c : Char} {cs : List Char} {value segment name : String} {segments : List String}

/-! ### The grammar -/

/-- A letter of ASCII, or the underscore. -/
def IsWordStart (c : Char) : Prop := ('a' ≤ c ∧ c ≤ 'z') ∨ ('A' ≤ c ∧ c ≤ 'Z') ∨ c = '_'

/-- A letter or digit of ASCII, or the underscore. -/
def IsWordPart (c : Char) : Prop := IsWordStart c ∨ ('0' ≤ c ∧ c ≤ '9')

/-- One segment of a package name. -/
structure IsPackageSegment (segment : String) : Prop where
  /-- It is a letter or underscore, and then letters, digits and underscores. -/
  formed : ∃ first rest, segment.toList = first :: rest ∧ IsWordStart first ∧
    ∀ c ∈ rest, IsWordPart c
  /-- It is no reserved word. -/
  free : segment ∉ reservedWords

/-- A package name and its segments. -/
structure IsPackage (name : String) (segments : List String) : Prop where
  /-- There is one segment at least. -/
  nonempty : segments ≠ []
  /-- All have the form of a segment. -/
  segment : ∀ segment ∈ segments, IsPackageSegment segment
  /-- A single dot stands between neighbours. -/
  joined : name = Text.joinTexts '.' segments

/-- A small letter of ASCII, or the underscore. -/
def IsSmallStart (c : Char) : Prop := ('a' ≤ c ∧ c ≤ 'z') ∨ c = '_'

/-- A small letter or digit of ASCII, or the underscore. -/
def IsSmallPart (c : Char) : Prop := IsSmallStart c ∨ ('0' ≤ c ∧ c ≤ '9')

/-- A text that has the form of a segment in small letters. -/
def IsSmallSegment (segment : String) : Prop :=
  ∃ first rest, segment.toList = first :: rest ∧ IsSmallStart first ∧ ∀ c ∈ rest, IsSmallPart c

theorem call_isPackage : isPackage.call = checkPackage := rfl

theorem call_fileToPackage : fileToPackage.call = toPackageSegment := rfl

/-! ### Characters -/

theorem isSegmentStart_iff : isSegmentStart c = true ↔ IsWordStart c := by
  unfold isSegmentStart IsWordStart Char.isAlpha Char.isUpper Char.isLower
  simp only [Bool.or_eq_true, Bool.and_eq_true, decide_eq_true_eq, beq_iff_eq, ge_iff_le,
    Char.le_def]
  rw [or_assoc, or_left_comm]

theorem isDigit_iff : c.isDigit = true ↔ '0' ≤ c ∧ c ≤ '9' := by
  simp only [Char.isDigit, Bool.and_eq_true, decide_eq_true_eq, ge_iff_le, Char.le_def]

theorem isSegmentPart_iff : isSegmentPart c = true ↔ IsWordPart c := by
  unfold IsWordPart
  rw [← isSegmentStart_iff, ← isDigit_iff]
  unfold isSegmentPart isSegmentStart Char.isAlphanum
  simp only [Bool.or_eq_true]
  exact or_right_comm

theorem isPackageChar_iff : isPackageChar c = true ↔ IsSmallPart c := by
  unfold isPackageChar IsSmallPart IsSmallStart Char.isLower Char.isDigit
  simp only [Bool.or_eq_true, Bool.and_eq_true, decide_eq_true_eq, beq_iff_eq, ge_iff_le,
    Char.le_def]
  exact or_right_comm

theorem IsSmallStart.isWordStart (h : IsSmallStart c) : IsWordStart c := h.imp_right .inr

theorem IsSmallPart.isWordPart (h : IsSmallPart c) : IsWordPart c :=
  h.imp_left IsSmallStart.isWordStart

/-- No separator of packages or paths is part of a segment. -/
theorem IsWordPart.ne (h : IsWordPart c) : c ≠ '.' ∧ c ≠ '/' ∧ c ≠ '\x00' := by
  refine ⟨?_, ?_, ?_⟩ <;> (rintro rfl; revert h; unfold IsWordPart IsWordStart; decide)

/-- Small letters of ASCII, digits and underscores, by their numbers. -/
theorem IsSmallPart.toNat (h : IsSmallPart c) :
    (97 ≤ c.toNat ∧ c.toNat ≤ 122) ∨ c.toNat = 95 ∨ (48 ≤ c.toNat ∧ c.toNat ≤ 57) := by
  rcases h with (⟨hlow, hhigh⟩ | rfl) | ⟨hlow, hhigh⟩
  · exact .inl ⟨UInt32.le_iff_toNat_le.1 hlow, UInt32.le_iff_toNat_le.1 hhigh⟩
  · exact .inr (.inl rfl)
  · exact .inr (.inr ⟨UInt32.le_iff_toNat_le.1 hlow, UInt32.le_iff_toNat_le.1 hhigh⟩)

/-- They are no capitals. -/
theorem IsSmallPart.toLower_eq (h : IsSmallPart c) : c.toNat < 128 ∧ c.toLower = c := by
  have hnat := h.toNat
  refine ⟨by omega, ?_⟩
  unfold Char.toLower
  refine dif_neg fun hupper => ?_
  have hlow : 65 ≤ c.toNat := UInt32.le_iff_toNat_le.1 hupper.1
  have hhigh : c.toNat ≤ 90 := UInt32.le_iff_toNat_le.1 hupper.2
  omega

/-- What begins a segment is no digit. -/
theorem IsSmallStart.not_isDigit (h : IsSmallStart c) : ¬ c.isDigit = true := by
  rw [isDigit_iff]
  rintro ⟨-, hnine⟩
  have hnat : c.toNat ≤ 57 := UInt32.le_iff_toNat_le.1 hnine
  rcases h with ⟨hlow, -⟩ | rfl
  · have hletter : 97 ≤ c.toNat := UInt32.le_iff_toNat_le.1 hlow
    omega
  · exact absurd hnat (by decide)

/-! ### Segments -/

theorem isSegment_iff : isSegment cs = true ↔
    ∃ first rest, cs = first :: rest ∧ IsWordStart first ∧ ∀ c ∈ rest, IsWordPart c := by
  cases cs with
  | nil => simp [isSegment]
  | cons first rest =>
    simp only [isSegment, Bool.and_eq_true, isSegmentStart_iff, List.all_eq_true, isSegmentPart_iff,
      List.cons.injEq]
    constructor
    · exact fun h => ⟨first, rest, ⟨rfl, rfl⟩, h⟩
    · rintro ⟨_, _, ⟨rfl, rfl⟩, h⟩
      exact h

/-- A segment without fault is one of the grammar. -/
theorem segmentFault_eq_none_iff :
    segmentFault cs = none ↔ IsPackageSegment (String.ofList cs) := by
  have hempty : ¬ isSegment [] = true := by decide
  unfold segmentFault
  constructor
  · intro h
    split at h
    · cases h
    · split at h
      · cases h
      · next hform =>
        split at h
        · cases h
        · next hfree =>
          refine ⟨?_, by simpa using hfree⟩
          rw [String.toList_ofList]
          exact isSegment_iff.1 (by simpa using hform)
  · rintro ⟨hform, hfree⟩
    rw [String.toList_ofList] at hform
    have hsegment := isSegment_iff.2 hform
    have hne : cs ≠ [] := by
      rintro rfl
      exact hempty hsegment
    rw [if_neg hne, if_neg (by simp [hsegment]), if_neg (by simpa using hfree)]

instance (segment : String) : Decidable (IsPackageSegment segment) :=
  decidable_of_iff (segmentFault segment.toList = none) (by
    rw [segmentFault_eq_none_iff, String.ofList_toList])

instance (name : String) (segments : List String) : Decidable (IsPackage name segments) :=
  decidable_of_iff (segments ≠ [] ∧ (∀ segment ∈ segments, IsPackageSegment segment) ∧
      name = Text.joinTexts '.' segments)
    ⟨fun ⟨hne, hall, hname⟩ => ⟨hne, hall, hname⟩, fun h => ⟨h.nonempty, h.segment, h.joined⟩⟩

/-- Every fault has a message. -/
theorem message_ne_empty (fault : PackageFault) (value : String) : fault.message value ≠ "" := by
  intro h
  cases fault with
  | empty =>
    replace h : "The package name must not be empty" = "" := h
    exact absurd h (by decide)
  | _ =>
    -- The message begins with a text that is not empty.
    obtain ⟨hfront, -⟩ := String.append_eq_empty_iff.1 h
    exact absurd (String.append_eq_empty_iff.1 hfront).1 (by decide)

theorem checkPackage_eq_empty_iff_fault :
    checkPackage value = "" ↔ packageFault value = none := by
  unfold checkPackage
  cases h : packageFault value with
  | none => simp
  | some fault => simp [message_ne_empty]

theorem IsPackageSegment.isWordPart (h : IsPackageSegment segment) (hc : c ∈ segment.toList) :
    IsWordPart c := by
  obtain ⟨first, rest, hchars, hfirst, hrest⟩ := h.formed
  rw [hchars] at hc
  rcases List.mem_cons.1 hc with rfl | hc
  · exact .inl hfirst
  · exact hrest c hc

theorem IsPackageSegment.ne_empty (h : IsPackageSegment segment) : segment ≠ "" := by
  obtain ⟨first, rest, hchars, -, -⟩ := h.formed
  rintro rfl
  cases hchars

/-! ### Names -/

/-- A text is accepted if everything between its dots is a segment. -/
theorem checkPackage_eq_empty_iff_segments : checkPackage value = "" ↔
    ∀ part ∈ Text.segments '.' value.toList, IsPackageSegment (String.ofList part) := by
  rw [checkPackage_eq_empty_iff_fault]
  unfold packageFault
  simp only [← segmentFault_eq_none_iff]
  split
  · next hempty =>
    -- Nothing stands before the first dot of the empty text.
    rw [hempty]
    exact iff_of_false nofun fun h => absurd (h [] (List.mem_singleton_self _)) (by decide)
  · exact List.findSome?_eq_none_iff

/-- The dots of a package name stand between its segments and nowhere else. -/
theorem IsPackage.segments_eq (h : IsPackage name segments) :
    Text.segments '.' name.toList = segments.map String.toList := by
  rw [h.joined]
  unfold Text.joinTexts
  rw [String.toList_ofList, Text.segments_joinWith (by simpa using h.nonempty)]
  intro part hpart hdot
  obtain ⟨segment, hsegment, rfl⟩ := List.mem_map.1 hpart
  exact ((h.segment segment hsegment).isWordPart hdot).ne.1 rfl

/-- A text is accepted if it is a package name. -/
theorem checkPackage_eq_empty_iff :
    checkPackage value = "" ↔ ∃ segments, IsPackage value segments := by
  rw [checkPackage_eq_empty_iff_segments]
  constructor
  · intro h
    refine ⟨Text.splitAt '.' value, Text.splitAt_ne_nil '.' value, ?_, ?_⟩
    · intro segment hsegment
      obtain ⟨part, hpart, rfl⟩ := List.mem_map.1 hsegment
      exact h part hpart
    · unfold Text.joinTexts Text.splitAt
      rw [List.map_map, String.toList_comp_ofList, List.map_id, Text.joinWith_segments,
        String.ofList_toList]
  · rintro ⟨segments, h⟩ part hpart
    rw [h.segments_eq] at hpart
    obtain ⟨segment, hsegment, rfl⟩ := List.mem_map.1 hpart
    rw [String.ofList_toList]
    exact h.segment segment hsegment

/-- What stands behind a dot has to be acceptable on its own. -/
theorem checkPackage_append (hvalue : checkPackage value = "") :
    checkPackage (value ++ "." ++ name) = "" ↔ checkPackage name = "" := by
  rw [checkPackage_eq_empty_iff_segments] at hvalue
  rw [checkPackage_eq_empty_iff_segments, checkPackage_eq_empty_iff_segments]
  have hchars : (value ++ "." ++ name).toList = value.toList ++ '.' :: name.toList := by
    simp [String.toList_append]
  rw [hchars, Text.segments_append_sep, List.forall_mem_append]
  exact and_iff_right hvalue

/-! ### File names as segments -/

/-- Small letters of ASCII, digits and underscores are small already. -/
theorem lowerChars_eq_self (before : List Char) (h : ∀ c ∈ cs, IsSmallPart c) :
    Text.lowerChars before cs = cs := by
  induction cs generalizing before with
  | nil => rfl
  | cons c rest ih =>
    obtain ⟨hc, hrest⟩ := List.forall_mem_cons.1 h
    have hsigma : c ≠ 'Σ' := by
      rintro rfl
      exact absurd hc.toLower_eq.1 (by decide)
    unfold Text.lowerChars Text.lowerChar
    rw [if_neg hsigma, if_pos hc.toLower_eq.1, hc.toLower_eq.2, ih (c :: before) hrest]
    rfl

/-- What is made of a file name is empty or a segment in small letters. -/
theorem toPackageSegment_formed (value : String) :
    toPackageSegment value = "" ∨ IsSmallSegment (toPackageSegment value) := by
  have hkept : ∀ c ∈ (Text.lowercase value).toList.filter isPackageChar, IsSmallPart c :=
    fun c hc => isPackageChar_iff.1 (List.mem_filter.1 hc).2
  unfold toPackageSegment
  generalize (Text.lowercase value).toList.filter isPackageChar = kept at hkept
  cases kept with
  | nil => exact .inl rfl
  | cons first rest =>
    obtain ⟨hfirst, hrest⟩ := List.forall_mem_cons.1 hkept
    right
    dsimp only
    split
    · exact ⟨'_', first :: rest, String.toList_ofList, .inr rfl, hkept⟩
    · next hdigit =>
      refine ⟨first, rest, String.toList_ofList, hfirst.resolve_right fun h => hdigit ?_, hrest⟩
      exact isDigit_iff.2 h

theorem toPackageSegment_empty : toPackageSegment "" = "" := by
  simp [toPackageSegment, Text.lowercase, Text.lowerChars]

/-- A text of this form stays as it is. -/
theorem toPackageSegment_of_isSmallSegment (h : IsSmallSegment value) :
    toPackageSegment value = value := by
  obtain ⟨first, rest, hchars, hfirst, hrest⟩ := h
  have hall : ∀ c ∈ first :: rest, IsSmallPart c := List.forall_mem_cons.2 ⟨.inl hfirst, hrest⟩
  have hkept : (Text.lowercase value).toList.filter isPackageChar = first :: rest := by
    unfold Text.lowercase
    rw [String.toList_ofList, hchars, lowerChars_eq_self [] hall]
    exact List.filter_eq_self.2 fun c hc => isPackageChar_iff.2 (hall c hc)
  unfold toPackageSegment
  rw [hkept]
  dsimp only
  rw [if_neg hfirst.not_isDigit, ← hchars, String.ofList_toList]

/-- No other text stays as it is. -/
theorem toPackageSegment_eq_self_iff :
    toPackageSegment value = value ↔ value = "" ∨ IsSmallSegment value := by
  constructor
  · intro h
    rw [← h]
    exact toPackageSegment_formed value
  · rintro (rfl | h)
    · exact toPackageSegment_empty
    · exact toPackageSegment_of_isSmallSegment h

/-- What is made of a file name is a segment unless it is empty or a reserved word. -/
theorem isPackageSegment_toPackageSegment : IsPackageSegment (toPackageSegment value) ↔
    toPackageSegment value ≠ "" ∧ toPackageSegment value ∉ reservedWords := by
  constructor
  · exact fun h => ⟨h.ne_empty, h.free⟩
  · rintro ⟨hne, hfree⟩
    obtain ⟨first, rest, hchars, hfirst, hrest⟩ := (toPackageSegment_formed value).resolve_left hne
    exact ⟨⟨first, rest, hchars, hfirst.isWordStart, fun c hc => (hrest c hc).isWordPart⟩, hfree⟩

theorem checkPackage_toPackageSegment : checkPackage (toPackageSegment value) = "" ↔
    toPackageSegment value ≠ "" ∧ toPackageSegment value ∉ reservedWords := by
  have hdot : '.' ∉ (toPackageSegment value).toList := by
    intro hdot
    rcases toPackageSegment_formed value with hempty | ⟨first, rest, hchars, hfirst, hrest⟩
    · rw [hempty] at hdot
      cases hdot
    · have hpart : IsSmallPart '.' := by
        rw [hchars] at hdot
        exact (List.forall_mem_cons.2 ⟨.inl hfirst, hrest⟩ : ∀ c ∈ first :: rest, _) _ hdot
      exact hpart.isWordPart.ne.1 rfl
  rw [checkPackage_eq_empty_iff_segments, Text.segments_of_sep_notMem hdot,
    ← isPackageSegment_toPackageSegment, List.forall_mem_singleton, String.ofList_toList]

/-- What is made of a file name is empty or has the form of a segment in small letters. Such a text
stays as it is, and no other does. It is acceptable as a package name, alone or behind one that is,
if it is neither empty nor a reserved word. -/
theorem fileToPackage_segment (value : String) :
    (fileToPackage.call value = "" ∨ IsSmallSegment (fileToPackage.call value)) ∧
    fileToPackage.call (fileToPackage.call value) = fileToPackage.call value ∧
    (fileToPackage.call value = value ↔ value = "" ∨ IsSmallSegment value) ∧
    (isPackage.call (fileToPackage.call value) = "" ↔
      fileToPackage.call value ≠ "" ∧ fileToPackage.call value ∉ reservedWords) ∧
    ∀ name, isPackage.call name = "" →
      (isPackage.call (name ++ "." ++ fileToPackage.call value) = "" ↔
        fileToPackage.call value ≠ "" ∧ fileToPackage.call value ∉ reservedWords) := by
  rw [call_fileToPackage, call_isPackage]
  have hformed := toPackageSegment_formed value
  refine ⟨hformed, toPackageSegment_eq_self_iff.2 hformed, toPackageSegment_eq_self_iff,
    checkPackage_toPackageSegment, fun name hname => ?_⟩
  exact (checkPackage_append hname).trans checkPackage_toPackageSegment

/-- A file name that begins with a digit, behind a package name. -/
theorem fileToPackage_segment_of_lives :
    isPackage.call "com.example" = "" ∧ fileToPackage.call "9-Lives" = "_9lives" ∧
    isPackage.call ("com.example" ++ "." ++ fileToPackage.call "9-Lives") = "" := by
  have hname : isPackage.call "com.example" = "" := by decide +kernel
  have hsegment : fileToPackage.call "9-Lives" = "_9lives" := by decide +kernel
  obtain ⟨-, -, -, -, hbehind⟩ := fileToPackage_segment "9-Lives"
  refine ⟨hname, hsegment, (hbehind "com.example" hname).2 ?_⟩
  rw [hsegment]
  decide +kernel

end Builtin

end Scaffold
