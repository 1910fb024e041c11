/-! # Splitting and joining

  A text cut at every occurrence of one character, and put together again.

  - `segments sep cs`: the parts between the separators, empty ones included;
    there is always at least one.
  - `joinWith sep parts`: the parts with one separator between neighbours.
-/

namespace Scaffold.Text

/-! ### Splitting -/

/-- The parts of a text between occurrences of `sep`. -/
def segments (sep : Char) : List Char → List (List Char)
  | [] => [[]]
  | c :: rest =>
    if c = sep then [] :: segments sep rest
    else match segments sep rest with
      | [] => [[c]]
      | part :: parts => (c :: part) :: parts

/-- The parts put together with `sep` between neighbours. -/
def joinWith (sep : Char) : List (List Char) → List Char
  | [] => []
  | [part] => part
  | part :: next :: parts => part ++ sep :: joinWith sep (next :: parts)

/-- `segments` on texts. -/
def splitAt (sep : Char) (s : String) : List String :=
  (segments sep s.toList).map String.ofList

/-- The texts put together with `sep` between neighbours. -/
def joinTexts (sep : Char) (parts : List String) : String :=
  String.ofList (joinWith sep (parts.map String.toList))

/-! ### Laws -/

/-- There is at least one segment. -/
theorem segments_ne_nil (sep : Char) (cs : List Char) : segments sep cs ≠ [] := by
  cases cs with
  | nil => simp [segments]
  | cons c rest =>
    simp only [segments]
    split
    · simp
    · split <;> simp

theorem splitAt_ne_nil (sep : Char) (s : String) : splitAt sep s ≠ [] := by
  unfold splitAt
  simpa using segments_ne_nil sep s.toList

/-- Joining the segments gives the text back. -/
theorem joinWith_segments (sep : Char) (cs : List Char) :
    joinWith sep (segments sep cs) = cs := by
  induction cs with
  | nil => rfl
  | cons c rest ih =>
    simp only [segments]
    split
    · next h =>
      subst h
      cases hs : segments c rest with
      | nil => exact absurd hs (segments_ne_nil c rest)
      | cons part parts => rw [hs] at ih; simp [joinWith, ih]
    · cases hs : segments sep rest with
      | nil => exact absurd hs (segments_ne_nil sep rest)
      | cons part parts =>
        rw [hs] at ih
        cases parts with
        | nil => simp_all [joinWith]
        | cons next parts => simp only [joinWith] at ih ⊢; simp [ih]

/-- No segment holds the separator. -/
theorem sep_notMem_of_mem_segments {sep : Char} {cs part : List Char}
    (h : part ∈ segments sep cs) : sep ∉ part := by
  induction cs generalizing part with
  | nil => simp [segments] at h; simp [h]
  | cons c rest ih =>
    simp only [segments] at h
    split at h
    · rcases List.mem_cons.1 h with rfl | h
      · simp
      · exact ih h
    · next hc =>
      cases hs : segments sep rest with
      | nil => exact absurd hs (segments_ne_nil sep rest)
      | cons first parts =>
        rw [hs] at h
        rcases List.mem_cons.1 h with rfl | h
        · simp only [List.mem_cons, not_or]
          exact ⟨fun e => hc e.symm, ih (by simp [hs])⟩
        · exact ih (by simp [hs, h])

/-- Cutting at a separator cuts what stands before it and what stands behind it. -/
theorem segments_append_sep (sep : Char) (a b : List Char) :
    segments sep (a ++ sep :: b) = segments sep a ++ segments sep b := by
  induction a with
  | nil => simp [segments]
  | cons c rest ih =>
    simp only [List.cons_append, segments, ih]
    split
    · rfl
    · cases hs : segments sep rest with
      | nil => exact absurd hs (segments_ne_nil sep rest)
      | cons part parts => rfl

/-- A text without separator is one segment. -/
theorem segments_of_sep_notMem {sep : Char} {cs : List Char} (h : sep ∉ cs) :
    segments sep cs = [cs] := by
  induction cs with
  | nil => rfl
  | cons c rest ih =>
    rw [List.mem_cons, not_or] at h
    simp only [segments, if_neg (Ne.symm h.1), ih h.2]

/-- Parts that are put together in two halves have a separator between the halves. -/
theorem joinWith_append (sep : Char) {a b : List (List Char)} (ha : a ≠ []) (hb : b ≠ []) :
    joinWith sep (a ++ b) = joinWith sep a ++ sep :: joinWith sep b := by
  induction a with
  | nil => exact absurd rfl ha
  | cons part parts ih =>
    cases parts with
    | nil =>
      obtain ⟨first, rest, rfl⟩ := List.exists_cons_of_ne_nil hb
      rfl
    | cons next parts =>
      show part ++ sep :: joinWith sep (next :: parts ++ b) = _
      rw [ih (List.cons_ne_nil next parts), joinWith, List.append_assoc]
      rfl

/-- Cutting parts that were put together gives the parts back. -/
theorem segments_joinWith {sep : Char} {parts : List (List Char)} (hne : parts ≠ [])
    (h : ∀ part ∈ parts, sep ∉ part) : segments sep (joinWith sep parts) = parts := by
  induction parts with
  | nil => exact absurd rfl hne
  | cons part parts ih =>
    cases parts with
    | nil => exact segments_of_sep_notMem (h part List.mem_cons_self)
    | cons next parts =>
      have hpart : segments sep part = [part] := segments_of_sep_notMem (h part List.mem_cons_self)
      rw [joinWith, segments_append_sep, hpart,
        ih (List.cons_ne_nil next parts) fun p hp => h p (List.mem_cons_of_mem part hp)]
      rfl

/-- The characters of a segment are characters of the text. -/
theorem mem_of_mem_segments {sep : Char} {cs part : List Char} (h : part ∈ segments sep cs)
    {c : Char} (hc : c ∈ part) : c ∈ cs := by
  induction cs generalizing part with
  | nil => simp_all [segments]
  | cons d rest ih =>
    simp only [segments] at h
    split at h
    · rcases List.mem_cons.1 h with rfl | h
      · cases hc
      · exact List.mem_cons_of_mem d (ih h hc)
    · cases hs : segments sep rest with
      | nil => exact absurd hs (segments_ne_nil sep rest)
      | cons first parts =>
        rw [hs] at h
        rcases List.mem_cons.1 h with rfl | h
        · rcases List.mem_cons.1 hc with rfl | hc
          · exact List.mem_cons_self
          · exact List.mem_cons_of_mem d (ih (by simp [hs]) hc)
        · exact List.mem_cons_of_mem d (ih (by simp [hs, h]) hc)

/-- Every character but the separators is in a segment. -/
theorem exists_mem_segments {sep c : Char} {cs : List Char} (h : c ∈ cs) (hc : c ≠ sep) :
    ∃ part ∈ segments sep cs, c ∈ part := by
  induction cs with
  | nil => cases h
  | cons d rest ih =>
    have hne := segments_ne_nil sep rest
    simp only [segments]
    split
    · next hd =>
      have hrest : c ∈ rest := (List.mem_cons.1 h).resolve_left fun e => hc (e.trans hd)
      obtain ⟨part, hpart, hmem⟩ := ih hrest
      exact ⟨part, List.mem_cons_of_mem [] hpart, hmem⟩
    · cases hs : segments sep rest with
      | nil => exact absurd hs hne
      | cons first parts =>
        rcases List.mem_cons.1 h with rfl | hrest
        · exact ⟨c :: first, List.mem_cons_self, List.mem_cons_self⟩
        · obtain ⟨part, hpart, hmem⟩ := ih hrest
          rw [hs] at hpart
          rcases List.mem_cons.1 hpart with rfl | hpart
          · exact ⟨d :: part, List.mem_cons_self, List.mem_cons_of_mem d hmem⟩
          · exact ⟨part, List.mem_cons_of_mem _ hpart, hmem⟩

end Scaffold.Text
