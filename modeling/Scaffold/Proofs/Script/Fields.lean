import Scaffold.Proofs.Document.Values
import Scaffold.Proofs.FileSystem.Lookup
import Scaffold.Script.Decode

/-! # Fields of objects

  An object is a list of entries with names. What a reader finds under a name
  does not depend on the order of the entries, nor on entries with other names.

  - `under`, `without`: the entries of a name, and the others.
  - `splitContent_option`, `takeKind_name`: the condition and the type.
  - `collectFields_ok`, `textFields_ok`: fields that are read once each.
  - `collectFields_inv`, `textFields_inv`: what a reader that succeeds has found.
-/

namespace Scaffold

/-! ### Entries -/

section

variable {α β : Type} {name other : String} {entries : List (String × α)}

/-- What stands under a name, in the order of the entries. -/
def under (name : String) (entries : List (String × α)) : List α :=
  (entries.filter (·.1 == name)).map (·.2)

/-- The entries with other names. -/
def without (name : String) (entries : List (String × α)) : List (String × α) :=
  entries.filter (·.1 != name)

theorem under_cons_self (name : String) (value : α) (rest : List (String × α)) :
    under name ((name, value) :: rest) = value :: under name rest := by
  simp [under]

theorem under_cons_of_ne (h : other ≠ name) (value : α) (rest : List (String × α)) :
    under name ((other, value) :: rest) = under name rest := by
  simp [under, h]

theorem mem_under {value : α} : value ∈ under name entries ↔ (name, value) ∈ entries := by
  simp [under]

theorem under_without (h : other ≠ name) (entries : List (String × α)) :
    under other (without name entries) = under other entries := by
  unfold under without
  rw [List.filter_filter]
  congr 1
  refine List.filter_congr fun e _ => ?_
  by_cases he : e.1 = other
  · simp [he, h]
  · simp [he]

theorem under_without_self (name : String) (entries : List (String × α)) :
    under name (without name entries) = [] := by
  simp [under, without, List.filter_filter]

theorem under_map (f : α → β) (name : String) (entries : List (String × α)) :
    under name (entries.map fun e => (e.1, f e.2)) = (under name entries).map f := by
  unfold under
  rw [List.filter_map, List.map_map, List.map_map]
  rfl

end

/-! ### Values with names -/

/-- Entries whose keys are names. -/
def keyed (fields : List (String × Content)) : Entries :=
  fields.map fun f => (.scalar (.text f.1), f.2)

variable {fields : List (String × Content)} {name : String}

/-! ### Conditions -/

/-- A reader finds a text, no text, or nothing at all. -/
def ReadsOption (found : Option String) (values : List Content) : Prop :=
  (values = [] ∧ found = none) ∨ ∃ value, values = [value] ∧ value.optionalText .json = .ok found

theorem splitContent_none (h : under conditionField fields = [])
    (condition : Option (Option String))
    (others : Entries) : splitContent .json (keyed fields) condition others =
      .ok (condition.getD none, others ++ keyed (without conditionField fields)) := by
  induction fields generalizing others with
  | nil => simp [keyed, splitContent, without]
  | cons field rest ih =>
    obtain ⟨key, value⟩ := field
    by_cases hkey : key = conditionField
    · subst hkey
      rw [under_cons_self] at h
      cases h
    · rw [under_cons_of_ne hkey] at h
      have hsplit := ih h (others ++ [(.scalar (.text key), value)])
      simpa [keyed, splitContent, without, hkey] using hsplit

/-- The condition is taken out wherever it stands. -/
theorem splitContent_option {found : Option String}
    (h : ReadsOption found (under conditionField fields)) (others : Entries) :
    splitContent .json (keyed fields) none others =
      .ok (found, others ++ keyed (without conditionField fields)) := by
  rcases h with ⟨hnone, rfl⟩ | ⟨value, hvalue, hread⟩
  · exact splitContent_none hnone none others
  · induction fields generalizing others with
    | nil => cases hvalue
    | cons field rest ih =>
      obtain ⟨key, first⟩ := field
      by_cases hkey : key = conditionField
      · subst hkey
        rw [under_cons_self] at hvalue
        obtain ⟨rfl, hrest⟩ := List.cons.inj hvalue
        have hsplit := splitContent_none hrest (some found) others
        simp only [keyed, List.map_cons, splitContent, if_true, hread] at hsplit ⊢
        simpa [keyed, without, bind, Except.bind] using hsplit
      · rw [under_cons_of_ne hkey] at hvalue
        have hsplit := ih (others ++ [(.scalar (.text key), first)]) hvalue
        simpa [keyed, splitContent, without, hkey] using hsplit

/-- Whatever the condition is, the other entries stay as they are. -/
theorem splitContent_inv {condition : Option (Option String)} {others rest : Entries}
    {found : Option String}
    (h : splitContent .json (keyed fields) condition others = .ok (found, rest)) :
    rest = others ++ keyed (without conditionField fields) := by
  induction fields generalizing condition others with
  | nil =>
    cases h
    simp [keyed, without]
  | cons field more ih =>
    obtain ⟨key, value⟩ := field
    simp only [keyed, List.map_cons, splitContent] at h
    by_cases hkey : key = conditionField
    · subst hkey
      rw [if_pos rfl] at h
      split at h
      · cases h
      · obtain ⟨text, -, h⟩ := bind_eq_ok h
        simpa [without] using ih h
    · rw [if_neg hkey] at h
      simpa [without, hkey, keyed] using ih h

/-! ### Types -/

theorem ofContent_name (kind : Kind) :
    Kind.ofContent .json (.scalar (.text kind.name)) = .ok kind := by
  cases kind <;> rfl

theorem filter_isName (name : String) (fields : List (String × Content)) :
    (keyed fields).filter (·.1.isName name) =
      (under name fields).map fun value => (.scalar (.text name), value) := by
  induction fields with
  | nil => rfl
  | cons field rest ih =>
    obtain ⟨key, value⟩ := field
    by_cases hkey : key = name
    · subst hkey
      rw [under_cons_self, List.map_cons, ← ih]
      simp [keyed, Content.isName]
    · rw [under_cons_of_ne hkey, ← ih]
      simp [keyed, Content.isName, hkey]

theorem filter_not_isName (name : String) (fields : List (String × Content)) :
    (keyed fields).filter (!·.1.isName name) = keyed (without name fields) := by
  unfold keyed without
  rw [List.filter_map]
  rfl

/-- The type is taken out wherever it stands. -/
theorem takeKind_name {kind : Kind}
    (h : under typeField fields = [.scalar (.text kind.name)]) :
    takeKind .json (keyed fields) = .ok (kind, keyed (without typeField fields)) := by
  unfold takeKind
  rw [filter_isName, filter_not_isName, h]
  simp only [List.map_cons, List.map_nil, ofContent_name]
  rfl

/-- A reader that succeeds has found one type. -/
theorem takeKind_inv {kind : Kind} {rest : Entries}
    (h : takeKind .json (keyed fields) = .ok (kind, rest)) :
    rest = keyed (without typeField fields) ∧
      ∃ value, under typeField fields = [value] ∧ Kind.ofContent .json value = .ok kind := by
  unfold takeKind at h
  rw [filter_isName, filter_not_isName] at h
  cases hvalues : under typeField fields with
  | nil =>
    rw [hvalues] at h
    cases h
  | cons value more =>
    rw [hvalues] at h
    simp only [List.map_cons] at h
    obtain ⟨found, hkind, h⟩ := bind_eq_ok h
    cases more with
    | nil =>
      cases h
      exact ⟨rfl, value, rfl, hkind⟩
    | cons _ _ => cases h

/-! ### Fields -/

variable {α : Type} {names : List String} {read : String → Content → Reading α}

theorem fieldOf_name (names : List String) (name : String) :
    fieldOf names (.scalar (.text name)) = if name ∈ names then some name else none := by
  simp [fieldOf]

theorem lookup_snoc (found : List (String × α)) (key : String) (a : α) (name : String) :
    (found ++ [(key, a)]).lookup name =
      (found.lookup name).or (if name = key then some a else none) := by
  rw [List.lookup_append]
  by_cases h : name = key
  · simp [h]
  · simp [lookup_cons_of_ne h, h]

/-- Fields that occur at most once, and can be read, are all found. What was found before counts
for the names that do not occur. -/
theorem collectFields_ok {found : List (String × α)}
    (h : ∀ name ∈ names, under name fields = [] ∨
      found.lookup name = none ∧ ∃ a, (under name fields).map (read name) = [.ok a]) :
    ∃ result, collectFields names read (keyed fields) found = .ok result ∧
      ∀ name ∈ names, (under name fields = [] → result.lookup name = found.lookup name) ∧
        ∀ a, (under name fields).map (read name) = [.ok a] → result.lookup name = some a := by
  induction fields generalizing found with
  | nil => exact ⟨found, rfl, fun name _ => ⟨fun _ => rfl, fun a ha => by cases ha⟩⟩
  | cons field rest ih =>
    obtain ⟨key, value⟩ := field
    have hother : ∀ name, name ≠ key → under name ((key, value) :: rest) = under name rest :=
      fun name hname => under_cons_of_ne (Ne.symm hname) value rest
    by_cases hkey : key ∈ names
    · -- The field is read here, so it occurs nowhere behind, and the others are as before.
      obtain hnone | ⟨hfresh, a, ha⟩ := h key hkey
      · rw [under_cons_self] at hnone
        cases hnone
      rw [under_cons_self, List.map_cons] at ha
      obtain ⟨hread, hmore⟩ := List.cons.inj ha
      have hlast : under key rest = [] := List.map_eq_nil_iff.1 hmore
      have hrest : ∀ name ∈ names, under name rest = [] ∨
          (found ++ [(key, a)]).lookup name = none ∧
            ∃ b, (under name rest).map (read name) = [.ok b] := by
        intro name hname
        by_cases hsame : name = key
        · exact .inl (hsame ▸ hlast)
        · have hfield := h name hname
          rw [hother name hsame] at hfield
          refine hfield.imp_right (And.imp_left fun hnone => ?_)
          rw [lookup_snoc, hnone, if_neg hsame, Option.or_none]
      obtain ⟨result, hresult, hlookup⟩ := ih hrest
      refine ⟨result, ?_, fun name hname => ?_⟩
      · rw [← hresult]
        simp [keyed, collectFields, fieldOf_name, hkey, hfresh, hread, bind, Except.bind]
      · by_cases hsame : name = key
        · subst hsame
          have hfound := (hlookup name hname).1 hlast
          rw [lookup_snoc, hfresh, if_pos rfl, Option.none_or] at hfound
          refine ⟨fun hnone => ?_, fun b hb => ?_⟩
          · rw [under_cons_self] at hnone
            cases hnone
          · rw [under_cons_self, List.map_cons] at hb
            have hab : (Except.ok a : Reading α) = .ok b :=
              hread.symm.trans (List.cons.inj hb).1
            cases hab
            exact hfound
        · have hfound := hlookup name hname
          rw [lookup_snoc, if_neg hsame, Option.or_none] at hfound
          rw [hother name hsame]
          exact hfound
    · -- The entry is passed over, and no field loses a value.
      have hne : ∀ name ∈ names, name ≠ key := fun name hname e => hkey (e ▸ hname)
      have hrest : ∀ name ∈ names, under name rest = [] ∨
          found.lookup name = none ∧ ∃ a, (under name rest).map (read name) = [.ok a] := by
        intro name hname
        rw [← hother name (hne name hname)]
        exact h name hname
      obtain ⟨result, hresult, hlookup⟩ := ih hrest
      refine ⟨result, ?_, fun name hname => ?_⟩
      · rw [← hresult]
        simp [keyed, collectFields, fieldOf_name, hkey]
      · rw [hother name (hne name hname)]
        exact hlookup name hname

/-- A reader that succeeds has passed over an entry, or has read it as a field. -/
theorem collectFields_cons {key : String} {value : Content} {found result : List (String × α)}
    (h : collectFields names read (keyed ((key, value) :: fields)) found = .ok result) :
    (key ∉ names ∧ collectFields names read (keyed fields) found = .ok result) ∨
    (key ∈ names ∧ ∃ a, read key value = .ok a ∧
      collectFields names read (keyed fields) (found ++ [(key, a)]) = .ok result) := by
  simp only [keyed, List.map_cons, collectFields, fieldOf_name] at h
  by_cases hkey : key ∈ names
  · rw [if_pos hkey] at h
    simp only at h
    split at h
    · cases h
    · exact .inr ⟨hkey, bind_eq_ok h⟩
  · rw [if_neg hkey] at h
    exact .inl ⟨hkey, h⟩

/-- A reader that succeeds could read every field, and found nothing that does not occur. -/
theorem collectFields_inv {found result : List (String × α)}
    (h : collectFields names read (keyed fields) found = .ok result) :
    (∀ name ∈ names, ∀ value ∈ under name fields, ∃ a, read name value = .ok a) ∧
      ∀ name, (result.lookup name).isSome →
        (found.lookup name).isSome ∨ name ∈ names ∧ under name fields ≠ [] := by
  induction fields generalizing found with
  | nil =>
    cases h
    exact ⟨fun name _ value hvalue => (List.not_mem_nil hvalue).elim, fun name => .inl⟩
  | cons field rest ih =>
    obtain ⟨key, value⟩ := field
    have hother : ∀ name, name ≠ key → under name ((key, value) :: rest) = under name rest :=
      fun name hname => under_cons_of_ne (Ne.symm hname) value rest
    rcases collectFields_cons h with ⟨hkey, h⟩ | ⟨hkey, a, hread, h⟩
    · obtain ⟨hall, hsome⟩ := ih h
      refine ⟨fun name hname => ?_, fun name hname => ?_⟩
      · rw [hother name fun e => hkey (e ▸ hname)]
        exact hall name hname
      · refine (hsome name hname).imp_right fun ⟨hmem, hne⟩ => ⟨hmem, ?_⟩
        rwa [hother name fun e => hkey (e ▸ hmem)]
    · obtain ⟨hall, hsome⟩ := ih h
      refine ⟨fun name hname v hv => ?_, fun name hname => ?_⟩
      · by_cases hsame : name = key
        · subst hsame
          rw [under_cons_self] at hv
          rcases List.mem_cons.1 hv with rfl | hv
          · exact ⟨a, hread⟩
          · exact hall name hname v hv
        · rw [hother name hsame] at hv
          exact hall name hname v hv
      · by_cases hsame : name = key
        · subst hsame
          refine .inr ⟨hkey, ?_⟩
          rw [under_cons_self]
          exact List.cons_ne_nil _ _
        · have hfound := hsome name hname
          rw [lookup_snoc, if_neg hsame, Option.or_none] at hfound
          rwa [hother name hsame]

/-- Only fields are found. -/
theorem collectFields_names {found result : List (String × α)}
    (h : collectFields names read (keyed fields) found = .ok result) :
    ∀ e ∈ result, e ∈ found ∨ e.1 ∈ names := by
  induction fields generalizing found with
  | nil =>
    cases h
    exact fun e => .inl
  | cons field rest ih =>
    obtain ⟨key, value⟩ := field
    rcases collectFields_cons h with ⟨-, h⟩ | ⟨hkey, a, -, h⟩
    · exact ih h
    · intro e he
      rcases ih h e he with hmem | hname
      · refine (List.mem_append.1 hmem).imp_right fun hlast => ?_
        rwa [List.mem_singleton.1 hlast]
      · exact .inr hname

/-! ### Fields that hold texts -/

variable {mandatory optional : List String}

/-- Mandatory fields give their texts, and optional ones what they hold, if anything. -/
theorem textFields_ok (texts : List (String × String)) (options : List (String × Option String))
    (htexts : ∀ field ∈ texts, under field.1 fields = [.scalar (.text field.2)])
    (hoptions : ∀ field ∈ options, ReadsOption field.2 (under field.1 fields))
    (hfree : ∀ field ∈ options, field.1 ∉ texts.map (·.1)) :
    ∃ result, textFields .json (texts.map (·.1)) (options.map (·.1)) (keyed fields) = .ok result ∧
      (∀ field ∈ texts, result.lookup field.1 = some (some field.2)) ∧
      ∀ field ∈ options, (result.lookup field.1).getD none = field.2 := by
  let read (name : String) (c : Content) : Reading (Option String) :=
    if (texts.map (·.1)).contains name then (c.text .json).map some else c.optionalText .json
  have hmandatory : ∀ field ∈ texts,
      (under field.1 fields).map (read field.1) = [.ok (some field.2)] := by
    intro field hfield
    have hmem : (texts.map (·.1)).contains field.1 = true := by
      simpa using ⟨field.2, hfield⟩
    rw [htexts field hfield]
    simp only [read, List.map_cons, List.map_nil, hmem, if_true]
    rfl
  have hoptional : ∀ field ∈ options, under field.1 fields = [] ∧ field.2 = none ∨
      (under field.1 fields).map (read field.1) = [.ok field.2] := by
    intro field hfield
    refine (hoptions field hfield).imp_right fun ⟨value, hvalue, hread⟩ => ?_
    have hmem : ¬ (texts.map (·.1)).contains field.1 = true := by
      simpa using hfree field hfield
    rw [hvalue]
    simp only [read, List.map_cons, List.map_nil, if_neg hmem, hread]
  have hall : ∀ name ∈ texts.map (·.1) ++ options.map (·.1), under name fields = [] ∨
      ([] : List (String × Option String)).lookup name = none ∧
        ∃ a, (under name fields).map (read name) = [.ok a] := by
    intro name hname
    rcases List.mem_append.1 hname with h | h
    · obtain ⟨field, hfield, rfl⟩ := List.mem_map.1 h
      exact .inr ⟨rfl, _, hmandatory field hfield⟩
    · obtain ⟨field, hfield, rfl⟩ := List.mem_map.1 h
      exact (hoptional field hfield).imp And.left fun ha => ⟨rfl, _, ha⟩
  obtain ⟨result, hresult, hlookup⟩ := collectFields_ok hall
  have hfound : ∀ field ∈ texts, result.lookup field.1 = some (some field.2) := by
    intro field hfield
    have hname : field.1 ∈ texts.map (·.1) ++ options.map (·.1) :=
      List.mem_append_left _ (List.mem_map_of_mem hfield)
    exact (hlookup _ hname).2 _ (hmandatory field hfield)
  have hcomplete : (texts.map (·.1)).find? (fun name => (result.lookup name).isNone) = none := by
    refine List.find?_eq_none.2 fun name hname => ?_
    obtain ⟨field, hfield, rfl⟩ := List.mem_map.1 hname
    simp [hfound field hfield]
  refine ⟨result, ?_, hfound, fun field hfield => ?_⟩
  · unfold textFields
    simp only [read] at hresult
    simp only [hresult, bind, Except.bind, hcomplete]
    rfl
  · have hname : field.1 ∈ texts.map (·.1) ++ options.map (·.1) :=
      List.mem_append_right _ (List.mem_map_of_mem hfield)
    rcases hoptional field hfield with ⟨hnone, hvalue⟩ | hread
    · rw [(hlookup _ hname).1 hnone, hvalue]
      rfl
    · rw [(hlookup _ hname).2 _ hread]
      rfl

/-- A reader that succeeds has found every mandatory field. -/
theorem textFields_inv {result : List (String × Option String)}
    (h : textFields .json mandatory optional (keyed fields) = .ok result) :
    ∀ name ∈ mandatory, under name fields ≠ [] := by
  unfold textFields at h
  obtain ⟨found, hfound, h⟩ := bind_eq_ok h
  obtain ⟨-, hsome⟩ := collectFields_inv hfound
  split at h
  · cases h
  · next hnone =>
    intro name hname
    have hfield := List.find?_eq_none.1 hnone name hname
    have hisSome : (found.lookup name).isSome := by
      cases hlookup : found.lookup name with
      | none => simp [hlookup] at hfield
      | some _ => rfl
    rcases hsome name hisSome with hempty | ⟨-, hne⟩
    · cases hempty
    · exact hne

end Scaffold
