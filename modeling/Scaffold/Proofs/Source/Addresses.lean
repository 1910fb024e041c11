import Mathlib.Data.List.Basic
import Scaffold.Source.TemplateSource

/-! # Which texts are addresses

  A template is named by the address of a repository or by the path of a
  directory. An address has the scheme `https` or `git` in any letter case, or
  is an account with the user `git`. The reader of addresses is lenient: it also
  takes addresses that lack the slashes behind the scheme, or that tabs and line
  ends break up. All of this holds whichever hosts an address may have.

  - `schemeOf_eq_some_iff`: what is read as a scheme.
  - `isRepositoryAddress_iff`: what is read as the address of a repository.
  - `IsDocumented`, `IsLoose`: addresses as they should be written, and all others.
  - `only_addresses_are_fetched`: everything else is the path of a directory.
-/

namespace Scaffold

namespace Source

open TemplateSource (hostedMark)

variable {hosts : HostRules} {s scheme : String} {c : Char} {front cs rest spelling : List Char}

/-! ### Blanks around a text -/

/-- A space or a control character. -/
def isOuter (c : Char) : Bool := c.toNat ≤ 32

/-- A character that counts wherever it stands: neither a tab nor a line end. -/
def isKept (c : Char) : Bool := c != '\t' && c != '\n' && c != '\r'

/-- The text without the spaces and control characters around it. -/
def trimmed (s : String) : List Char :=
  ((s.toList.dropWhile isOuter).reverse.dropWhile isOuter).reverse

theorem cleaned_eq (s : String) : cleaned s = (trimmed s).filter isKept := rfl

theorem isKept_of_not_isOuter (h : isOuter c = false) : isKept c = true := by
  unfold isKept
  simp only [Bool.and_eq_true, bne_iff_ne, ne_eq]
  refine ⟨⟨?_, ?_⟩, ?_⟩ <;> (rintro rfl; cases h)

/-- Only spaces and control characters are taken away, before and behind what is left. -/
theorem exists_trimmed (s : String) : ∃ before after,
    s.toList = before ++ trimmed s ++ after ∧
      (∀ c ∈ before, isOuter c = true) ∧ ∀ c ∈ after, isOuter c = true := by
  let inner := s.toList.dropWhile isOuter
  refine ⟨s.toList.takeWhile isOuter, (inner.reverse.takeWhile isOuter).reverse, ?_, ?_, ?_⟩
  · have hinner : trimmed s ++ (inner.reverse.takeWhile isOuter).reverse = inner := by
      unfold trimmed
      rw [← List.reverse_append, List.takeWhile_append_dropWhile, List.reverse_reverse]
    rw [List.append_assoc, hinner, List.takeWhile_append_dropWhile]
  · exact List.all_eq_true.1 List.all_takeWhile
  · intro c hc
    exact List.all_eq_true.1 List.all_takeWhile c (List.mem_reverse.1 hc)

/-- What a text begins with stays if none of it can be taken away. -/
theorem prefix_trimmed (hfront : ∀ c ∈ front, isOuter c = false) (h : front <+: s.toList) :
    front <+: trimmed s := by
  obtain ⟨before, after, hs, hbefore, hafter⟩ := exists_trimmed s
  obtain ⟨more, hmore⟩ := h
  cases front with
  | nil => exact List.nil_prefix
  | cons first others =>
    have hfirst := hfront first List.mem_cons_self
    cases before with
    | cons b before =>
      -- The first character would be a blank.
      rw [hs] at hmore
      obtain ⟨rfl, -⟩ := List.cons.inj hmore
      rw [hbefore _ List.mem_cons_self] at hfirst
      cases hfirst
    | nil =>
      rw [hs, List.nil_append] at hmore
      rcases List.append_eq_append_iff.1 hmore with ⟨middle, htrimmed, -⟩ | ⟨middle, hlong, hafter'⟩
      · exact ⟨middle, htrimmed.symm⟩
      · -- What follows the trimmed text is blank, so that nothing of the beginning is in it.
        cases middle with
        | nil => exact ⟨[], by rw [hlong, List.append_nil, List.append_nil]⟩
        | cons c middle =>
          have hblank := hafter c (by rw [hafter']; simp)
          rw [hfront c (by rw [hlong]; simp)] at hblank
          cases hblank

/-! ### Schemes -/

/-- The characters are those of the scheme, in any letter case. -/
def Spells (spelling : List Char) (scheme : String) : Prop :=
  spelling.map Char.toLower = scheme.toList

/-- The scheme is written in small letters. -/
structure IsSmall (scheme : String) : Prop where
  /-- It is not empty. -/
  ne_empty : scheme ≠ ""
  /-- It has no other characters. -/
  isLower : ∀ c ∈ scheme.toList, c.isLower = true

theorem isSmall_https : IsSmall "https" := ⟨by decide, List.all_eq_true.1 (by decide)⟩

theorem isSmall_git : IsSmall "git" := ⟨by decide, List.all_eq_true.1 (by decide)⟩

/-- A scheme is a letter and then letters, digits and marks. -/
def IsScheme (spelling : List Char) : Prop :=
  (∃ first, spelling.head? = some first ∧ first.isAlpha = true) ∧
    ∀ c ∈ spelling, isSchemeChar c = true

theorem not_isSchemeChar_colon : isSchemeChar ':' = false := by decide

/-- What is read as a scheme is what stands before the first colon. -/
theorem schemeOf_eq_some_iff : schemeOf cs = some (scheme, rest) ↔
    ∃ spelling, cs = spelling ++ ':' :: rest ∧ IsScheme spelling ∧ Spells spelling scheme := by
  unfold schemeOf
  constructor
  · intro h
    split at h
    · cases h
    · next hletter =>
      split at h
      · next after hdrop =>
        obtain ⟨hscheme, rfl⟩ := Prod.mk.inj (Option.some.inj h)
        have hcs : cs = cs.takeWhile isSchemeChar ++ ':' :: after := by
          rw [← hdrop, List.takeWhile_append_dropWhile]
        refine ⟨cs.takeWhile isSchemeChar, hcs, ⟨?_, List.all_eq_true.1 List.all_takeWhile⟩, ?_⟩
        · cases cs with
          | nil => cases hcs
          | cons first others =>
            have hfirst : first.isAlpha = true := by simpa using hletter
            have hmark : isSchemeChar first = true := by
              simp [isSchemeChar, Char.isAlphanum, hfirst]
            exact ⟨first, by rw [List.takeWhile_cons, if_pos hmark]; rfl, hfirst⟩
        · unfold Spells
          rw [← hscheme, String.toList_ofList]
      · cases h
  · rintro ⟨spelling, rfl, ⟨⟨first, hhead, hfirst⟩, hmarks⟩, hspells⟩
    have hletter : ((spelling ++ ':' :: rest).head?.any Char.isAlpha) = true := by
      rw [List.head?_append, hhead]
      exact hfirst
    have hdrop : (spelling ++ ':' :: rest).dropWhile isSchemeChar = ':' :: rest := by
      rw [List.dropWhile_append_of_pos hmarks, List.dropWhile_cons, not_isSchemeChar_colon]
      rfl
    have htake : (spelling ++ ':' :: rest).takeWhile isSchemeChar = spelling := by
      rw [List.takeWhile_append_of_pos hmarks, List.takeWhile_cons, not_isSchemeChar_colon]
      exact List.append_nil spelling
    have hname : String.ofList (spelling.map Char.toLower) = scheme := by
      rw [show spelling.map Char.toLower = scheme.toList from hspells, String.ofList_toList]
    rw [if_neg (by rw [hletter]; decide), hdrop, htake]
    exact congrArg (fun name => some (name, rest)) hname

/-- A character that is a small letter in small letters is a letter. -/
theorem isAlpha_of_toLower (h : c.toLower.isLower = true) : c.isAlpha = true := by
  unfold Char.isAlpha
  by_cases hupper : c.isUpper = true
  · rw [hupper, Bool.true_or]
  · have hsame : c.toLower = c := by
      unfold Char.toLower
      exact dif_neg fun hrange => hupper (decide_eq_true hrange)
    rw [← hsame, h, Bool.or_true]

/-- What spells a scheme of small letters is a scheme. -/
theorem Spells.isScheme (h : Spells spelling scheme) (hsmall : IsSmall scheme) :
    IsScheme spelling := by
  have hletters : ∀ c ∈ spelling, c.isAlpha = true := by
    intro c hc
    apply isAlpha_of_toLower
    apply hsmall.isLower
    rw [← show spelling.map Char.toLower = scheme.toList from h]
    exact List.mem_map_of_mem hc
  constructor
  · cases spelling with
    | nil => exact absurd (String.toList_eq_nil_iff.1 h.symm) hsmall.ne_empty
    | cons first others => exact ⟨first, rfl, hletters first List.mem_cons_self⟩
  · intro c hc
    simp [isSchemeChar, Char.isAlphanum, hletters c hc]

theorem Spells.length_eq (h : Spells spelling scheme) : spelling.length = scheme.length := by
  rw [← String.length_toList, ← show spelling.map Char.toLower = scheme.toList from h,
    List.length_map]

/-! ### Addresses -/

/-- A slash or a backslash. -/
def isSlash (c : Char) : Bool := c == '/' || c == '\\'

/-- What may stand behind the colon of a scheme. -/
inductive IsAccepted (hosts : HostRules) : String → List Char → Prop where
  /-- Behind `https` any number of slashes stand, and then a host. -/
  | web {rest : List Char} : hasAuthority hosts true (rest.dropWhile isSlash) = true →
      IsAccepted hosts "https" rest
  /-- Behind `git` and two slashes a host may stand. -/
  | host {rest : List Char} : hasAuthority hosts false rest = true →
      IsAccepted hosts "git" ('/' :: '/' :: rest)
  /-- Behind `git` anything may stand that does not begin with two slashes. -/
  | plain {rest : List Char} : ¬ ['/', '/'] <+: rest → IsAccepted hosts "git" rest

theorem IsAccepted.isSmall (h : IsAccepted hosts scheme rest) : IsSmall scheme := by
  cases h with
  | web => exact isSmall_https
  | host => exact isSmall_git
  | plain => exact isSmall_git

/-- The scheme that the text begins with and what stands behind its colon, if the spaces and
control characters around the text and the tabs and line ends in it do not count. -/
def ReadsAs (s scheme : String) (rest : List Char) : Prop :=
  ∃ spelling, cleaned s = spelling ++ ':' :: rest ∧ Spells spelling scheme

/-- A scheme in small letters is read if it is what stands before the first colon. -/
theorem readsAs_iff (h : IsSmall scheme) :
    ReadsAs s scheme rest ↔ schemeOf (cleaned s) = some (scheme, rest) := by
  rw [schemeOf_eq_some_iff]
  refine exists_congr fun spelling => and_congr_right fun _ => ?_
  exact ⟨fun hspells => ⟨hspells.isScheme h, hspells⟩, fun hboth => hboth.2⟩

/-- A text is read as an address if its scheme is known and what follows is accepted. -/
theorem isRepositoryAddress_iff : isRepositoryAddress hosts s = true ↔
    ∃ scheme rest, ReadsAs s scheme rest ∧ IsAccepted hosts scheme rest := by
  have hread : (∃ scheme rest, ReadsAs s scheme rest ∧ IsAccepted hosts scheme rest) ↔
      ∃ scheme rest, schemeOf (cleaned s) = some (scheme, rest) ∧
        IsAccepted hosts scheme rest := by
    refine exists_congr fun scheme => exists_congr fun rest => ?_
    exact and_congr_left fun haccepted => readsAs_iff haccepted.isSmall
  rw [hread]
  unfold isRepositoryAddress
  constructor
  · intro h
    split at h
    · next rest hscheme => exact ⟨"https", rest, hscheme, .web h⟩
    · next rest hscheme => exact ⟨"git", _, hscheme, .host h⟩
    · next rest hslashes hscheme =>
      refine ⟨"git", rest, hscheme, .plain ?_⟩
      rintro ⟨more, rfl⟩
      exact hslashes more rfl
    · cases h
  · rintro ⟨scheme, rest, hscheme, haccepted⟩
    rw [hscheme]
    cases haccepted with
    | web hhost => exact hhost
    | host hhost => exact hhost
    | plain hslashes =>
      split
      · next heq =>
        obtain ⟨hname, -⟩ := Prod.mk.inj (Option.some.inj heq)
        exact absurd hname (by decide)
      · next more heq =>
        obtain ⟨-, rfl⟩ := Prod.mk.inj (Option.some.inj heq)
        exact absurd ⟨more, rfl⟩ hslashes
      · rfl
      · next hother => exact absurd rfl (hother rest)

/-! ### Documented and loosely written addresses -/

/-- Apart from spaces and control characters around it, the text is the scheme in any letter case,
a colon, two slashes and the rest. -/
def IsUrl (s scheme : String) (rest : List Char) : Prop :=
  ∃ spelling, trimmed s = spelling ++ ':' :: '/' :: '/' :: rest ∧ Spells spelling scheme

/-- An address as it should be written. -/
inductive IsDocumented (hosts : HostRules) (s : String) : Prop where
  /-- An account with the user `git` on a host. -/
  | account : hostedMark <+: s.toList → IsDocumented hosts s
  /-- A scheme, a colon and two slashes, and behind them what may stand there. -/
  | url {scheme : String} {rest : List Char} : IsUrl s scheme rest →
      IsAccepted hosts scheme ('/' :: '/' :: rest.filter isKept) → IsDocumented hosts s

/-- An address that is read as one although it is not written like one. -/
inductive IsLoose (hosts : HostRules) (s : String) : Prop where
  /-- No two slashes follow the colon. -/
  | slashless {scheme : String} {rest : List Char} : ReadsAs s scheme rest →
      IsAccepted hosts scheme rest → ¬ ['/', '/'] <+: rest → IsLoose hosts s
  /-- A tab or a line end stands in or between the scheme, the colon and the two slashes. -/
  | broken {scheme : String} {rest : List Char} : ReadsAs s scheme rest →
      IsAccepted hosts scheme rest →
      (∃ c ∈ (trimmed s).take (scheme.length + 3), isKept c = false) → IsLoose hosts s

/-- An address that is read as one is written like one if its slashes are there and nothing breaks
up its beginning. -/
theorem isUrl_of_readsAs (h : ReadsAs s scheme ('/' :: '/' :: rest))
    (hkept : ∀ c ∈ (trimmed s).take (scheme.length + 3), isKept c = true) :
    ∃ more, IsUrl s scheme more ∧ more.filter isKept = rest := by
  obtain ⟨spelling, hcleaned, hspells⟩ := h
  have hfront : (trimmed s).take (scheme.length + 3) = spelling ++ [':', '/', '/'] ∧
      ((trimmed s).drop (scheme.length + 3)).filter isKept = rest := by
    have hsplit : (trimmed s).take (scheme.length + 3) ++
        ((trimmed s).drop (scheme.length + 3)).filter isKept =
          (spelling ++ [':', '/', '/']) ++ rest := by
      rw [← List.filter_eq_self.2 hkept, ← List.filter_append, List.take_append_drop,
        ← cleaned_eq, hcleaned, List.append_assoc]
      rfl
    have hlong : scheme.length + 3 ≤ (trimmed s).length := by
      have hle := List.length_filter_le isKept (trimmed s)
      have hlength := hspells.length_eq
      rw [← cleaned_eq, hcleaned] at hle
      simp only [List.length_append, List.length_cons] at hle
      omega
    apply List.append_inj hsplit
    rw [List.length_take_of_le hlong, List.length_append, hspells.length_eq]
    rfl
  refine ⟨(trimmed s).drop (scheme.length + 3), ⟨spelling, ?_, hspells⟩, hfront.2⟩
  calc trimmed s = (trimmed s).take (scheme.length + 3) ++ (trimmed s).drop (scheme.length + 3) :=
        (List.take_append_drop _ _).symm
    _ = (spelling ++ [':', '/', '/']) ++ (trimmed s).drop (scheme.length + 3) := by rw [hfront.1]
    _ = spelling ++ ':' :: '/' :: '/' :: (trimmed s).drop (scheme.length + 3) := by
        rw [List.append_assoc]
        rfl

/-- No character of a scheme is left out. -/
theorem IsScheme.isKept (h : IsScheme spelling) (hc : c ∈ spelling) : isKept c = true := by
  have hmark := h.2 c hc
  unfold Source.isKept
  simp only [Bool.and_eq_true, bne_iff_ne, ne_eq]
  refine ⟨⟨?_, ?_⟩, ?_⟩ <;> (rintro rfl; cases hmark)

/-- What is written like an address is read as one, and nothing breaks up its beginning. -/
theorem IsUrl.readsAs (h : IsUrl s scheme rest)
    (haccepted : IsAccepted hosts scheme ('/' :: '/' :: rest.filter isKept)) :
    ReadsAs s scheme ('/' :: '/' :: rest.filter isKept) ∧
      ∀ c ∈ (trimmed s).take (scheme.length + 3), isKept c = true := by
  obtain ⟨spelling, htrimmed, hspells⟩ := h
  have hscheme := hspells.isScheme haccepted.isSmall
  have hmarks : ∀ c ∈ [':', '/', '/'], isKept c = true := List.all_eq_true.1 (by decide)
  have hkept : ∀ c ∈ spelling ++ [':', '/', '/'], isKept c = true := by
    intro c hc
    rcases List.mem_append.1 hc with hc | hc
    · exact hscheme.isKept hc
    · exact hmarks c hc
  have hsplit : trimmed s = (spelling ++ [':', '/', '/']) ++ rest := by
    rw [htrimmed, List.append_assoc]
    rfl
  constructor
  · refine ⟨spelling, ?_, hspells⟩
    rw [cleaned_eq, hsplit, List.filter_append, List.filter_eq_self.2 hkept, List.append_assoc]
    rfl
  · intro c hc
    rw [hsplit, List.take_left' (by simp [hspells.length_eq])] at hc
    exact hkept c hc

/-- The name of an account is not read as a scheme. -/
theorem not_readsAs_of_account (h : hostedMark <+: s.toList)
    (haccepted : IsAccepted hosts scheme rest) : ¬ ReadsAs s scheme rest := by
  rw [readsAs_iff haccepted.isSmall]
  have hmark : ∀ c ∈ hostedMark, isOuter c = false := by simp [hostedMark, isOuter]
  obtain ⟨more, hmore⟩ := prefix_trimmed hmark h
  -- Behind `git` there is neither a colon nor another mark of a scheme.
  have hcleaned : cleaned s = 'g' :: 'i' :: 't' :: '@' :: more.filter isKept := by
    rw [cleaned_eq, ← hmore, List.filter_append]
    rfl
  rw [hcleaned]
  exact nofun

/-- Loosely written addresses are none that are written as they should be. -/
theorem IsLoose.not_isDocumented (h : IsLoose hosts s) : ¬ IsDocumented hosts s := by
  have hread : ∃ scheme rest, ReadsAs s scheme rest ∧ IsAccepted hosts scheme rest ∧
      (¬ ['/', '/'] <+: rest ∨ ∃ c ∈ (trimmed s).take (scheme.length + 3), isKept c = false) := by
    cases h with
    | slashless hread haccepted hslashes => exact ⟨_, _, hread, haccepted, .inl hslashes⟩
    | broken hread haccepted hbreak => exact ⟨_, _, hread, haccepted, .inr hbreak⟩
  obtain ⟨scheme, rest, hread, haccepted, hloose⟩ := hread
  intro hdocumented
  cases hdocumented with
  | account haccount => exact not_readsAs_of_account haccount haccepted hread
  | @url scheme' rest' hurl haccepted' =>
    obtain ⟨hread', hkept⟩ := hurl.readsAs haccepted'
    -- There is only one way to read the text.
    rw [readsAs_iff haccepted.isSmall] at hread
    rw [readsAs_iff haccepted'.isSmall, hread] at hread'
    obtain ⟨rfl, rfl⟩ := Prod.mk.inj (Option.some.inj hread')
    rcases hloose with hslashes | ⟨c, hc, hbreak⟩
    · exact hslashes ⟨_, rfl⟩
    · rw [hkept c hc] at hbreak
      cases hbreak

/-- Whatever is fetched is an address, as it should be written or loosely written. -/
theorem isDocumented_or_isLoose_iff : IsDocumented hosts s ∨ IsLoose hosts s ↔
    isRepositoryAddress hosts s = true ∨ hostedMark <+: s.toList := by
  constructor
  · rintro ((haccount | ⟨hurl, haccepted⟩) | hloose)
    · exact .inr haccount
    · exact .inl (isRepositoryAddress_iff.2 ⟨_, _, (hurl.readsAs haccepted).1, haccepted⟩)
    · left
      rw [isRepositoryAddress_iff]
      cases hloose with
      | slashless hread haccepted => exact ⟨_, _, hread, haccepted⟩
      | broken hread haccepted => exact ⟨_, _, hread, haccepted⟩
  · rintro (haddress | haccount)
    · obtain ⟨scheme, rest, hread, haccepted⟩ := isRepositoryAddress_iff.1 haddress
      by_cases hslashes : ['/', '/'] <+: rest
      · by_cases hbreak : ∃ c ∈ (trimmed s).take (scheme.length + 3), isKept c = false
        · exact .inr (.broken hread haccepted hbreak)
        · obtain ⟨more, rfl⟩ := hslashes
          have hkept : ∀ c ∈ (trimmed s).take (scheme.length + 3), isKept c = true := by
            intro c hc
            rw [← Bool.not_eq_false]
            exact fun hdropped => hbreak ⟨c, hc, hdropped⟩
          obtain ⟨written, hurl, hrest⟩ := isUrl_of_readsAs hread hkept
          exact .inl (.url hurl (by rw [hrest]; exact haccepted))
      · exact .inr (.slashless hread haccepted hslashes)
    · exact .inl (.account haccount)

/-- The first character of an address is the first one of its scheme, unless a blank stands
there. -/
theorem head_of_address (hs : s.toList = c :: cs) (hc : isOuter c = false)
    (h : IsDocumented hosts s ∨ IsLoose hosts s) : c.toLower = 'h' ∨ c.toLower = 'g' := by
  rcases isDocumented_or_isLoose_iff.1 h with haddress | ⟨more, hmore⟩
  · obtain ⟨scheme, rest, ⟨spelling, hcleaned, hspells⟩, haccepted⟩ :=
      isRepositoryAddress_iff.1 haddress
    have hfront : [c] <+: trimmed s :=
      prefix_trimmed (List.forall_mem_singleton.2 hc) ⟨cs, hs.symm⟩
    obtain ⟨others, hothers⟩ := hfront
    rw [cleaned_eq, ← hothers, List.singleton_append,
      List.filter_cons_of_pos (isKept_of_not_isOuter hc)] at hcleaned
    -- The spelling is not empty, and the text begins with it.
    cases spelling with
    | nil => exact absurd (String.toList_eq_nil_iff.1 hspells.symm) haccepted.isSmall.ne_empty
    | cons first spelling =>
      obtain ⟨rfl, -⟩ := List.cons.inj hcleaned
      cases haccepted with
      | web => exact .inl (List.cons.inj hspells).1
      | host => exact .inr (List.cons.inj hspells).1
      | plain => exact .inr (List.cons.inj hspells).1
  · rw [hs] at hmore
    obtain ⟨rfl, -⟩ := List.cons.inj hmore
    exact .inr (by decide)

end Source

namespace TemplateSource

open Source

/-! ### Sources -/

theorem classify_eq (hosts : HostRules) (s : String) :
    (IsDocumented hosts s ∨ IsLoose hosts s → classify hosts s = .repository s) ∧
      (¬ (IsDocumented hosts s ∨ IsLoose hosts s) → classify hosts s = .directory ⟨s⟩) := by
  rw [isDocumented_or_isLoose_iff, ← List.isPrefixOf_iff_prefix, ← Bool.or_eq_true]
  exact ⟨fun h => if_pos h, fun h => if_neg h⟩

/-- A text names a repository if it is an address, written as it should be or loosely, and the path
of a directory in all other cases, in which the template is looked up in the file system and nothing
is fetched. It is so whichever hosts an address may have. No address is both well and loosely
written. A text that is no account and is not read as one of the two schemes with a colon behind it
is a path. So is one that begins neither with a blank nor with the first letter of a scheme, such as
an absolute path, whatever marks it has. -/
theorem only_addresses_are_fetched (hosts : HostRules) (fs : FileSystem) (checkout : Path)
    (clone : String → Except String FileSystem) (s : String) :
    (classify hosts s = .repository s ↔ IsDocumented hosts s ∨ IsLoose hosts s) ∧
    (classify hosts s = .directory ⟨s⟩ ↔ ¬ IsDocumented hosts s ∧ ¬ IsLoose hosts s) ∧
    (¬ IsDocumented hosts s → ¬ IsLoose hosts s →
      load fs checkout clone (classify hosts s) =
        if fs.isDirectory ⟨s⟩ then .ok ⟨⟨s⟩, fs, none⟩ else .error (.templateMissing ⟨s⟩)) ∧
    (IsLoose hosts s → ¬ IsDocumented hosts s) ∧
    ((∀ rest, ¬ ReadsAs s "https" rest) → (∀ rest, ¬ ReadsAs s "git" rest) →
      ¬ hostedMark <+: s.toList → classify hosts s = .directory ⟨s⟩) ∧
    ∀ c rest, s.toList = c :: rest → 32 < c.toNat → c.toLower ≠ 'h' → c.toLower ≠ 'g' →
      classify hosts s = .directory ⟨s⟩ := by
  obtain ⟨hfetched, hlocal⟩ := classify_eq hosts s
  refine ⟨⟨fun h => ?_, hfetched⟩, ⟨fun h => ?_, fun h => hlocal (not_or.2 h)⟩, ?_, ?_, ?_, ?_⟩
  · by_contra hnone
    rw [hlocal hnone] at h
    cases h
  · rw [← not_or]
    intro haddress
    rw [hfetched haddress] at h
    cases h
  · intro hdocumented hloose
    rw [hlocal (not_or.2 ⟨hdocumented, hloose⟩)]
    rw [load, loadDirectory]
    split <;> rfl
  · exact IsLoose.not_isDocumented
  · intro hweb hgit haccount
    apply hlocal
    rw [isDocumented_or_isLoose_iff, isRepositoryAddress_iff]
    rintro (⟨scheme, rest, hread, haccepted⟩ | h)
    · cases haccepted with
      | web => exact hweb rest hread
      | host => exact hgit _ hread
      | plain => exact hgit rest hread
    · exact haccount h
  · intro c rest hs hc hh hg
    apply hlocal
    intro haddress
    have houter : isOuter c = false := decide_eq_false (Nat.not_le.2 hc)
    exact (head_of_address hs houter haddress).elim hh hg

/-- Rules that allow a single host. -/
def singleHost : HostRules := ⟨(· == "example.com".toList), (· == "example.com".toList)⟩

/-- An absolute and a relative path with colons in them, an address without slashes, and one as it
should be written. -/
theorem only_addresses_are_fetched_of_colons :
    (classify singleHost "/srv/git:base" = .directory ⟨"/srv/git:base"⟩ ∧
      load {} ⟨"/checkout"⟩ .error (classify singleHost "/srv/git:base") =
        .error (.templateMissing ⟨"/srv/git:base"⟩)) ∧
    classify singleHost "github:base" = .directory ⟨"github:base"⟩ ∧
    (IsLoose singleHost "git:base" ∧ ¬ IsDocumented singleHost "git:base" ∧
      classify singleHost "git:base" = .repository "git:base") ∧
    IsDocumented singleHost "https://example.com/base" ∧
      classify singleHost "https://example.com/base" = .repository "https://example.com/base" := by
  obtain ⟨-, habsolute, hload, -, -, hhead⟩ :=
    only_addresses_are_fetched singleHost {} ⟨"/checkout"⟩ .error "/srv/git:base"
  obtain ⟨-, -, -, -, hother, -⟩ :=
    only_addresses_are_fetched singleHost {} ⟨"/checkout"⟩ .error "github:base"
  obtain ⟨hfetched, -, -, hloose, -, -⟩ :=
    only_addresses_are_fetched singleHost {} ⟨"/checkout"⟩ .error "git:base"
  obtain ⟨hweb, -⟩ :=
    only_addresses_are_fetched singleHost {} ⟨"/checkout"⟩ .error "https://example.com/base"
  refine ⟨?_, ?_, ?_, ?_⟩
  · have hlocal := hhead '/' "srv/git:base".toList (by decide) (by decide) (by decide) (by decide)
    obtain ⟨hdocumented, hnot⟩ := habsolute.1 hlocal
    refine ⟨hlocal, ?_⟩
    rw [hload hdocumented hnot]
    exact if_neg (by decide +kernel)
  · -- What stands before the colon is a scheme, but another one.
    have hscheme : schemeOf (cleaned "github:base") = some ("github", "base".toList) := by
      decide +kernel
    apply hother
    · intro rest hread
      rw [readsAs_iff isSmall_https, hscheme] at hread
      exact absurd (Prod.mk.inj (Option.some.inj hread)).1 (by decide)
    · intro rest hread
      rw [readsAs_iff isSmall_git, hscheme] at hread
      exact absurd (Prod.mk.inj (Option.some.inj hread)).1 (by decide)
    · decide
  · have hread : ReadsAs "git:base" "git" "base".toList := ⟨"git".toList, by decide, rfl⟩
    have hbase : IsLoose singleHost "git:base" := .slashless hread (.plain (by decide)) (by decide)
    exact ⟨hbase, hloose hbase, hfetched.2 (.inr hbase)⟩
  · have hurl : IsUrl "https://example.com/base" "https" "example.com/base".toList :=
      ⟨"https".toList, by decide, rfl⟩
    have hbase : IsDocumented singleHost "https://example.com/base" :=
      .url hurl (.web (by decide +kernel))
    exact ⟨hbase, hweb.2 (.inl hbase)⟩

/-- A directory can have a name that is taken for an address, though it has neither the slashes of
one nor the user of an account. No host is looked at. -/
theorem slashless_name_is_fetched :
    (∀ hosts, classify hosts "git:templates" = .repository "git:templates") ∧
      ¬ hostedMark <+: "git:templates".toList ∧
      ∀ scheme rest, ¬ IsUrl "git:templates" scheme rest := by
  refine ⟨fun hosts => ?_, by decide, ?_⟩
  · have hread : ReadsAs "git:templates" "git" "templates".toList := ⟨"git".toList, by decide, rfl⟩
    exact (classify_eq hosts "git:templates").1
      (.inr (.slashless hread (.plain (by decide)) (by decide)))
  · rintro scheme rest ⟨spelling, htrimmed, -⟩
    have hslash : '/' ∈ trimmed "git:templates" := by
      rw [htrimmed]
      simp
    exact absurd hslash (by decide +kernel)

end TemplateSource

end Scaffold
