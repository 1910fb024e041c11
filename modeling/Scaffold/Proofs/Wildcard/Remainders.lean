import Mathlib.Data.List.Basic
import Scaffold.Wildcard.Matching

/-! # Remainders

  A wildcard is matched by the remainders that its tokens leave of a text. All
  readings are kept at once; what they leave is what some reading leaves.

  - `toList_toUTF8`: the bytes of a text are those of its characters.
  - `mem_runs`, `mem_strip`, `mem_behindSlash`: the remainders behind a part.
  - `Leaves`: one reading of a sequence of tokens.
  - `seqMatches_iff`: a match is a reading that leaves nothing.
-/

namespace Scaffold.Wildcard

variable {crossing : Bool} {s r w : List UInt8}

/-! ### Bytes -/

/-- The bytes of an array, read one by one, are those that it holds. -/
theorem toList_eq_data (bytes : ByteArray) : bytes.toList = bytes.data.toList := by
  have hloop : ∀ i read, ByteArray.toList.loop bytes i read =
      read.reverse ++ bytes.data.toList.drop i := by
    intro i read
    fun_induction ByteArray.toList.loop bytes i read with
    | case1 i read hi ih =>
      have hget : bytes.get! i = bytes.data.toList[i] := getElem!_pos bytes.data i hi
      rw [ih, List.reverse_cons, List.append_assoc, hget, List.singleton_append,
        ← List.drop_eq_getElem_cons]
    | case2 i read hi =>
      rw [List.drop_eq_nil_of_le (Nat.le_of_not_lt hi), List.append_nil]
  unfold ByteArray.toList
  rw [hloop]
  rfl

/-- The bytes of a character are its encoding. -/
theorem charBytes_eq (c : Char) : charBytes c = String.utf8EncodeChar c := by
  unfold charBytes
  rw [toList_eq_data, String.toUTF8_eq_toByteArray, String.toByteArray_singleton]
  simp [List.utf8Encode]

/-- The bytes of a text are the bytes of its characters. -/
theorem toList_toUTF8 (text : String) : text.toUTF8.toList = text.toList.flatMap charBytes := by
  rw [toList_eq_data, String.toUTF8_eq_toByteArray, ← String.utf8Encode_toList]
  simp [List.utf8Encode, funext charBytes_eq]

@[simp] theorem charBytes_slash : charBytes '/' = [slash] := by decide +kernel

/-- Only a slash has the byte of a slash. -/
theorem slash_mem_charBytes {c : Char} : slash ∈ charBytes c ↔ c = '/' := by
  constructor
  · have hbyte : ∀ n, slash = UInt8.ofNat n → n % 256 = 47 := fun n hn => by
      simpa [slash] using (congrArg UInt8.toNat hn).symm
    rw [charBytes_eq]
    fun_cases String.utf8EncodeChar c with
    | case1 v hv =>
      intro h
      have hcode := hbyte v (List.mem_singleton.1 h)
      exact Char.toNat_inj.1 (show v = 47 by omega)
    | case2 v _ _ =>
      -- No byte of a longer encoding is that small.
      simp only [List.mem_cons, List.not_mem_nil, or_false]
      rintro (h | h) <;> have hcode := hbyte _ h <;> omega
    | case3 v _ _ _ =>
      simp only [List.mem_cons, List.not_mem_nil, or_false]
      rintro (h | h | h) <;> have hcode := hbyte _ h <;> omega
    | case4 v _ _ _ =>
      simp only [List.mem_cons, List.not_mem_nil, or_false]
      rintro (h | h | h | h) <;> have hcode := hbyte _ h <;> omega
  · rintro rfl
    simp

/-! ### Behind a part -/

/-- Behind a run is what any run of such bytes leaves. -/
theorem mem_runs {p : UInt8 → Bool} :
    r ∈ runs p s ↔ ∃ run, (∀ b ∈ run, p b = true) ∧ s = run ++ r := by
  induction s with
  | nil =>
    unfold runs
    constructor
    · intro h
      exact ⟨[], nofun, (List.mem_singleton.1 h).symm⟩
    · rintro ⟨run, -, h⟩
      exact List.mem_singleton.2 (List.append_eq_nil_iff.1 h.symm).2
  | cons b rest ih =>
    unfold runs
    rw [List.mem_cons]
    constructor
    · rintro (rfl | h)
      · exact ⟨[], nofun, rfl⟩
      · split at h
        · next hb =>
          obtain ⟨run, hrun, rfl⟩ := ih.1 h
          exact ⟨b :: run, List.forall_mem_cons.2 ⟨hb, hrun⟩, rfl⟩
        · cases h
    · rintro ⟨run, hrun, h⟩
      cases run with
      | nil => exact .inl h.symm
      | cons c run =>
        obtain ⟨rfl, rfl⟩ := List.cons.inj h
        obtain ⟨hb, hmore⟩ := List.forall_mem_cons.1 hrun
        rw [if_pos hb]
        exact .inr (ih.2 ⟨run, hmore, rfl⟩)

/-- Behind a fixed beginning is what is left of it. -/
theorem mem_strip {bytes : List UInt8} : r ∈ strip bytes s ↔ s = bytes ++ r := by
  induction bytes generalizing s with
  | nil => exact List.mem_singleton.trans eq_comm
  | cons b bytes ih =>
    cases s with
    | nil => simp [strip]
    | cons c rest =>
      unfold strip
      split
      · next h => rw [h, ih, List.cons_append, List.cons_inj_right]
      · next h =>
        refine iff_of_false List.not_mem_nil fun hsame => h ?_
        exact (List.cons.inj hsame).1.symm

/-- Behind a slash is what follows any slash. -/
theorem mem_behindSlash : r ∈ behindSlash s ↔ ∃ run, s = run ++ slash :: r := by
  unfold behindSlash
  rw [List.mem_flatMap]
  constructor
  · rintro ⟨m, hm, hr⟩
    obtain ⟨run, -, rfl⟩ := mem_runs.1 hm
    exact ⟨run, by rw [mem_strip.1 hr]; rfl⟩
  · rintro ⟨run, rfl⟩
    exact ⟨slash :: r, mem_runs.2 ⟨run, fun _ _ => rfl, rfl⟩, mem_strip.2 rfl⟩

theorem suffix_of_mem_behindSlash (h : r ∈ behindSlash s) : r <:+ s := by
  obtain ⟨run, rfl⟩ := mem_behindSlash.1 h
  exact (List.suffix_cons slash r).trans (List.suffix_append run _)

/-! ### Remainders are endings -/

/-- Endings of one text that are equally long are equal: only one of them has to be kept. -/
theorem mem_distinct {texts : List (List UInt8)} (h : ∀ x ∈ texts, x <:+ w) :
    r ∈ distinct texts ↔ r ∈ texts := by
  induction texts with
  | nil => rfl
  | cons x rest ih =>
    obtain ⟨hx, hrest⟩ := List.forall_mem_cons.1 h
    unfold distinct
    rw [List.mem_cons, List.mem_cons, List.mem_filter, ih hrest]
    constructor
    · rintro (rfl | ⟨hr, -⟩)
      · exact .inl rfl
      · exact .inr hr
    · rintro (rfl | hr)
      · exact .inl rfl
      · by_cases hlength : r.length = x.length
        · refine .inl ?_
          have hsuffix := List.suffix_of_suffix_length_le (hrest r hr) hx (Nat.le_of_eq hlength)
          exact hsuffix.eq_of_length hlength
        · exact .inr ⟨hr, by simpa using hlength⟩

theorem distinct_subset (texts : List (List UInt8)) : distinct texts ⊆ texts := by
  induction texts with
  | nil => exact List.Subset.refl _
  | cons x rest ih =>
    unfold distinct
    exact List.cons_subset_cons x fun y hy => ih (List.mem_filter.1 hy).1

mutual

/-- What a token leaves is an ending of the text. -/
theorem Token.suffix_of_mem_rests {s r : List UInt8} :
    (t : Token) → r ∈ t.rests crossing s → r <:+ s
  | .literal c, h => ⟨charBytes c, (mem_strip.1 h).symm⟩
  | .any, h => by
    cases s with
    | nil => cases h
    | cons b rest =>
      simp only [Token.rests, List.mem_ite_nil_right, List.mem_singleton] at h
      rw [h.2]
      exact List.suffix_cons b rest
  | .zeroOrMore, h => by
    obtain ⟨run, -, rfl⟩ := mem_runs.1 h
    exact List.suffix_append run r
  | .recursivePrefix, h => by
    unfold Token.rests at h
    rcases List.mem_append.1 h with h | h
    · rcases List.mem_cons.1 h with rfl | h
      · exact List.suffix_refl r
      · exact ⟨[slash], (mem_strip.1 h).symm⟩
    · exact suffix_of_mem_behindSlash h
  | .recursiveSuffix, h => by
    obtain ⟨m, hm, hr⟩ := List.mem_flatMap.1 h
    obtain ⟨run, -, rfl⟩ := mem_runs.1 hr
    rw [mem_strip.1 hm]
    exact ⟨slash :: run, rfl⟩
  | .recursiveZeroOrMore, h => by
    obtain ⟨m, hm, hr⟩ := List.mem_flatMap.1 h
    rw [mem_strip.1 hm]
    rcases List.mem_cons.1 hr with rfl | hr
    · exact List.suffix_append [slash] r
    · exact (suffix_of_mem_behindSlash hr).trans (List.suffix_append [slash] m)
  | .charClass negated ranges, h => by
    cases s with
    | nil => cases h
    | cons b rest =>
      simp only [Token.rests, List.mem_ite_nil_right, List.mem_singleton] at h
      rw [h.2]
      exact List.suffix_cons b rest
  | .alternates branches, h => by
    unfold Token.rests at h
    split at h
    · obtain rfl := List.mem_singleton.1 h
      exact List.suffix_refl r
    · exact suffix_of_mem_branchRests branches h

/-- What branches leave is an ending of the text. -/
theorem suffix_of_mem_branchRests {s r : List UInt8} :
    (branches : List (List Token)) → r ∈ branchRests crossing branches s → r <:+ s
  | [], h => by cases h
  | b :: bs, h => by
    unfold branchRests at h
    rcases List.mem_append.1 h with h | h
    · split at h
      · cases h
      · exact suffix_of_mem_seqRests b (by simp) h
    · exact suffix_of_mem_branchRests bs h

/-- What a sequence leaves of endings of a text is an ending of it. -/
theorem suffix_of_mem_seqRests {w r : List UInt8} {texts : List (List UInt8)} :
    (ts : List Token) → (∀ x ∈ texts, x <:+ w) → r ∈ seqRests crossing ts texts → r <:+ w
  | [], htexts, h => htexts r h
  | t :: ts, htexts, h => by
    unfold seqRests at h
    refine suffix_of_mem_seqRests ts (fun x hx => ?_) h
    obtain ⟨y, hy, hxy⟩ := List.mem_flatMap.1 (distinct_subset _ hx)
    exact (Token.suffix_of_mem_rests t hxy).trans (htexts y hy)

end

/-! ### Readings -/

/-- The tokens, read one after the other, can leave `r` of the text. -/
def Leaves (crossing : Bool) : List Token → List UInt8 → List UInt8 → Prop
  | [], s, r => r = s
  | t :: ts, s, r => ∃ m ∈ t.rests crossing s, Leaves crossing ts m r

/-- A reading of two sequences reads one and then the other. -/
theorem leaves_append {a b : List Token} :
    Leaves crossing (a ++ b) s r ↔ ∃ m, Leaves crossing a s m ∧ Leaves crossing b m r := by
  induction a generalizing s with
  | nil => simp [Leaves]
  | cons t ts ih =>
    simp only [List.cons_append, Leaves, ih]
    constructor
    · rintro ⟨m, hm, k, hk, hr⟩
      exact ⟨k, ⟨m, hm, hk⟩, hr⟩
    · rintro ⟨k, ⟨m, hm, hk⟩, hr⟩
      exact ⟨m, hm, k, hk, hr⟩

/-- What all readings at once leave is what some reading leaves. -/
theorem mem_seqRests {ts : List Token} {texts : List (List UInt8)} (h : ∀ x ∈ texts, x <:+ w) :
    r ∈ seqRests crossing ts texts ↔ ∃ x ∈ texts, Leaves crossing ts x r := by
  induction ts generalizing texts with
  | nil => simp [seqRests, Leaves]
  | cons t ts ih =>
    have hrests : ∀ m ∈ texts.flatMap (t.rests crossing), m <:+ w := by
      intro m hm
      obtain ⟨x, hx, hmx⟩ := List.mem_flatMap.1 hm
      exact (t.suffix_of_mem_rests hmx).trans (h x hx)
    unfold seqRests
    rw [ih fun m hm => hrests m (distinct_subset _ hm)]
    constructor
    · rintro ⟨m, hm, hr⟩
      obtain ⟨x, hx, hmx⟩ := List.mem_flatMap.1 (distinct_subset _ hm)
      exact ⟨x, hx, m, hmx, hr⟩
    · rintro ⟨x, hx, m, hmx, hr⟩
      exact ⟨m, (mem_distinct hrests).2 (List.mem_flatMap.2 ⟨x, hx, hmx⟩), hr⟩

/-- A match is a reading that leaves nothing. -/
theorem seqMatches_iff {ts : List Token} :
    seqMatches crossing ts s = true ↔ Leaves crossing ts s [] := by
  unfold seqMatches
  rw [List.contains_iff_mem, mem_seqRests (w := s) (by simp)]
  simp

end Scaffold.Wildcard
