import Scaffold.Proofs.Wildcard.Remainders

/-! # The order of texts by their bytes

  Texts are ordered by the numbers of their characters. Encoded as bytes they
  have the same order: of two characters, the one with the smaller number has
  the smaller byte where their encodings differ first, and no encoding is the
  beginning of another one.

  - `charBytes_lt`: the order of two characters.
  - `bytes_lt_iff`: the order of two texts.
-/

namespace Scaffold.Text

open Wildcard (charBytes charBytes_eq toList_toUTF8)

variable {c d : Char} {s t : List UInt8} {cs ds : List Char}

/-! ### Characters -/

/-- The first byte decides, or what follows it if it is the same. -/
theorem cons_lt_cons_of_le {x y : Nat} (hle : x ≤ y) (hy : y < 256) (h : x = y → s < t) :
    UInt8.ofNat x :: s < UInt8.ofNat y :: t := by
  rw [List.cons_lt_cons_iff]
  rcases Nat.lt_or_eq_of_le hle with hlt | rfl
  · left
    rw [UInt8.lt_iff_toNat_lt, UInt8.toNat_ofNat_of_lt' (Nat.lt_trans hlt hy),
      UInt8.toNat_ofNat_of_lt' hy]
    exact hlt
  · exact .inr ⟨rfl, h rfl⟩

theorem cons_lt_cons_of_lt {x y : Nat} (hlt : x < y) (hy : y < 256) (s t : List UInt8) :
    UInt8.ofNat x :: s < UInt8.ofNat y :: t :=
  cons_lt_cons_of_le (Nat.le_of_lt hlt) hy fun heq => absurd heq (Nat.ne_of_lt hlt)

/-- The character with the smaller number has the smaller bytes, whatever follows. -/
theorem charBytes_lt (h : c < d) (s t : List UInt8) : charBytes c ++ s < charBytes d ++ t := by
  have hnat : c.val.toNat < d.val.toNat := UInt32.lt_iff_toNat_lt.1 h
  have hmax : d.val.toNat < 1114112 := by
    rcases d.valid with hlow | ⟨-, hhigh⟩
    · exact Nat.lt_trans hlow (by decide)
    · exact hhigh
  rw [charBytes_eq, charBytes_eq]
  -- Of encodings of different lengths the first bytes differ. Those of one length are the digits of
  -- the number to the base 64, the first of which is the highest.
  fun_cases String.utf8EncodeChar c with
  | case1 v hv =>
    fun_cases String.utf8EncodeChar d with
    | case1 w hw => exact cons_lt_cons_of_lt hnat (by omega) _ _
    | case2 w hw hw₂ => exact cons_lt_cons_of_lt (by omega) (by omega) _ _
    | case3 w hw hw₂ hw₃ => exact cons_lt_cons_of_lt (by omega) (by omega) _ _
    | case4 w hw hw₂ hw₃ => exact cons_lt_cons_of_lt (by omega) (by omega) _ _
  | case2 v hv hv₂ =>
    fun_cases String.utf8EncodeChar d with
    | case1 w hw => omega
    | case2 w hw hw₂ =>
      refine cons_lt_cons_of_le (by omega) (by omega) fun hfirst => ?_
      exact cons_lt_cons_of_lt (by omega) (by omega) _ _
    | case3 w hw hw₂ hw₃ => exact cons_lt_cons_of_lt (by omega) (by omega) _ _
    | case4 w hw hw₂ hw₃ => exact cons_lt_cons_of_lt (by omega) (by omega) _ _
  | case3 v hv hv₂ hv₃ =>
    fun_cases String.utf8EncodeChar d with
    | case1 w hw => omega
    | case2 w hw hw₂ => omega
    | case3 w hw hw₂ hw₃ =>
      refine cons_lt_cons_of_le (by omega) (by omega) fun hfirst => ?_
      refine cons_lt_cons_of_le (by omega) (by omega) fun hsecond => ?_
      exact cons_lt_cons_of_lt (by omega) (by omega) _ _
    | case4 w hw hw₂ hw₃ => exact cons_lt_cons_of_lt (by omega) (by omega) _ _
  | case4 v hv hv₂ hv₃ =>
    fun_cases String.utf8EncodeChar d with
    | case1 w hw => omega
    | case2 w hw hw₂ => omega
    | case3 w hw hw₂ hw₃ => omega
    | case4 w hw hw₂ hw₃ =>
      refine cons_lt_cons_of_le (by omega) (by omega) fun hfirst => ?_
      refine cons_lt_cons_of_le (by omega) (by omega) fun hsecond => ?_
      refine cons_lt_cons_of_le (by omega) (by omega) fun hthird => ?_
      exact cons_lt_cons_of_lt (by omega) (by omega) _ _

theorem charBytes_ne_nil (c : Char) : charBytes c ≠ [] := by
  rw [charBytes_eq]
  fun_cases String.utf8EncodeChar c <;> exact List.cons_ne_nil _ _

/-! ### Texts -/

/-- What is before in the order of characters is before in the order of bytes. -/
theorem flatMap_charBytes_lt (h : cs < ds) : cs.flatMap charBytes < ds.flatMap charBytes := by
  induction cs generalizing ds with
  | nil =>
    cases ds with
    | nil => exact absurd h (List.lt_irrefl [])
    | cons d ds =>
      rw [List.flatMap_nil, List.flatMap_cons]
      obtain ⟨b, bytes, hbytes⟩ := List.exists_cons_of_ne_nil (charBytes_ne_nil d)
      rw [hbytes]
      exact List.nil_lt_cons b _
  | cons c cs ih =>
    cases ds with
    | nil => exact absurd h (List.not_lt_nil _)
    | cons d ds =>
      rw [List.flatMap_cons, List.flatMap_cons]
      rcases List.cons_lt_cons_iff.1 h with hlt | ⟨rfl, hrest⟩
      · exact charBytes_lt hlt _ _
      · generalize charBytes c = bytes
        induction bytes with
        | nil => exact ih hrest
        | cons b bytes ihb => exact List.cons_lt_cons_iff.2 (.inr ⟨rfl, ihb⟩)

/-- The order of texts is the order of their bytes. -/
theorem bytes_lt_iff {a b : String} : a.toUTF8.toList < b.toUTF8.toList ↔ a < b := by
  have hforth : ∀ {a b : String}, a < b → a.toUTF8.toList < b.toUTF8.toList := by
    intro a b h
    rw [toList_toUTF8, toList_toUTF8]
    exact flatMap_charBytes_lt h
  refine ⟨fun h => ?_, hforth⟩
  rcases String.le_total a b with hle | hle
  · refine Std.lt_of_le_of_ne hle ?_
    rintro rfl
    exact List.lt_irrefl _ h
  · by_cases heq : b = a
    · rw [heq] at h
      exact absurd h (List.lt_irrefl _)
    · exact absurd (hforth (Std.lt_of_le_of_ne hle heq)) (List.lt_asymm h)

end Scaffold.Text
