import Scaffold.Proofs.FileSystem.Visiting

/-! # The order of listing

  A walk in listing order comes to a directory before all that the directory
  holds, and it comes to nothing else until it has been through that. What
  decides are the positions of an entry and of the directories above it.

  - `positionsLe_total`, `positionsLe_trans`: positions are in order.
  - `prefix_of_positionsLe`: what lies between positions with a common beginning
    has the same beginning.
  - `prefix_of_listed_between`: what lies below an entry stands in one piece.
  - `collectAsListed_pairwise`: every entry is in order with all that follow it.
-/

namespace Scaffold.FileSystem

/-! ### Positions -/

theorem positionsLe_cons {p q : Nat} {a b : List Nat} :
    positionsLe (p :: a) (q :: b) ↔ p < q ∨ (p = q ∧ positionsLe a b) := by
  rw [positionsLe]
  by_cases hpq : p = q
  · simp [hpq]
  · simp [hpq]

theorem positionsLe_total (a b : List Nat) : positionsLe a b || positionsLe b a := by
  rw [Bool.or_eq_true]
  induction a generalizing b with
  | nil => exact .inl rfl
  | cons p a ih =>
    cases b with
    | nil => exact .inr rfl
    | cons q b =>
      rw [positionsLe_cons, positionsLe_cons]
      rcases Nat.lt_trichotomy p q with hlt | heq | hlt
      · exact .inl (.inl hlt)
      · exact (ih b).imp (fun h => .inr ⟨heq, h⟩) fun h => .inr ⟨heq.symm, h⟩
      · exact .inr (.inl hlt)

theorem positionsLe_trans (a b c : List Nat) (hab : positionsLe a b) (hbc : positionsLe b c) :
    positionsLe a c := by
  induction a generalizing b c with
  | nil => rfl
  | cons p a ih =>
    cases b with
    | nil => cases hab
    | cons q b =>
      cases c with
      | nil => cases hbc
      | cons r c =>
        rw [positionsLe_cons] at hab hbc ⊢
        rcases hab with hpq | ⟨rfl, hab⟩
        · rcases hbc with hqr | ⟨rfl, -⟩
          · exact .inl (Nat.lt_trans hpq hqr)
          · exact .inl hpq
        · exact hbc.imp_right fun h => ⟨h.1, ih b c hab h.2⟩

theorem positionsLe_append (a more : List Nat) : positionsLe a (a ++ more) := by
  induction a with
  | nil => rfl
  | cons p a ih => exact positionsLe_cons.2 (.inr ⟨rfl, ih⟩)

/-- What lies between positions with a common beginning has the same beginning. -/
theorem prefix_of_positionsLe {a b more : List Nat} (hab : positionsLe a b)
    (hba : positionsLe b (a ++ more)) : a <+: b := by
  induction a generalizing b with
  | nil => exact List.nil_prefix
  | cons p a ih =>
    cases b with
    | nil => cases hab
    | cons q b =>
      rw [List.cons_append, positionsLe_cons] at hba
      rw [positionsLe_cons] at hab
      have hsame : p = q ∧ positionsLe a b ∧ positionsLe b (a ++ more) := by
        rcases hab with hpq | ⟨rfl, hab⟩
        · rcases hba with hqp | ⟨rfl, -⟩
          · omega
          · omega
        · exact ⟨rfl, hab, (hba.resolve_left (Nat.lt_irrefl p)).2⟩
      obtain ⟨rfl, hab', hba'⟩ := hsame
      exact List.prefix_cons_inj _ |>.2 (ih hab' hba')

/-! ### Positions of entries -/

variable {fs : FileSystem} {l : Location} {v w x : Visited}

/-- Only one location has the position of an entry. -/
theorem position_inj {a b : Location} {entry : Entry} (ha : (a, entry) ∈ fs.entries)
    (h : fs.position a = fs.position b) : a = b := by
  have hlt : fs.position a < fs.entries.length :=
    List.findIdx_lt_length_of_exists ⟨_, ha, beq_self_eq_true a⟩
  have hfound := List.findIdx_getElem (w := hlt)
  have hother := List.findIdx_getElem (w := h ▸ hlt)
  rw [beq_iff_eq] at hfound hother
  unfold position at h
  simp only [h] at hfound
  exact hfound.symm.trans hother

theorem length_positions (fs : FileSystem) (l : Location) (v : Visited) :
    (fs.positions l v).length = v.relative.length := by
  simp [positions]

/-- The positions on the way to an entry begin with those of what is above it. -/
theorem positions_prefix (fs : FileSystem) (l : Location) (h : v.relative <+: w.relative) :
    fs.positions l v <+: fs.positions l w := by
  obtain ⟨more, hmore⟩ := h
  rw [List.prefix_iff_eq_take, length_positions]
  unfold positions
  rw [← List.map_take, List.take_range, ← hmore, List.length_append,
    Nat.min_eq_left (Nat.le_add_right _ _)]
  refine List.map_congr_left fun i hi => ?_
  rw [List.take_append_of_le_length (List.mem_range.1 hi)]

/-- If positions begin with those of an entry, they belong to what is at or below it. -/
theorem prefix_of_positions (hv : v ∈ fs.below l) (h : fs.positions l v <+: fs.positions l w) :
    v.relative <+: w.relative := by
  obtain ⟨hmem, hne⟩ := mem_below.1 hv
  have hpos := List.length_pos_iff.2 hne
  have hle := h.length_le
  rw [length_positions, length_positions] at hle
  -- The last of the positions is that of the entry itself.
  have hlast := h.getElem (i := v.relative.length - 1) (by rw [length_positions]; omega)
  simp only [positions, List.getElem_map, List.getElem_range, Nat.sub_add_cancel hpos,
    List.take_length] at hlast
  rw [List.append_cancel_left (position_inj hmem hlast)]
  exact List.take_prefix _ _

/-- What is above an entry is in order with it. -/
theorem positionsLe_of_prefix (h : v.relative <+: w.relative) :
    positionsLe (fs.positions l v) (fs.positions l w) := by
  obtain ⟨more, hmore⟩ := positions_prefix fs l h
  rw [← hmore]
  exact positionsLe_append _ more

/-- Between an entry and what lies below it there is only what lies below it. -/
theorem prefix_of_listed_between (hv : v ∈ fs.below l)
    (hvw : positionsLe (fs.positions l v) (fs.positions l w))
    (hwx : positionsLe (fs.positions l w) (fs.positions l x)) (hpre : v.relative <+: x.relative) :
    v.relative <+: w.relative := by
  obtain ⟨more, hmore⟩ := positions_prefix fs l hpre
  rw [← hmore] at hwx
  exact prefix_of_positions hv (prefix_of_positionsLe hvw hwx)

/-! ### Listings -/

theorem collectAsListed_pairwise (fs : FileSystem) (l : Location) :
    (fs.collectAsListed l).Pairwise fun v w =>
      positionsLe (fs.positions l v) (fs.positions l w) :=
  List.pairwise_mergeSort
    (fun v w x => positionsLe_trans (fs.positions l v) (fs.positions l w) (fs.positions l x))
    (fun v w => positionsLe_total (fs.positions l v) (fs.positions l w)) (fs.below l)

end Scaffold.FileSystem
