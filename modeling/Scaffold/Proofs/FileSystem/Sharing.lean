import Scaffold.Proofs.FileSystem.Following

/-! # File systems that share a tree

  Two file systems that agree on what is at a root and below it cannot be told
  apart by paths that pass the root and never lead up from there, whatever else
  they hold.

  - `SharesBelow`: the agreement.
  - `follow_join`: what is joined to a path is followed from where the path leads.
  - `readText_join_congr`: files below the root are read alike.
-/

namespace Scaffold

open Scaffold.Path (IsIdle IsPlain)

namespace FileSystem

variable {fs fs' : FileSystem} {l m : Location} {root : Path} {name text : String}
  {names : List String}

/-! ### Agreement -/

/-- The root leads to the same place in both file systems, or is refused alike, and what is there
and below is the same. -/
structure SharesBelow (root : Path) (fs fs' : FileSystem) : Prop where
  /-- The root leads to the same place, or nowhere for the same reason. -/
  way : fs.follow (fs.origin root) root.names = fs'.follow (fs'.origin root) root.names
  /-- Both have the same there and below. -/
  entries : ∀ l m, fs.follow (fs.origin root) root.names = .ok l → l <+: m →
    fs.get? m = fs'.get? m

/-! ### Names that never lead up -/

/-- A name that does not lead up leads down or nowhere. -/
theorem prefix_turn (h : name ≠ "..") (l : Location) : l <+: turn l name := by
  rw [turn, if_neg h]
  split
  · exact List.prefix_refl l
  · exact List.prefix_append l [name]

/-- Names that never lead up lead down or nowhere. -/
theorem prefix_of_follow (hup : ".." ∉ names) (h : fs.follow l names = .ok m) : l <+: m := by
  induction names generalizing l with
  | nil => exact Except.ok.inj h ▸ List.prefix_refl l
  | cons name rest ih =>
    obtain ⟨k, -, hstep, hrest⟩ := follow_cons_ok h
    have hname : name ≠ ".." := fun e => hup (e ▸ List.mem_cons_self)
    have hk := ih (fun hmem => hup (List.mem_cons_of_mem name hmem)) hrest
    rw [(step_eq_ok.1 hstep).1] at hk
    exact (prefix_turn hname l).trans hk

/-- Names that never lead up are followed alike where the same is below. -/
theorem follow_congr (hsame : ∀ m, l <+: m → fs.get? m = fs'.get? m) (hup : ".." ∉ names) :
    fs.follow l names = fs'.follow l names := by
  induction names generalizing l with
  | nil => rfl
  | cons name rest ih =>
    have hname : name ≠ ".." := fun e => hup (e ▸ List.mem_cons_self)
    have hdir : fs.isDirectoryAt l = fs'.isDirectoryAt l := by
      unfold isDirectoryAt
      rw [hsame l (List.prefix_refl l)]
    have hstep : fs.step l name = fs'.step l name := by
      unfold step
      rw [if_neg hname, if_neg hname, hsame _ (List.prefix_append l [name])]
    rw [follow_cons, follow_cons, hdir, hstep]
    split
    · cases hnext : fs'.step l name with
      | error fault => rfl
      | ok k =>
        -- Where the name leads there is less below, and it is the same.
        have hbelow : l <+: k := (step_eq_ok.1 hnext).1 ▸ prefix_turn hname l
        exact ih (fun m hm => hsame m (hbelow.trans hm))
          fun hmem => hup (List.mem_cons_of_mem name hmem)
    · rfl

/-! ### Joined paths -/

theorem names_ne_nil (path : Path) : path.names ≠ [] := Text.splitAt_ne_nil '/' path.text

/-- The names of a joined path are those of the base, less an empty one at the end, and those of
what is joined to it. The base can be empty. -/
theorem names_join_any (root : Path) (hrel : Path.isAbsolute ⟨name⟩ = false) :
    ∃ front, (root.join name).names = front ++ Path.names ⟨name⟩ ∧
      (root.names = front ∨ root.names = front ++ [""]) ∧
      (root.join name).isAbsolute = root.isAbsolute := by
  by_cases hempty : root.text = ""
  · obtain rfl : root = ⟨""⟩ := congrArg Path.mk hempty
    have hjoin := Path.join_empty hrel
    exact ⟨[], by rw [hjoin]; rfl, .inr rfl, by rw [hjoin, hrel]; rfl⟩
  · obtain ⟨front, hnames, -, hfront⟩ := Path.names_join hempty hrel
    exact ⟨front, hnames, hfront, Path.isAbsolute_join hempty hrel⟩

/-- What is joined to a path is followed from where the path leads. -/
theorem follow_join (fs : FileSystem) (root : Path) (hrel : Path.isAbsolute ⟨name⟩ = false) :
    fs.follow (fs.origin (root.join name)) (root.join name).names =
      (fs.follow (fs.origin root) root.names).bind (fs.follow · (Path.names ⟨name⟩)) := by
  obtain ⟨front, hnames, hfront, habs⟩ := names_join_any root hrel
  rw [origin_eq rfl habs, hnames, follow_append]
  rcases hfront with heq | heq
  · rw [heq]
  · rw [heq, follow_append]
    cases fs.follow (fs.origin root) front with
    | error fault => rfl
    | ok k =>
      -- The empty name at the end asks for a directory, and so does the first of the other names.
      obtain ⟨first, rest, hfirst⟩ := List.exists_cons_of_ne_nil (names_ne_nil ⟨name⟩)
      show fs.follow k (Path.names ⟨name⟩) =
        (fs.follow k [""]).bind (fs.follow · (Path.names ⟨name⟩))
      by_cases hdir : fs.isDirectoryAt k = true
      · rw [show fs.follow k [""] = .ok k from follow_slashes (k := 1) (.inr hdir)]
        rfl
      · rw [hfirst, follow_cons, if_neg hdir, follow_cons, if_neg hdir]
        rfl

/-- A path below the root leads to the same place in both file systems, where both have the same. -/
theorem locate_join_congr (h : SharesBelow root fs fs') (hrel : Path.isAbsolute ⟨name⟩ = false)
    (hup : ".." ∉ Path.names ⟨name⟩) :
    fs.locate (root.join name) = fs'.locate (root.join name) ∧
      ∀ m, fs.locate (root.join name) = .ok m → fs.get? m = fs'.get? m := by
  have hfollow : fs.follow (fs.origin (root.join name)) (root.join name).names =
      fs'.follow (fs'.origin (root.join name)) (root.join name).names := by
    rw [follow_join fs root hrel, follow_join fs' root hrel, ← h.way]
    cases hroot : fs.follow (fs.origin root) root.names with
    | error fault => rfl
    | ok l => exact follow_congr (fun m hm => h.entries l m hroot hm) hup
  refine ⟨?_, fun m hm => ?_⟩
  · unfold locate
    cases hnames : pathNames (root.join name) with
    | error fault => rfl
    | ok names =>
      obtain ⟨-, rfl⟩ := pathNames_eq_ok.1 hnames
      exact hfollow
  · have hway := (locate_eq_ok.1 hm).2
    rw [follow_join fs root hrel] at hway
    cases hroot : fs.follow (fs.origin root) root.names with
    | error fault => rw [hroot] at hway; cases hway
    | ok l =>
      rw [hroot] at hway
      exact h.entries l m hroot (prefix_of_follow hup hway)

/-- A path below the root has the same text in both file systems, or is refused alike. -/
theorem readText_join_congr (h : SharesBelow root fs fs') (hrel : Path.isAbsolute ⟨name⟩ = false)
    (hup : ".." ∉ Path.names ⟨name⟩) :
    fs.readText (root.join name) = fs'.readText (root.join name) := by
  obtain ⟨hlocate, hsame⟩ := locate_join_congr h hrel hup
  unfold readText readBytes
  rw [← hlocate]
  cases hl : fs.locate (root.join name) with
  | error fault => rfl
  | ok m =>
    simp only [bind, Except.bind]
    rw [hsame m hl]

end FileSystem

end Scaffold
