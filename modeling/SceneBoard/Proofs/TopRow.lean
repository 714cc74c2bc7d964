import SceneBoard.Proofs.Placement

/-!
# Closing up the top row

Closing up the row moves scenes of the top row to the left or to the right and does nothing else: a
scene keeps everything but its left edge (`exists_moved_eq`), and one that is not in the row keeps
that as well (`moved_live_eq_self`, `moved_orphan_eq_self`).
-/

namespace SceneBoard.Draft

variable {d : Draft} {components : List Component} {settings : LayoutSettings}

/-! ## Moves -/

/-- Where the scenes of the top row of a draft go. -/
def goals (d : Draft) (components : List Component) (settings : LayoutSettings) :
    List (Slot × Int) :=
  targets settings (d.row components settings)

/-- A scene of a draft after the row is closed up. -/
def moved (d : Draft) (components : List Component) (settings : LayoutSettings) (slot : Slot)
    (p : PlacedScene) : PlacedScene :=
  match (d.goals components settings).lookup slot with
  | some left => moveTo p left
  | none => p

/-- The scenes left over are moved, each at its position. -/
theorem orphans_compact : (d.compact components settings).orphans =
    d.orphans.zipIdx.map fun o => d.moved components settings (.orphan o.2) o.1 :=
  rfl

/-- Closing up leaves every scene under its name. -/
theorem map_fst_compact :
    (d.compact components settings).assigned.map (·.1) = d.assigned.map (·.1) := by
  simp only [compact, List.map_map, Function.comp_def]

/-- The scene of a name is moved at its slot. -/
theorem scene?_compact (name : String) : (d.compact components settings).scene? name =
    (d.scene? name).map (d.moved components settings (.live name)) := by
  have hassigned : (d.compact components settings).assigned =
      d.assigned.map fun a => (a.1, d.moved components settings (.live a.1) a.2) := rfl
  rw [scene?, scene?, hassigned]
  induction d.assigned with
  | nil => rfl
  | cons a as ih =>
    obtain ⟨n, p⟩ := a
    -- the name looked for heads the list, or it comes later
    by_cases h : name = n
    · subst h
      simp
    · simp [List.lookup_cons, beq_false_of_ne h, ih]

/-- A scene without a goal stays where it is. -/
theorem moved_eq (slot : Slot) (p : PlacedScene) : d.moved components settings slot p =
    moveTo p (((d.goals components settings).lookup slot).getD p.scene.box.left) := by
  unfold moved
  -- with a goal the scene goes there, without one it stays
  split
  · rename_i left hleft
    rw [hleft]
    rfl
  · rename_i hnone
    rw [hnone]
    rfl

/-- A move changes the left edge only. -/
theorem exists_moved_eq (slot : Slot) (p : PlacedScene) :
    ∃ left, d.moved components settings slot p = moveTo p left :=
  ⟨_, moved_eq slot p⟩

/-- What does not depend on the left edge stays as it is. -/
theorem map_moved {α : Type} {f : PlacedScene → α} (hf : ∀ p left, f (moveTo p left) = f p)
    (ps : List PlacedScene) (k : Nat) :
    ((ps.zipIdx k).map fun o => d.moved components settings (.orphan o.2) o.1).map f = ps.map f := by
  induction ps generalizing k with
  | nil => rfl
  | cons p ps ih =>
    obtain ⟨left, h⟩ := @exists_moved_eq d components settings (.orphan k) p
    rw [List.zipIdx_cons, List.map_cons, List.map_cons, List.map_cons, ih, h, hf]

/-! ## The row -/

/-- The entry of a scene in the top row, if it stands there. -/
def entryOf? (components : List Component) (settings : LayoutSettings) (slot : Slot) (rank : Nat)
    (p : PlacedScene) : Option RowEntry :=
  if inTopRow components settings p then
    some ⟨slot, rowKind settings p, p.scene.box.left, rank⟩
  else none

/-- The entries of the top row, not in order. -/
def entries (d : Draft) (components : List Component) (settings : LayoutSettings) : List RowEntry :=
  (d.assigned.filterMap fun a =>
    entryOf? components settings (.live a.1) (rankOf components d.orphans.length a.1) a.2) ++
  d.orphans.zipIdx.filterMap fun o =>
    entryOf? components settings (.orphan o.2) (components.length + o.2) o.1

theorem row_eq :
    d.row components settings = (d.entries components settings).mergeSort RowEntry.le :=
  rfl

theorem row_eq_entries (h : (d.entries components settings).Pairwise fun a b => a.le b) :
    d.row components settings = d.entries components settings :=
  List.mergeSort_of_pairwise h

/-- Entries that are in order are the row as they are. -/
theorem row_eq_of_entries {row : List RowEntry} (h : d.entries components settings = row)
    (hrow : row.Pairwise fun a b => a.le b) : d.row components settings = row := by
  subst h
  exact row_eq_entries hrow

/-- A scene of the top row has an entry with its kind and its left edge. -/
theorem entryOf?_eq_some_iff {slot : Slot} {rank : Nat} {p : PlacedScene} {e : RowEntry} :
    entryOf? components settings slot rank p = some e ↔ inTopRow components settings p ∧
      e = ⟨slot, rowKind settings p, p.scene.box.left, rank⟩ := by
  unfold entryOf?
  split
  · rename_i h
    simp [h, eq_comm]
  · rename_i h
    simp [h]

/-- The entries are those of the scenes in the top row. -/
theorem mem_entries_iff {e : RowEntry} : e ∈ d.entries components settings ↔
    (∃ name p, (name, p) ∈ d.assigned ∧ inTopRow components settings p ∧
      e = ⟨.live name, rowKind settings p, p.scene.box.left,
        rankOf components d.orphans.length name⟩) ∨
    (∃ i p, d.orphans[i]? = some p ∧ inTopRow components settings p ∧
      e = ⟨.orphan i, rowKind settings p, p.scene.box.left, components.length + i⟩) := by
  rw [entries, List.mem_append, List.mem_filterMap, List.mem_filterMap]
  simp only [Prod.exists, entryOf?_eq_some_iff, List.mk_mem_zipIdx_iff_getElem?]
  exact or_congr_right ⟨fun ⟨p, i, h⟩ => ⟨i, p, h⟩, fun ⟨i, p, h⟩ => ⟨p, i, h⟩⟩

/-- Only scenes of the row have a place to go to. -/
private theorem exists_of_mem_targets {row : List RowEntry} {t : Slot × Int}
    (h : t ∈ targets settings row) : ∃ e ∈ row, e.slot = t.1 := by
  simp only [targets, List.mem_append, List.mem_map, Option.mem_toList] at h
  rcases h with (⟨e, he, rfl⟩ | ⟨e, he, rfl⟩) | ⟨⟨e, i⟩, he, rfl⟩
  · exact ⟨e, List.mem_of_find?_eq_some he, rfl⟩
  · exact ⟨e, List.mem_of_find?_eq_some he, rfl⟩
  · exact ⟨e, (List.mem_filter.1 (List.fst_mem_of_mem_zipIdx he)).1, rfl⟩

/-- A goal is that of an entry. -/
theorem exists_of_lookup_goals {slot : Slot} {left : Int}
    (h : (d.goals components settings).lookup slot = some left) :
    ∃ e ∈ d.entries components settings, e.slot = slot := by
  obtain ⟨e, he, hslot⟩ := exists_of_mem_targets (mem_of_lookup h)
  rw [row_eq, List.mem_mergeSort] at he
  exact ⟨e, he, hslot⟩

/-- A scene without an entry is not moved. -/
private theorem moved_eq_self {slot : Slot} {p : PlacedScene}
    (h : ∀ e ∈ d.entries components settings, e.slot ≠ slot) :
    d.moved components settings slot p = p := by
  unfold moved
  split
  · -- a goal would be that of an entry with this slot
    rename_i left hleft
    obtain ⟨e, he, hslot⟩ := exists_of_lookup_goals hleft
    exact absurd hslot (h e he)
  · rfl

/-- The scene of a component that is not in the top row stays where it is. -/
theorem moved_live_eq_self {name : String} {p : PlacedScene} (hd : (d.assigned.map (·.1)).Nodup)
    (hp : d.scene? name = some p) (hrow : inTopRow components settings p = false) :
    d.moved components settings (.live name) p = p := by
  refine moved_eq_self fun e he hslot => ?_
  rcases mem_entries_iff.1 he with ⟨n, q, hmem, hin, rfl⟩ | ⟨i, q, -, -, rfl⟩
  · -- the entry of this name would be of this scene, which is not in the row
    obtain rfl : n = name := Slot.live.inj hslot
    obtain rfl : p = q := Option.some.inj (hp.symm.trans (lookup_of_mem hd hmem))
    simp [hin] at hrow
  · -- the other entries have slots of scenes left over
    simp at hslot

/-- So does any other scene that is not in the top row. -/
theorem moved_orphan_eq_self {i : Nat} {p : PlacedScene} (hp : d.orphans[i]? = some p)
    (hrow : inTopRow components settings p = false) :
    d.moved components settings (.orphan i) p = p := by
  refine moved_eq_self fun e he hslot => ?_
  rcases mem_entries_iff.1 he with ⟨n, q, -, -, rfl⟩ | ⟨j, q, hq, hin, rfl⟩
  · -- a component has another slot
    simp at hslot
  · -- the entry at this position would be of this scene, which is not in the row
    obtain rfl : j = i := Slot.orphan.inj hslot
    obtain rfl : p = q := Option.some.inj (hp.symm.trans hq)
    simp [hin] at hrow

end SceneBoard.Draft
