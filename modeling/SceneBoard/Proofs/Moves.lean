import Mathlib.Data.List.Forall2
import SceneBoard.Proofs.LayoutScenes

/-!
# From a draft to its layout

When every component has a scene, two things still happen to a draft: its top row is closed up and
the ids of its scenes are made distinct. Scene by scene both change very little (`IsMovedTo`): the id,
and the left edge of a scene of the row. So what two scenes of a draft have in common, apart from
these, the scenes of the layout have in common as well.

## Key results

- `perm_inOrder`: the scenes of a draft in their final order are its scenes
- `forall₂_finish`: what becomes of each of them
-/

namespace SceneBoard

open Draft

/-- The scene `q` is the scene `p` under another id, perhaps, and at another left edge if it belongs
to the top row. -/
structure IsMovedTo (components : List Component) (settings : LayoutSettings)
    (p q : PlacedScene) : Prop where
  eq : q = { p with scene := { p.scene with
    id := q.scene.id, box := { p.scene.box with left := q.scene.box.left } } }
  left : inTopRow components settings p = false → q.scene.box.left = p.scene.box.left

namespace IsMovedTo

variable {components : List Component} {settings : LayoutSettings} {p q : PlacedScene}

theorem origin (h : IsMovedTo components settings p q) : q.origin = p.origin := by
  rw [h.eq]

theorem top (h : IsMovedTo components settings p q) : q.scene.box.top = p.scene.box.top := by
  rw [h.eq]

theorem inTopRow_eq (h : IsMovedTo components settings p q) :
    inTopRow components settings q = inTopRow components settings p := by
  rw [inTopRow, inTopRow, h.top, h.origin]

/-- Outside the row a scene keeps its box. -/
theorem box (h : IsMovedTo components settings p q) (hrow : inTopRow components settings p = false) :
    q.scene.box = p.scene.box := by
  rw [h.eq]
  show { p.scene.box with left := q.scene.box.left } = p.scene.box
  rw [h.left hrow]

/-- A moved scene may be given another id. -/
theorem sameButId {q' : PlacedScene} (h : IsMovedTo components settings p q)
    (hq : q.SameButId q') : IsMovedTo components settings p q' := by
  have heq : q' = { p with scene := { p.scene with
      id := q'.scene.id, box := { p.scene.box with left := q.scene.box.left } } } := by
    rw [hq, h.eq]
  have hleft : q'.scene.box.left = q.scene.box.left := by rw [hq]
  exact ⟨by rw [hleft]; exact heq, fun hrow => hleft.trans (h.left hrow)⟩

end IsMovedTo

namespace Draft

variable {d : Draft} {components : List Component} {settings : LayoutSettings}

/-! ## The final order -/

/-- Where all names are those of components, the final order leaves out no scene. -/
theorem perm_inOrder (hd : (d.assigned.map (·.1)).Nodup)
    (hkeys : ∀ a ∈ d.assigned, a.1 ∈ components.map (·.name)) :
    (d.inOrder components).Perm d.scenes := by
  -- each assigned name is one of a component, and its scene is found under it
  have hperm := perm_assigned_filterMap hd (nodup_distinct (components.map (·.name)))
    fun a ha => mem_distinct.2 (hkeys a ha)
  apply List.Perm.append_right
  refine (List.Perm.of_eq ?_).trans (hperm.map (·.2)).symm
  rw [List.map_filterMap]
  refine List.filterMap_congr fun name _ => ?_
  rw [Option.map_map]
  exact Option.map_id_fun' ▸ rfl

/-! ## Closing up and making ids distinct -/

/-- Closing up moves scenes of the row, sideways. -/
theorem isMovedTo_moved {slot : Slot} {p : PlacedScene}
    (h : inTopRow components settings p = false → d.moved components settings slot p = p) :
    IsMovedTo components settings p (d.moved components settings slot p) := by
  obtain ⟨left, hmoved⟩ := @exists_moved_eq d components settings slot p
  exact ⟨by rw [hmoved]; rfl, fun hrow => by rw [h hrow]⟩

/-- Closing up the row, scene by scene. -/
theorem forall₂_inOrder_compact (hd : (d.assigned.map (·.1)).Nodup) :
    List.Forall₂ (IsMovedTo components settings) (d.inOrder components)
      ((d.compact components settings).inOrder components) := by
  -- scenes of components first, name by name, and then the ones left over
  apply List.rel_append
  · induction distinct (components.map (·.name)) with
    | nil => exact .nil
    | cons name names ih =>
      rw [List.filterMap_cons, List.filterMap_cons, scene?_compact]
      cases hp : d.scene? name with
      | none => exact ih
      | some p => exact .cons (isMovedTo_moved (moved_live_eq_self hd hp)) ih
  · -- a scene left over is moved by its position
    rw [orphans_compact]
    conv => arg 2; rw [← List.zipIdx_map_fst 0 d.orphans]
    rw [List.forall₂_map_left_iff, List.forall₂_map_right_iff]
    refine List.forall₂_same.2 fun o ho => ?_
    exact isMovedTo_moved (moved_orphan_eq_self (List.mk_mem_zipIdx_iff_getElem?.1 ho))

/-- What becomes of the scenes of a draft in the layout. -/
theorem forall₂_finish (hd : (d.assigned.map (·.1)).Nodup) :
    List.Forall₂ (IsMovedTo components settings) (d.inOrder components)
      (distinctIds ((d.compact components settings).inOrder components)) := by
  exact forall₂_trans (forall₂_inOrder_compact hd) (forall₂_distinctIds _)
    fun _ _ _ => .sameButId

end Draft

/-! ## Layouts -/

section

variable {components : List Component} {prior : Storyboard} {options : ReconcileOptions}
  {settings : LayoutSettings}

/-- The scenes of the layout in order are its scenes. -/
theorem perm_inOrder_placed : ((placed components prior options settings).inOrder components).Perm
    (placed components prior options settings).scenes :=
  perm_inOrder (nodup_placed settings) fun _ => mem_names_of_mem_placed settings

/-- What becomes of the scenes of a draft with a scene for every component. -/
theorem forall₂_layoutOf : List.Forall₂ (IsMovedTo components settings)
    ((placed components prior options settings).inOrder components)
    (layoutOf components prior options settings).scenes :=
  forall₂_finish (nodup_placed settings)

end

/-- What holds of every two elements of a list goes over to a list that is related to it. -/
theorem pairwise_of_forall₂ {α β : Type} {S : α → β → Prop} {R : α → α → Prop} {R' : β → β → Prop}
    {l : List α} {l' : List β} (h : List.Forall₂ S l l') (hl : l.Pairwise R)
    (hR : ∀ a b a' b', S a a' → S b b' → R a b → R' a' b') : l'.Pairwise R' := by
  -- each later element is moved from a later one
  induction h with
  | nil => exact .nil
  | cons hab htail ih =>
    obtain ⟨hfirst, hrest⟩ := List.pairwise_cons.1 hl
    refine List.pairwise_cons.2 ⟨fun b' hb' => ?_, ih hrest⟩
    obtain ⟨b, hb, hbb'⟩ := exists_of_mem_forall₂ htail hb'
    exact hR _ _ _ _ hab hbb' (hfirst b hb)

end SceneBoard
