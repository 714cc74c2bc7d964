import Mathlib.Data.List.Count
import SceneBoard.Generation
import SceneBoard.Proofs.ClosedRow
import SceneBoard.Proofs.LayoutScenes
import SceneBoard.Proofs.Moves

/-!
# Places in the top row

No two goals of a top row are the same (`nodup_goals`), so scenes that have goals stand apart when
the row is closed up. But of several playgrounds, or of several applications, only the first one has
a goal. The others stay where they are, and there they can share a place with one another or with
any other scene of the row (`not_nodup_left_layout`). So what holds of every layout is that the
scenes of its top row stand at different places if they have no rival (`nodup_left_layout`).

## Key results

- `nodup_goals`: no two scenes of a row are to go to one place
- `nodup_left_row`: scenes without a rival stand apart in a row that was closed up
- `nodup_left_layout`: so they do in a layout
-/

namespace SceneBoard

open Plan Draft

/-- A scene of the top row, plain or an anchor, has no rival: an anchor has one if there is another
anchor of its kind. -/
def hasNoRival (kinds : List RowKind) (kind : RowKind) : Bool :=
  kind == .plain || kinds.count kind ≤ 1

/-! ## Goals -/

namespace Draft

variable {settings : LayoutSettings} {row : List RowEntry}

/-- The places behind the anchors are at least one pixel apart, and the anchors stand before them. -/
theorem nodup_goals (hspacing : 1 ≤ settings.spacing)
    (happ : settings.playgroundLeft < settings.appLeft) (row : List RowEntry) :
    ((targets settings row).map (·.2)).Nodup := by
  have hplain : ((ofKind .plain row).zipIdx.map fun e =>
      (e.1.slot, plainBase settings row + e.2 * settings.spacing)).map (·.2) =
        (List.range (ofKind .plain row).length).map fun i : Nat =>
          plainBase settings row + i * settings.spacing := by
    rw [List.map_map, List.range_eq_range', ← List.zipIdx_map_snd 0, List.map_map]
    rfl
  rw [targets_eq, List.map_append, List.map_append, List.map_map, List.map_map, hplain,
    List.nodup_append]
  refine ⟨?_, ?_, ?_⟩
  · -- the two anchors stand at different places
    cases (ofKind .playground row).head? <;> cases (ofKind .app row).head? <;> simp [appPlace]
    omega
  · -- the plain places are one spacing apart
    apply List.Nodup.map _ List.nodup_range
    intro i j h
    have := Int.eq_of_mul_eq_mul_right (by omega) (Int.add_left_cancel h)
    omega
  · intro left hleft left' hleft' heq
    -- which anchors there are decides where the others begin
    have hbefore : left < plainBase settings row := by
      unfold plainBase rowBase
      cases hp : (ofKind .playground row).head? <;> cases ha : (ofKind .app row).head? <;>
        simp [appPlace, hp, ha] at hleft ⊢ <;> omega
    obtain ⟨i, -, rfl⟩ := List.mem_map.1 hleft'
    have := Int.mul_nonneg (Int.natCast_nonneg i) (by omega : 0 ≤ settings.spacing)
    omega

/-- An entry without a rival has a goal. -/
private theorem exists_goal {e : RowEntry} (hslots : (row.map (·.slot)).Nodup) (he : e ∈ row)
    (hrival : hasNoRival (row.map (·.kind)) e.kind) :
    ∃ left, (targets settings row).lookup e.slot = some left := by
  have hmem : e ∈ ofKind e.kind row := List.mem_filter.2 ⟨he, by simp⟩
  have hone (h : e.kind ≠ .plain) : (ofKind e.kind row).head? = some e := by
    apply head?_eq_of_mem _ hmem
    rw [hasNoRival, beq_false_of_ne h, Bool.false_or, decide_eq_true_eq, List.count_eq_countP,
      List.countP_map, List.countP_eq_length_filter] at hrival
    exact hrival
  -- an anchor without a rival is the first of its kind, a plain entry has its number
  cases hkind : e.kind with
  | playground => exact ⟨_, lookup_playground hslots (hkind ▸ hone (by simp [hkind]))⟩
  | app => exact ⟨_, lookup_app hslots (hkind ▸ hone (by simp [hkind]))⟩
  | plain =>
    rw [hkind] at hmem
    obtain ⟨i, hi⟩ := List.mem_iff_getElem?.1 hmem
    exact ⟨_, lookup_plain hslots (List.mk_mem_zipIdx_iff_getElem?.2 hi)⟩

/-- Entries without a rival stand apart when their row has been closed up. -/
theorem nodup_left_row (hspacing : 1 ≤ settings.spacing)
    (happ : settings.playgroundLeft < settings.appLeft) (hslots : (row.map (·.slot)).Nodup) :
    ((row.filter fun e => hasNoRival (row.map (·.kind)) e.kind).map fun e =>
      (closedUp settings row e).left).Nodup := by
  apply List.Nodup.map_on _ ((List.Nodup.of_map _ hslots).filter _)
  intro e he e' he' hleft
  obtain ⟨he, hrival⟩ := List.mem_filter.1 he
  obtain ⟨he', hrival'⟩ := List.mem_filter.1 he'
  obtain ⟨left, hgoal⟩ := @exists_goal settings row e hslots he hrival
  obtain ⟨left', hgoal'⟩ := @exists_goal settings row e' hslots he' hrival'
  rw [closedUp, closedUp, hgoal, hgoal', Option.getD_some, Option.getD_some] at hleft
  -- two slots with one goal are one slot, and two entries with one slot are one entry
  have hslot := congrArg Prod.fst (List.inj_on_of_nodup_map (nodup_goals hspacing happ row)
    (mem_of_lookup hgoal) (mem_of_lookup hgoal') hleft)
  exact List.inj_on_of_nodup_map hslots he he' hslot

/-! ## Kinds and places -/

/-- The places of what has no rival. -/
private def placesOf (os : List (RowKind × Int)) : List Int :=
  (os.filter fun o => hasNoRival (os.map (·.1)) o.1).map (·.2)

/-- The places without rivals are the left sides of what has no rival. -/
private theorem placesOf_map {α : Type} (l : List α) (kind : α → RowKind) (left : α → Int) :
    placesOf (l.map fun a => (kind a, left a)) =
      (l.filter fun a => hasNoRival (l.map kind) (kind a)).map left := by
  simp only [placesOf, List.filter_map, List.map_map, Function.comp_def]

/-- They do not depend on the order. -/
private theorem perm_placesOf {os os' : List (RowKind × Int)} (h : os.Perm os') :
    (placesOf os).Perm (placesOf os') := by
  have hrival : (fun o : RowKind × Int => hasNoRival (os.map (·.1)) o.1) =
      fun o => hasNoRival (os'.map (·.1)) o.1 := by
    funext o
    rw [hasNoRival, hasNoRival, (h.map (·.1)).count_eq]
  rw [placesOf, placesOf, hrival]
  exact (h.filter _).map _

end Draft

/-! ## Rows of layouts -/

/-- The scenes of a list that are in the top row and have no rival there. -/
def rowWithoutRivals (components : List Component) (settings : LayoutSettings)
    (ps : List PlacedScene) : List PlacedScene :=
  let row := ps.filter (inTopRow components settings)
  row.filter fun p => hasNoRival (row.map (rowKind settings)) (rowKind settings p)

section

variable (components : List Component) (prior : Storyboard) (options : ReconcileOptions)
  (settings : LayoutSettings)

/-- In the order of the components or not, the scenes before ids are made distinct are the same. -/
private theorem perm_scenes_compact :
    (((placed components prior options settings).compact components settings).scenes).Perm
      (liveScenes components prior options settings ++
        orphanScenes components prior options settings) := by
  have hnodup : (((placed components prior options settings).compact components
      settings).assigned.map (·.1)).Nodup := by
    rw [map_fst_compact]
    exact nodup_placed settings
  apply (perm_inOrder hnodup _).symm
  -- closing up keeps the names, each of which is a component
  intro a ha
  have hmem := List.mem_map_of_mem (f := (·.1)) ha
  rw [map_fst_compact] at hmem
  obtain ⟨a', ha', hname⟩ := List.mem_map.1 hmem
  exact hname ▸ mem_names_of_mem_placed settings ha'

/-- What the row of a layout looks like. -/
theorem perm_outlines_layoutOf :
    (outlines components settings (layoutOf components prior options settings).scenes).Perm
      (((placed components prior options settings).row components settings).map fun e =>
        (e.kind, (closedUp settings
          ((placed components prior options settings).row components settings) e).left)) := by
  rw [scenes_layoutOf, outlines_distinctIds]
  exact (((perm_scenes_compact components prior options settings).filter _).map _).symm.trans
    (perm_outlines_compact _ components settings)

/-- Of each kind there are as many entries in the row as scenes in the layout. -/
theorem length_ofKind_row (kind : RowKind) :
    (ofKind kind ((placed components prior options settings).row components settings)).length =
      (rowScenes components settings kind
        (layoutOf components prior options settings).scenes).length := by
  have hperm := (perm_outlines_layoutOf components prior options settings).map (·.1)
  rw [length_rowScenes, hperm.count_eq, List.map_map, List.count_eq_countP, List.countP_map,
    List.countP_eq_length_filter]
  rfl

/-- An entry of the row goes where a scene of the layout stands. -/
theorem exists_of_mem_row {e : RowEntry}
    (he : e ∈ (placed components prior options settings).row components settings) :
    ∃ p ∈ (layoutOf components prior options settings).scenes,
      (closedUp settings ((placed components prior options settings).row components settings)
        e).left = p.scene.box.left := by
  have hmem := (perm_outlines_layoutOf components prior options settings).symm.subset
    (List.mem_map.2 ⟨e, he, rfl⟩)
  obtain ⟨p, hp, heq⟩ := List.mem_map.1 hmem
  exact ⟨p, (List.mem_filter.1 hp).1, (congrArg Prod.snd heq).symm⟩

end

/-- Scenes of the top row that have no rival stand at different places, whatever the previous text
was. -/
theorem nodup_left_layout (components : List Component) (previous : Option String)
    (options : ReconcileOptions) (importPrefix : String) :
    ((rowWithoutRivals components {}
      (generate components previous options {} importPrefix).layout.scenes).map
        (·.scene.box.left)).Nodup := by
  -- the row of the draft and that of the layout have the same kinds and left sides
  have hperm := perm_outlines_layoutOf components (Storyboard.ofPrevious previous) options {}
  have hnodup := (perm_placesOf hperm).nodup_iff
  rw [outlines, placesOf_map, placesOf_map] at hnodup
  exact hnodup.2 (nodup_left_row (by decide) (by decide) (nodup_slots (nodup_placed {})))

/-- Two scenes that are labelled as playgrounds and stand at one place stay there both. -/
theorem not_nodup_left_layout : ¬ ∀ (components : List Component) (previous : Option String)
    (options : ReconcileOptions) (importPrefix : String), (components.map (·.name)).Nodup →
    (((generate components previous options {} importPrefix).layout.scenes.filter
      (inTopRow components {})).map (·.scene.box.left)).Nodup := by
  intro h
  let text := "<Scene id='a' commentId='a' style=\x7b\x7bwidth: 9, height: 9, left: 212, top: 128" ++
    "\x7d\x7d data-label='Playground'></Scene><Scene id='b' commentId='b' style=\x7b\x7bwidth: 9, " ++
    "height: 9, left: 212, top: 128\x7d\x7d data-label='Playground'></Scene>"
  have hread : Storyboard.ofPrevious (some text) =
      ⟨[⟨"a", ⟨⟨9, 9⟩, 212, 128⟩, "Playground", none, ""⟩,
        ⟨"b", ⟨⟨9, 9⟩, 212, 128⟩, "Playground", none, ""⟩], []⟩ := by decide +kernel
  have hrow : (placed [] (Storyboard.ofPrevious (some text)) {} {}).row [] {} =
      [⟨.orphan 0, .playground, 212, 0⟩, ⟨.orphan 1, .playground, 212, 1⟩] := by
    rw [hread]
    exact row_eq_of_entries rfl (by decide)
  -- only the first of them has a goal, and it is there already
  have hscenes : (generate [] (some text) {} {} "").layout.scenes =
      (placed [] (Storyboard.ofPrevious (some text)) {} {}).orphans := by
    have hlayout : (generate [] (some text) {} {} "").layout =
        layoutOf [] (Storyboard.ofPrevious (some text)) {} {} := rfl
    rw [hlayout, scenes_layoutOf_nil]
    simp only [moved, goals, hrow]
    rw [hread]
    decide +kernel
  have hlefts : ((generate [] (some text) {} {} "").layout.scenes.filter (inTopRow [] {})).map
      (·.scene.box.left) = [212, 212] := by
    rw [hscenes, hread]
    decide +kernel
  have hnodup := h [] (some text) {} "" .nil
  rw [hlefts] at hnodup
  simp at hnodup

end SceneBoard
