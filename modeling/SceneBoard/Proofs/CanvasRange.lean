import Mathlib.Algebra.Group.Int.Defs
import Mathlib.Algebra.Group.Nat.Defs
import Mathlib.Data.List.Perm.Subperm
import SceneBoard.Proofs.Bookkeeping
import SceneBoard.Proofs.ClosedRow
import SceneBoard.Proofs.LayoutScenes
import SceneBoard.Proofs.PreviousScenes
import SceneBoard.Proofs.SceneStyle
import SceneBoard.Proofs.StageBounds

/-!
# Where a layout stays on the canvas

A scene is read again only if its box is in range. Sizes are always in range, and nothing is placed
beyond the canvas to the left or above. To the right and below a layout can leave the canvas: new
scenes stand behind or below others, and closing up the top row gives each scene one spacing
(`Plan.reach`, `Plan.depth`). Where these two stay on the canvas, so does every scene.

## Key results

- `exists_of_mem_layout`: a scene of a layout has the box of a scene of the draft, or another left
  edge, to which closing up the row moved it
- `isWithin_layoutOf`: the bounds of a layout
- `boxes_generate`: where there is room for all of them, the boxes of a generation are in range
- `not_boxes_generate`: notes of a row that begins at the edge of the canvas leave it
-/

namespace SceneBoard

open Plan Draft Storyboard

/-! ## Bounds of a layout -/

section

variable (components : List Component) (plan : Plan) (settings : LayoutSettings)

/-- Where the top row ends before anything new is placed, or would end with its anchors. -/
def Plan.rowEnd : Int :=
  (((ofPlan plan components).scenes.filter (inTopRow components settings)).map
    (·.scene.box.left)).foldl max (max 0 (max settings.playgroundLeft settings.appLeft))

/-- How far to the right a layout can get: one spacing for each scene behind the end of the top row,
or one column for each folder. -/
def Plan.reach : Int :=
  max (plan.rowEnd components settings +
      settings.spacing * (components.length + plan.retained.length : Nat))
    (settings.folderColumnLeft + settings.columnSpacing * (folders components).length)

/-- Where the columns end before anything new is placed. -/
def Plan.columnEnd : Int :=
  (((ofPlan plan components).scenes.filter fun p =>
    p.scene.box.InColumn settings (folders components).length).map
      (·.scene.box.below settings)).foldl max settings.columnStart

/-- How far down a layout can get: the end of the columns, and below it all components that are
pending. -/
def Plan.depth : Int :=
  plan.columnEnd components settings + stepsOf settings (ofPlan plan components).pending

end

/-! ## The draft of a plan -/

section

variable {components : List Component} {prior : Storyboard} {options : ReconcileOptions}
  {settings : LayoutSettings}

/-- What the draft begins with are scenes of before, with their boxes. -/
theorem inRange_of_mem_ofPlan (hprior : ∀ s ∈ prior.scenes, s.box.InRange) {p : PlacedScene}
    (h : p ∈ (ofPlan (reconcile components prior options) components).scenes) :
    p.scene.box.InRange := by
  obtain ⟨b, hb, rfl⟩ | ⟨s, hs, rfl⟩ := mem_scenes_ofPlan h
  · obtain ⟨c, -, s, hs, -, id, hscene⟩ := exists_isKeptFrom_of_mem_kept hb
    show b.scene.box.InRange
    rw [hscene]
    exact hprior s hs
  · exact hprior s (retained_sublist.subset hs)

/-- No more components are pending than there are. -/
theorem length_pending_le :
    (ofPlan (reconcile components prior options) components).pending.length ≤ components.length := by
  refine (List.length_filterMap_le _ _).trans ?_
  rw [reconcile, List.length_map]
  refine (List.length_filter_le _ _).trans (Nat.le_of_eq ?_)
  exact (congrArg List.length (map_component_bind _ _)).symm.trans (List.length_map ..) |>.symm

variable (hvalid : settings.IsValid)
  (hsizes : ∀ c ∈ components, ∀ z ∈ c.size, z.InRange)
  (hprior : ∀ s ∈ prior.scenes, s.box.InRange)

include hvalid hsizes hprior

omit hprior in
/-- A new scene has a size that can be laid out. -/
theorem inRange_sceneSize {c : Component} (hc : c ∈ components) : (c.sceneSize settings).InRange := by
  unfold Component.sceneSize
  cases hsize : c.size with
  | none => exact hvalid.defaultScene
  | some z => exact hsizes c hc z hsize

/-- The draft of a plan has room to the right and below for what is pending. -/
theorem isRoomy_ofPlan : (ofPlan (reconcile components prior options) components).IsRoomy
    settings (folders components).length
      (max maxCoordinate ((reconcile components prior options).reach components settings))
      (max maxCoordinate ((reconcile components prior options).depth components settings)) := by
  have hend := foldl_max_le_iff.1
    (Int.le_refl ((reconcile components prior options).columnEnd components settings))
  have hdepth := Int.le_max_right maxCoordinate
    ((reconcile components prior options).depth components settings)
  rw [Plan.depth] at hdepth ⊢
  refine ⟨⟨fun p hp => ?_, fun p hp hcolumn => ?_⟩, ?_, fun c hc => ?_⟩
  · -- the scenes are in range, and those of the columns end above the end of the columns
    exact (inRange_of_mem_ofPlan hprior hp).isWithin (Int.le_max_left ..) (Int.le_max_left ..)
  · have hbelow := hend.2 _ (List.mem_map_of_mem (List.mem_filter.2 ⟨hp, decide_eq_true hcolumn⟩))
    omega
  · -- the columns start above the depth, and the sizes are those of the settings
    have hstart := hend.1
    omega
  · exact inRange_sceneSize hvalid hsizes (mem_of_mem_pending hc)

/-- The draft in which the top row is placed stands within the bounds. -/
theorem isRoomy_placeRow :
    ((ofPlan (reconcile components prior options) components).placeRow components settings).IsRoomy
      settings (folders components).length
      (max maxCoordinate ((reconcile components prior options).reach components settings))
      (max maxCoordinate ((reconcile components prior options).depth components settings)) := by
  have hspacing : 1 ≤ settings.spacing := hvalid.spacing.1
  obtain ⟨hlast, hrow⟩ := foldl_max_le_iff.1
    (Int.le_refl ((reconcile components prior options).rowEnd components settings))
  -- there is one spacing for every component that is pending
  have hpending : settings.spacing *
      ((ofPlan (reconcile components prior options) components).pending.length : Int) ≤
        settings.spacing *
          (components.length + (reconcile components prior options).retained.length : Nat) :=
    Int.mul_le_mul_of_nonneg_left
      (Int.ofNat_le.2 (length_pending_le.trans (Nat.le_add_right ..))) (by omega)
  have hreach := Int.le_max_right maxCoordinate
    ((reconcile components prior options).reach components settings)
  rw [Plan.reach] at hreach
  -- the anchors and the pages go to places in front of the end of the row
  refine (isRoomy_ofPlan hvalid hsizes hprior).placeRow hvalid (Int.le_max_left ..)
    (Int.le_max_left ..) (fun p hp hin => ?_) ((Int.le_max_left ..).trans hlast) ?_ ?_
    ((Int.add_le_add_left hpending _).trans ((Int.le_max_left ..).trans hreach))
  · exact hrow _ (List.mem_map_of_mem (List.mem_filter.2 ⟨hp, hin⟩))
  · exact (Int.le_max_left ..).trans ((Int.le_max_right ..).trans hlast)
  · exact (Int.le_max_right ..).trans ((Int.le_max_right ..).trans hlast)

/-- So does the draft with a scene for every component. -/
theorem isRoomy_placed : (placed components prior options settings).IsRoomy settings
    (folders components).length
      (max maxCoordinate ((reconcile components prior options).reach components settings))
      (max maxCoordinate ((reconcile components prior options).depth components settings)) := by
  have hreach := Int.le_max_right maxCoordinate
    ((reconcile components prior options).reach components settings)
  exact (isRoomy_placeRow hvalid hsizes hprior).placeColumns hvalid (Nat.le_refl _)
    (Int.le_max_left ..) ((Int.le_max_right ..).trans hreach)

/-- Less than 2³⁰ components do not lead out of the 64 bits. -/
theorem depth_le_greatest (hcount : components.length < 2 ^ 30) :
    max maxCoordinate ((reconcile components prior options).depth components settings) ≤
      Pixels.greatest := by
  have hspace : settings.verticalSpacing ≤ 100000 := hvalid.verticalSpacing.2
  -- no scene is higher than the largest size, and none stands lower than the canvas
  have hbelow {b : Box} (hb : b.InRange) : b.below settings ≤ maxCoordinate + 200000 := by
    have hheight : b.size.height ≤ 100000 := hb.1.2.2
    have htop : b.top ≤ maxCoordinate := hb.2.2.2
    unfold Box.below
    omega
  have hend : (reconcile components prior options).columnEnd components settings ≤
      maxCoordinate + 200000 := by
    refine foldl_max_le_iff.2 ⟨?_, fun n hn => ?_⟩
    · have hplayground : settings.playgroundSize.height ≤ 100000 := hvalid.playgroundSize.2.2
      have happ : settings.appSize.height ≤ 100000 := hvalid.appSize.2.2
      have htop : settings.topRow ≤ maxCoordinate := hvalid.topRow.2
      have hcolumn : settings.componentColumnTop ≤ maxCoordinate := hvalid.componentColumnTop.2
      unfold LayoutSettings.columnStart
      omega
    · obtain ⟨p, hp, rfl⟩ := List.mem_map.1 hn
      exact hbelow (inRange_of_mem_ofPlan hprior (List.mem_filter.1 hp).1)
  -- each pending component adds its height and one spacing
  have hsteps : stepsOf settings (ofPlan (reconcile components prior options) components).pending ≤
      200000 * (ofPlan (reconcile components prior options) components).pending.length := by
    apply stepsOf_le
    intro c hc
    have hheight : (c.sceneSize settings).height ≤ 100000 :=
      (inRange_sceneSize hvalid hsizes (mem_of_mem_pending hc)).2.2
    unfold Component.step
    omega
  have hpending := @length_pending_le components prior options
  unfold Plan.depth maxCoordinate Pixels.greatest at *
  omega

omit hsizes in
/-- Nor do they, with as many scenes of before, lead far to the right. -/
theorem reach_le (hcount : components.length < 2 ^ 30) (hscenes : prior.scenes.length < 2 ^ 30) :
    max maxCoordinate ((reconcile components prior options).reach components settings) ≤
      2 ^ 50 := by
  -- the row ends at an anchor or at a scene of before
  have hrow : (reconcile components prior options).rowEnd components settings ≤ maxCoordinate := by
    refine foldl_max_le_iff.2 ⟨?_, fun n hn => ?_⟩
    · have hplayground := hvalid.playgroundLeft.2
      have happ := hvalid.appLeft.2
      unfold maxCoordinate at *
      omega
    · obtain ⟨p, hp, rfl⟩ := List.mem_map.1 hn
      exact (inRange_of_mem_ofPlan hprior (List.mem_filter.1 hp).1).2.1.2
  have hretained : (reconcile components prior options).retained.length ≤ prior.scenes.length :=
    retained_sublist.length_le
  have hfolders : (folders components).length ≤ components.length :=
    (distinctBy_sublist _).length_le.trans (List.length_filterMap_le _ _)
  -- a row has fewer than `2 ^ 31` scenes, and there are as few columns
  have hsteps : settings.spacing *
      (components.length + (reconcile components prior options).retained.length : Nat) ≤
        100000 * 2 ^ 31 :=
    Int.mul_le_mul hvalid.spacing.2 (by omega) (Int.natCast_nonneg _) (by decide)
  have hcolumns : settings.columnSpacing * (folders components).length ≤ 100000 * 2 ^ 31 :=
    Int.mul_le_mul hvalid.columnSpacing.2 (by omega) (Int.natCast_nonneg _) (by decide)
  have hfirst := hvalid.folderColumnLeft.2
  unfold Plan.reach maxCoordinate at *
  omega

end

/-! ## Closing up -/

section

variable {components : List Component} {settings : LayoutSettings} {d : Draft}

/-- The row has no more entries than the draft has scenes. -/
theorem length_row_le : (d.row components settings).length ≤ d.scenes.length := by
  rw [(perm_row d components settings).length_eq]
  calc (d.entries components settings).length
      = (outlines components settings d.scenes).length := by rw [← map_entries, List.length_map]
    _ ≤ d.scenes.length := by
        rw [outlines, List.length_map]
        exact List.length_filter_le _ _

theorem max_anchorPlaces_le (hvalid : settings.IsValid) :
    max settings.playgroundLeft settings.appLeft ≤ maxCoordinate :=
  Int.max_le.2 ⟨hvalid.playgroundLeft.2, hvalid.appLeft.2⟩

/-- The place of the App scene is on the canvas, not right of the anchors. -/
theorem appPlace_bounds (hvalid : settings.IsValid) (hasPlayground : Bool) :
    -maxCoordinate ≤ appPlace settings hasPlayground ∧
      appPlace settings hasPlayground ≤ max settings.playgroundLeft settings.appLeft := by
  have hplayground := hvalid.playgroundLeft.1
  have happ := hvalid.appLeft.1
  unfold appPlace
  split <;> omega

/-- The other scenes of a row begin one spacing behind the last anchor, or where it would stand. -/
theorem rowBase_bounds (hvalid : settings.IsValid) (hasPlayground hasApp : Bool) :
    -maxCoordinate ≤ rowBase settings hasPlayground hasApp ∧
      rowBase settings hasPlayground hasApp ≤
        max settings.playgroundLeft settings.appLeft + settings.spacing := by
  have hspacing : 1 ≤ settings.spacing := hvalid.spacing.1
  have hplayground := hvalid.playgroundLeft.1
  have hplace := appPlace_bounds hvalid hasPlayground
  -- behind App, behind Playground, or at the first place
  unfold rowBase
  split
  · omega
  · split <;> omega

/-- Closing up a row moves no scene beyond the end of the row, if there is one spacing for each. -/
private theorem le_of_mem_targets {row : List RowEntry} {t : Slot × Int} {reach : Int}
    (hvalid : settings.IsValid) (ht : t ∈ targets settings row) (hreach : maxCoordinate ≤ reach)
    (hend : max settings.playgroundLeft settings.appLeft + settings.spacing * row.length ≤ reach) :
    -maxCoordinate ≤ t.2 ∧ t.2 ≤ reach := by
  have hspacing : 1 ≤ settings.spacing := hvalid.spacing.1
  have hanchors := max_anchorPlaces_le hvalid
  simp only [targets, List.mem_append, List.mem_map, Option.mem_toList] at ht
  rcases ht with (⟨e, he, rfl⟩ | ⟨e, he, rfl⟩) | ⟨⟨e, i⟩, he, rfl⟩
  · -- the two anchors
    exact ⟨hvalid.playgroundLeft.1, by omega⟩
  · have hplace := appPlace_bounds hvalid (row.find? (·.kind == .playground)).isSome
    exact ⟨hplace.1, by omega⟩
  · -- the entry is the one of number `i`, so as many spacings are left behind it
    have hi : i + 1 ≤ row.length :=
      (List.snd_lt_of_mem_zipIdx he).trans_le (by simpa using List.length_filter_le _ row)
    have hsteps : settings.spacing * ((i : Int) + 1) ≤ settings.spacing * row.length :=
      Int.mul_le_mul_of_nonneg_left (by omega) (by omega)
    have hlow : 0 ≤ settings.spacing * (i : Int) := Int.mul_nonneg (by omega) (by omega)
    rw [Int.mul_add, Int.mul_one] at hsteps
    have hplain := rowBase_bounds hvalid (row.find? (·.kind == .playground)).isSome
      (row.find? (·.kind == .app)).isSome
    simp only [Int.mul_comm (i : Int)]
    omega

end

section

variable {components : List Component} {prior : Storyboard} {options : ReconcileOptions}
  {settings : LayoutSettings}

/-- A scene of a layout is a scene of the draft, moved when the row was closed up. -/
theorem exists_of_mem_layout {p : PlacedScene}
    (h : p ∈ (layoutOf components prior options settings).scenes) :
    ∃ slot, ∃ q ∈ (placed components prior options settings).scenes,
      p.scene.box = ⟨q.scene.box.size,
        (((placed components prior options settings).goals components settings).lookup slot).getD
          q.scene.box.left, q.scene.box.top⟩ := by
  rw [scenes_layoutOf] at h
  obtain ⟨q, hq, hpq⟩ := exists_of_mem_forall₂ (forall₂_distinctIds _) h
  have hbox : p.scene.box = q.scene.box := by rw [hpq]
  -- the left side may be moved by the compaction of the row
  rcases List.mem_append.1 hq with hq | hq
  · obtain ⟨name, -, hq⟩ := List.mem_filterMap.1 hq
    rw [scene?_compact, Option.map_eq_some_iff] at hq
    obtain ⟨r, hr, rfl⟩ := hq
    exact ⟨.live name, r, mem_scenes_of_scene? hr, by rw [hbox, moved_eq]; rfl⟩
  · rw [orphanScenes, orphans_compact] at hq
    obtain ⟨⟨r, i⟩, hr, rfl⟩ := List.mem_map.1 hq
    exact ⟨.orphan i, r, List.mem_append_right _ (List.fst_mem_of_mem_zipIdx hr),
      by rw [hbox, moved_eq]; rfl⟩

/-- A draft has at most one scene for each component, and the retained ones. -/
theorem length_scenes_placed_le : (placed components prior options settings).scenes.length ≤
    components.length + (reconcile components prior options).retained.length := by
  have hsub : (placed components prior options settings).assigned.map (·.1) ⊆
      components.map (·.name) := by
    -- each live scene is of another component
    intro name hname
    obtain ⟨a, ha, rfl⟩ := List.mem_map.1 hname
    exact mem_names_of_mem_placed settings ha
  have hlength := ((nodup_placed settings).subperm hsub).length_le
  rw [List.length_map, List.length_map] at hlength
  rw [Draft.scenes, List.length_append, List.length_map, orphans_placed, List.length_map]
  omega

/-- The bounds of a layout. -/
theorem isWithin_layoutOf (hvalid : settings.IsValid)
    (hsizes : ∀ c ∈ components, ∀ z ∈ c.size, z.InRange)
    (hprior : ∀ s ∈ prior.scenes, s.box.InRange) {p : PlacedScene}
    (h : p ∈ (layoutOf components prior options settings).scenes) : p.scene.box.IsWithin
      (max maxCoordinate ((reconcile components prior options).reach components settings))
      (max maxCoordinate ((reconcile components prior options).depth components settings)) := by
  have hspacing : 1 ≤ settings.spacing := hvalid.spacing.1
  obtain ⟨slot, q, hq, hbox⟩ := exists_of_mem_layout h
  have hwithin := (isRoomy_placed hvalid hsizes hprior).bounded.within q hq
  rw [hbox]
  -- the scene stays where it is, or it goes to its goal in the row
  cases hgoal : ((placed components prior options settings).goals components settings).lookup slot with
  | none => exact hwithin
  | some left =>
    have ht : (slot, left) ∈ targets settings
        ((placed components prior options settings).row components settings) := mem_of_lookup hgoal
    -- the row ends behind its anchors, and there is one spacing for each of its scenes
    have hanchors : max settings.playgroundLeft settings.appLeft ≤
        (reconcile components prior options).rowEnd components settings :=
      (Int.le_max_right ..).trans (foldl_max_le_iff.1 (Int.le_refl _)).1
    have hsteps : settings.spacing *
        ((placed components prior options settings).row components settings).length ≤
          settings.spacing *
            (components.length + (reconcile components prior options).retained.length : Nat) :=
      Int.mul_le_mul_of_nonneg_left
        (Int.ofNat_le.2 (length_row_le.trans length_scenes_placed_le)) (by omega)
    have hreach := Int.le_max_right maxCoordinate
      ((reconcile components prior options).reach components settings)
    rw [Plan.reach] at hreach ⊢
    obtain ⟨hlow, hhigh⟩ := le_of_mem_targets hvalid ht (Int.le_max_left ..)
      ((Int.add_le_add hanchors hsteps).trans ((Int.le_max_left ..).trans hreach))
    exact ⟨hwithin.size, hlow, hhigh, hwithin.top, hwithin.depth⟩

end

/-! ## Generations -/

/-- No box of a generation leaves the canvas to the left or above, none leaves it farther than the
bounds, and all sizes are in range. If the bounds are on the canvas all boxes are in range, and the
parser reads them as they were. -/
theorem boxes_generate (components : List Component) (previous : Option String)
    (options : ReconcileOptions) (settings : LayoutSettings) (importPrefix : String)
    (hsizes : ∀ c ∈ components, ∀ z ∈ c.size, z.InRange) (hsettings : settings.problem? = none) :
    let g := generate components previous options settings importPrefix
    (∀ p ∈ g.layout.scenes, p.scene.box.IsWithin
      (max maxCoordinate (g.plan.reach components settings))
      (max maxCoordinate (g.plan.depth components settings))) ∧
    (g.plan.reach components settings ≤ maxCoordinate →
      g.plan.depth components settings ≤ maxCoordinate → ∀ p ∈ g.layout.scenes,
        p.scene.box.InRange ∧ box? (boxChars p.scene.box) = some p.scene.box) := by
  intro g
  have hwithin : ∀ p ∈ g.layout.scenes, p.scene.box.IsWithin
      (max maxCoordinate (g.plan.reach components settings))
      (max maxCoordinate (g.plan.depth components settings)) :=
    fun p hp => isWithin_layoutOf (LayoutSettings.isValid_of_problem? hsettings) hsizes
      (fun s hs => inRange_box_of_mem hs) hp
  refine ⟨hwithin, fun hreach hdepth p hp => ?_⟩
  have hbox := hwithin p hp
  rw [Int.max_eq_left hreach, Int.max_eq_left hdepth] at hbox
  exact ⟨hbox.inRange, box?_boxChars hbox.inRange⟩

/-- A card beside a note that was drawn by hand. -/
theorem boxes_generate_card_and_note :
    let text := "<Scene id='note' commentId='n' style=\x7b\x7bwidth: 9, height: 9, left: 5, " ++
      "top: 40\x7d\x7d data-label='My note'>text</Scene>"
    let components : List Component :=
      [⟨"Card", "components/Card.tsx", .component, true, false, some ⟨320, 200⟩⟩]
    let g := generate components (some text) {} {} "../src"
    (∀ c ∈ components, ∀ z ∈ c.size, z.InRange) ∧ ({} : LayoutSettings).problem? = none ∧
      ∀ p ∈ g.layout.scenes, p.scene.box.InRange ∧ box? (boxChars p.scene.box) = some p.scene.box := by
  intro text components g
  have hread : Storyboard.ofPrevious (some text) =
      ⟨[⟨"note", ⟨⟨9, 9⟩, 5, 40⟩, "My note", none, "text"⟩], []⟩ := by decide +kernel
  have hplan : g.plan =
      reconcile components ⟨[⟨"note", ⟨⟨9, 9⟩, 5, 40⟩, "My note", none, "text"⟩], []⟩ {} :=
    congrArg (reconcile components · {}) hread
  have hsizes : ∀ c ∈ components, ∀ z ∈ c.size, z.InRange := by decide
  have hsettings : ({} : LayoutSettings).problem? = none := by decide
  have hreach : g.plan.reach components {} ≤ maxCoordinate := by
    rw [hplan]
    decide +kernel
  have hdepth : g.plan.depth components {} ≤ maxCoordinate := by
    rw [hplan]
    decide +kernel
  exact ⟨hsizes, hsettings,
    (boxes_generate components (some text) {} {} "../src" hsizes hsettings).2 hreach hdepth⟩

/-- Settings without a problem are not enough: of two notes in a row that begins at the right edge
of the canvas the second one leaves it. -/
theorem not_boxes_generate : ¬ ∀ (components : List Component) (previous : Option String)
    (options : ReconcileOptions) (settings : LayoutSettings) (importPrefix : String),
    (components.map (·.name)).Nodup → (∀ c ∈ components, ∀ z ∈ c.size, z.InRange) →
    settings.problem? = none →
    ∀ p ∈ (generate components previous options settings importPrefix).layout.scenes,
      p.scene.box.InRange := by
  intro h
  let text := "<Scene id='a' commentId='a' style=\x7b\x7bwidth:9,height:9,left:5,top:128\x7d\x7d" ++
    " data-label='A'></Scene><Scene id='b' commentId='b' style=\x7b\x7bwidth:9,height:9,left:50," ++
    "top:128\x7d\x7d data-label='B'></Scene>"
  let settings : LayoutSettings := { playgroundLeft := 10000000 }
  have hread : Storyboard.ofPrevious (some text) =
      ⟨[⟨"a", ⟨⟨9, 9⟩, 5, 128⟩, "A", none, ""⟩, ⟨"b", ⟨⟨9, 9⟩, 50, 128⟩, "B", none, ""⟩], []⟩ := by
    decide +kernel
  have hrow : (placed [] (Storyboard.ofPrevious (some text)) {} settings).row [] settings =
      [⟨.orphan 0, .plain, 5, 0⟩, ⟨.orphan 1, .plain, 50, 1⟩] := by
    rw [hread]
    exact row_eq_of_entries rfl (by decide)
  have hscenes : (generate [] (some text) {} settings "").layout.scenes.map (·.scene.box.left) =
      [10000000, 10000816] := by
    have hlayout : (generate [] (some text) {} settings "").layout =
        layoutOf [] (Storyboard.ofPrevious (some text)) {} settings := rfl
    rw [hlayout, scenes_layoutOf_nil]
    simp only [moved, goals, hrow]
    rw [hread]
    decide +kernel
  obtain ⟨p, hp, hleft⟩ := List.mem_map.1
    (hscenes ▸ (by simp) : (10000816 : Int) ∈ (generate [] (some text) {} settings
      "").layout.scenes.map (·.scene.box.left))
  have hbox := (h [] (some text) {} settings "" .nil (by simp) (by decide) p hp).2.1.2
  rw [hleft] at hbox
  exact absurd hbox (by decide)

end SceneBoard
