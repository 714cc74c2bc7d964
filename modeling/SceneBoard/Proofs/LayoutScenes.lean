import SceneBoard.Proofs.TopRow

/-!
# The scenes of a layout

A layout holds one scene for each component, in the order of the components, and then the scenes
that were retained. This module says how each of them comes about (`exists_layout_scenes`): a scene
that was there before differs from what it was in its id and its left edge at most, and in its left
edge only if it belongs to the top row.
-/

namespace SceneBoard

open Plan Draft

variable (components : List Component) (prior : Storyboard) (options : ReconcileOptions)
  (settings : LayoutSettings)

/-- The scene of a component in a layout, before ids are made distinct. -/
def liveScene (c : Component) : PlacedScene :=
  (((placed components prior options settings).compact components settings).scene? c.name).getD
    (newScene c default "")

/-- The retained scenes of a layout, before ids are made distinct. -/
def orphanScenes : List PlacedScene :=
  ((placed components prior options settings).compact components settings).orphans

/-- The scenes of components in a layout, before ids are made distinct. -/
def liveScenes : List PlacedScene :=
  (distinct (components.map (·.name))).filterMap
    ((placed components prior options settings).compact components settings).scene?

/-- The layout of a reconciliation. -/
def layoutOf : Layout :=
  Layout.place (reconcile components prior options) components settings

/-- A scene stands in the top row, or it shows a page. -/
def IsRowScene (c : Component) (s : Scene) : Prop :=
  s.box.top = settings.topRow ∨ c.category = .page

/-- A layout has the live scenes and then the orphans, with distinct ids. -/
theorem scenes_layoutOf : (layoutOf components prior options settings).scenes =
    distinctIds (liveScenes components prior options settings ++
      orphanScenes components prior options settings) :=
  rfl

/-- Without components there are only the scenes that stay. -/
theorem scenes_layoutOf_nil : (layoutOf [] prior options settings).scenes =
    distinctIds ((placed [] prior options settings).orphans.zipIdx.map fun o =>
      (placed [] prior options settings).moved [] settings (.orphan o.2) o.1) := by
  have hlive : liveScenes [] prior options settings = [] := rfl
  rw [scenes_layoutOf, hlive, orphanScenes, orphans_compact, List.nil_append]

/-- Imports do not matter to a layout. -/
theorem layoutOf_congr {prior prior' : Storyboard} (h : prior.scenes = prior'.scenes) :
    layoutOf components prior options settings = layoutOf components prior' options settings := by
  have hscenes : (if options.preserveExisting then prior else Storyboard.empty).scenes =
      (if options.preserveExisting then prior' else Storyboard.empty).scenes := by
    split
    · exact h
    · rfl
  have hdraft : Draft.ofPlan (reconcile components prior options) components =
      Draft.ofPlan (reconcile components prior' options) components := by
    simp only [Draft.ofPlan, reconcile, hscenes]
  rw [layoutOf, layoutOf, Layout.place, Layout.place, hdraft]

section

variable {components prior options settings} {c : Component}

/-- A scene of a component is one that it keeps or a new one, at some left edge. -/
theorem exists_of_mem_liveScenes {p : PlacedScene}
    (h : p ∈ liveScenes components prior options settings) : ∃ left,
    (∃ b ∈ (reconcile components prior options).kept,
      p = moveTo ⟨b.scene, .kept b.component b.scene.box⟩ left) ∨
    ∃ c ∈ components, ∃ box label, IsNewLabel settings c label ∧
      p = moveTo (newScene c box label) left := by
  obtain ⟨name, -, hp⟩ := List.mem_filterMap.1 h
  -- a live scene was placed and then moved, and it was kept or new before
  rw [scene?_compact, Option.map_eq_some_iff] at hp
  obtain ⟨q, hq, rfl⟩ := hp
  obtain ⟨left, hmoved⟩ := @exists_moved_eq (placed components prior options settings) components
    settings (.live name) q
  rw [hmoved]
  refine ⟨left, ?_⟩
  rcases mem_assigned_placed settings (mem_of_lookup hq) with
    ⟨b, hb, h⟩ | ⟨c, hc, box, label, hlabel, h⟩
  · obtain rfl : q = ⟨b.scene, .kept b.component b.scene.box⟩ := congrArg Prod.snd h
    exact .inl ⟨b, hb, rfl⟩
  · obtain rfl : q = newScene c box label := congrArg Prod.snd h
    exact .inr ⟨c, hc, box, label, hlabel, rfl⟩

section

variable {f : Component → Option Scene} (hnames : (components.map (·.name)).Nodup)
  (hplan : (reconcile components prior options).IsSplitBy components f)

include hnames hplan

/-- A component that keeps a scene has it, moved to where closing up the row puts it. -/
theorem liveScene_eq_moved {s : Scene} (hc : c ∈ components) (hs : f c = some s) :
    liveScene components prior options settings c =
      (placed components prior options settings).moved components settings (.live c.name)
        ⟨s, .kept c.name s.box⟩ := by
  rw [liveScene, scene?_compact, scene?_placed_of_some settings hnames hplan hc hs]
  rfl

/-- A component that keeps a scene has it, but for the left edge if it belongs to the top row. -/
theorem liveScene_of_some {s : Scene} (hc : c ∈ components) (hs : f c = some s) :
    ∃ left, liveScene components prior options settings c =
        moveTo ⟨s, .kept c.name s.box⟩ left ∧ (¬ IsRowScene settings c s → left = s.box.left) := by
  have hlive :=
    @liveScene_eq_moved components prior options settings c f hnames hplan s hc hs
  -- closing up moves scenes of the row only
  by_cases hrow : IsRowScene settings c s
  · obtain ⟨left, hmoved⟩ := @exists_moved_eq (placed components prior options settings) components
      settings (.live c.name) ⟨s, .kept c.name s.box⟩
    exact ⟨left, hlive.trans hmoved, fun h => absurd hrow h⟩
  · refine ⟨s.box.left, ?_, fun _ => rfl⟩
    have hplaced := scene?_placed_of_some settings hnames hplan hc hs
    rw [hlive, moved_live_eq_self (nodup_placed settings) hplaced]
    · rfl
    · rw [IsRowScene, not_or] at hrow
      simp [inTopRow, hrow, Origin.component?, named?_eq hnames hc]

/-- Any other component has a new scene. -/
theorem liveScene_of_none (hc : c ∈ components) (hs : f c = none) :
    ∃ box label, IsNewLabel settings c label ∧
      liveScene components prior options settings c = newScene c box label := by
  obtain ⟨box, label, hlabel, hplaced⟩ := scene?_placed_of_none settings hnames hplan hc hs
  obtain ⟨left, hmoved⟩ := @exists_moved_eq (placed components prior options settings) components
    settings (.live c.name) (newScene c box label)
  refine ⟨{ box with left }, label, hlabel, ?_⟩
  rw [liveScene, scene?_compact, hplaced]
  exact hmoved

/-- The component that a scene of a layout shows is told by its origin. -/
theorem origin_liveScene (hc : c ∈ components) :
    (liveScene components prior options settings c).origin.component? = some c.name := by
  -- new or kept, it is the scene of its component
  cases hs : f c with
  | none =>
    obtain ⟨box, label, -, h⟩ :=
      @liveScene_of_none components prior options settings c f hnames hplan hc hs
    rw [h]
    rfl
  | some s =>
    obtain ⟨left, h, -⟩ :=
      @liveScene_of_some components prior options settings c f hnames hplan s hc hs
    rw [h]
    rfl

/-- The closed-up draft has the live scene of each component. -/
theorem scene?_liveScene (hc : c ∈ components) :
    ((placed components prior options settings).compact components settings).scene? c.name =
      some (liveScene components prior options settings c) := by
  rw [liveScene, scene?_compact]
  cases hs : f c with
  | none =>
    obtain ⟨box, label, -, h⟩ := scene?_placed_of_none settings hnames hplan hc hs
    rw [h]
    rfl
  | some s =>
    rw [scene?_placed_of_some settings hnames hplan hc hs]
    rfl

/-- There is one scene for each component, in their order. -/
theorem liveScenes_eq : liveScenes components prior options settings =
    components.map (liveScene components prior options settings) := by
  rw [liveScenes, distinct_eq_self hnames, List.filterMap_map, ← List.filterMap_eq_map']
  exact List.filterMap_congr fun c hc => scene?_liveScene hnames hplan hc

end

/-- A component that had a scene keeps its size, its top and its label, and its left edge as well
unless it belongs to the top row. -/
theorem liveScene_of_former {s : Scene} (hpreserve : options.preserveExisting)
    (hids : (components.map (·.sceneId)).Nodup) (hscenes : prior.scenes.Nodup)
    (hc : c ∈ components) (hs : formerScene? components prior.scenes c = some s) :
    ∃ left, liveScene components prior options settings c =
        ⟨{ s with id := c.sceneId, component := some c.name, box := { s.box with left } },
          .kept c.name s.box⟩ ∧ (¬ IsRowScene settings c s → left = s.box.left) :=
  liveScene_of_some (nodup_names hids) (isSplitBy_reconcile hpreserve hids hscenes) hc
    (by rw [keptScene?, hs, Option.map_some])

/-- Any other component has a new scene. -/
theorem liveScene_of_new (hpreserve : options.preserveExisting)
    (hids : (components.map (·.sceneId)).Nodup) (hscenes : prior.scenes.Nodup)
    (hc : c ∈ components) (hs : formerScene? components prior.scenes c = none) :
    ∃ box label, IsNewLabel settings c label ∧
      liveScene components prior options settings c = newScene c box label :=
  liveScene_of_none (nodup_names hids) (isSplitBy_reconcile hpreserve hids hscenes) hc
    (by rw [keptScene?, hs, Option.map_none])

/-- The scene of a component has the id that the component owns. -/
theorem id_liveScene (hpreserve : options.preserveExisting)
    (hids : (components.map (·.sceneId)).Nodup) (hscenes : prior.scenes.Nodup)
    (hc : c ∈ components) :
    (liveScene components prior options settings c).scene.id = c.sceneId := by
  -- a new scene has the derived id at once, a former one gets it when it is kept
  cases hs : formerScene? components prior.scenes c with
  | none =>
    obtain ⟨box, label, -, h⟩ :=
      @liveScene_of_new components prior options settings c hpreserve hids hscenes hc hs
    rw [h]
    rfl
  | some s =>
    obtain ⟨left, h, -⟩ :=
      @liveScene_of_former components prior options settings c s hpreserve hids hscenes hc hs
    rw [h]

/-- A retained scene of a layout, before ids are made distinct: its left edge may have changed, if
it stands in the top row. -/
theorem exists_of_mem_orphanScenes {p : PlacedScene}
    (h : p ∈ orphanScenes components prior options settings) :
    ∃ s ∈ (reconcile components prior options).retained, ∃ left,
      p = ⟨{ s with box := { s.box with left } }, .retained s.box⟩ := by
  rw [orphanScenes, orphans_compact, orphans_placed] at h
  obtain ⟨⟨q, i⟩, hq, rfl⟩ := List.mem_map.1 h
  obtain ⟨s, hs, rfl⟩ := List.mem_map.1 (List.fst_mem_of_mem_zipIdx hq)
  obtain ⟨left, hmoved⟩ := @exists_moved_eq (placed components prior options settings) components
    settings (.orphan i) ⟨s, .retained s.box⟩
  exact ⟨s, hs, left, hmoved⟩

/-- A retained scene that does not stand in the top row stays where it is. -/
theorem exists_orphanScenes_append {before after : List Scene} {s : Scene}
    (h : (reconcile components prior options).retained = before ++ s :: after) :
    ∃ ps qs left, orphanScenes components prior options settings =
        ps ++ ⟨{ s with box := { s.box with left } }, .retained s.box⟩ :: qs ∧
      ps.map (·.scene.id) = before.map (·.id) ∧
      (s.box.top ≠ settings.topRow → left = s.box.left) := by
  have horphans : (placed components prior options settings).orphans =
      (before.map fun s => ⟨s, .retained s.box⟩) ++
        ⟨s, .retained s.box⟩ :: after.map fun s => ⟨s, .retained s.box⟩ := by
    rw [orphans_placed, h, List.map_append, List.map_cons]
  -- a scene is moved by its position, which for this one is the number of scenes before it
  have hsplit : orphanScenes components prior options settings =
      ((before.map fun s => (⟨s, .retained s.box⟩ : PlacedScene)).zipIdx.map fun o =>
        (placed components prior options settings).moved components settings (.orphan o.2) o.1) ++
      (placed components prior options settings).moved components settings (.orphan before.length)
        ⟨s, .retained s.box⟩ :: ((after.map fun s => (⟨s, .retained s.box⟩ : PlacedScene)).zipIdx
          (before.length + 1)).map fun o =>
            (placed components prior options settings).moved components settings (.orphan o.2) o.1 := by
    rw [orphanScenes, orphans_compact, horphans, List.zipIdx_append, List.map_append,
      List.zipIdx_cons, List.map_cons, List.length_map, Nat.zero_add]
  have hids : (((before.map fun s => (⟨s, .retained s.box⟩ : PlacedScene)).zipIdx.map fun o =>
      (placed components prior options settings).moved components settings (.orphan o.2) o.1).map
        (·.scene.id)) = before.map (·.id) := by
    rw [map_moved (fun _ _ => rfl), List.map_map]
    rfl
  -- if it stands in the row it may be moved, else it stays
  by_cases hrow : s.box.top = settings.topRow
  · obtain ⟨left, hmoved⟩ := @exists_moved_eq (placed components prior options settings) components
      settings (.orphan before.length) ⟨s, .retained s.box⟩
    exact ⟨_, _, left, hmoved ▸ hsplit, hids, fun hne => absurd hrow hne⟩
  · have hmoved : (placed components prior options settings).moved components settings
        (.orphan before.length) ⟨s, .retained s.box⟩ = ⟨s, .retained s.box⟩ := by
      refine moved_orphan_eq_self ?_ (by simp [inTopRow, hrow, Origin.component?])
      simp [horphans]
    exact ⟨_, _, s.box.left, hmoved ▸ hsplit, hids, fun _ => rfl⟩

/-- The live scenes have the ids derived from the names. -/
theorem map_id_liveScene (hpreserve : options.preserveExisting)
    (hids : (components.map (·.sceneId)).Nodup) (hscenes : prior.scenes.Nodup) :
    (components.map (liveScene components prior options settings)).map (·.scene.id) =
      components.map (·.sceneId) := by
  rw [List.map_map]
  exact List.map_congr_left fun c hc => id_liveScene hpreserve hids hscenes hc

/-- The scenes of a layout: those of the components in their order, and the retained ones, of which
some may have new ids. -/
theorem exists_layout_scenes (hpreserve : options.preserveExisting)
    (hids : (components.map (·.sceneId)).Nodup) (hscenes : prior.scenes.Nodup) :
    ∃ orphans, (layoutOf components prior options settings).scenes =
        components.map (liveScene components prior options settings) ++ orphans ∧
      List.Forall₂ PlacedScene.SameButId (orphanScenes components prior options settings) orphans := by
  rw [scenes_layoutOf,
    liveScenes_eq (nodup_names hids) (isSplitBy_reconcile hpreserve hids hscenes)]
  exact distinctIds_append _ (map_id_liveScene hpreserve hids hscenes ▸ hids)

end

end SceneBoard
