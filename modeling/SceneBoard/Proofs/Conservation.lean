import SceneBoard.Proofs.Bookkeeping
import SceneBoard.Proofs.LayoutScenes
import SceneBoard.Report

/-!
# Every component has its scene

A generation loses nothing and makes nothing up: its layout has one scene for each component, which
is the one that the plan keeps for it or else a new one, then the scenes that the plan retains, and
nothing else. All that is asked for is that names are distinct; ids may coincide, and the previous
scenes need not be preserved. The numbers of a report follow, and so do the relocations: they are
the scenes of before whose left edge changed, each under its final id.

## Key results

- `Plan.exists_isSplitBy`: a plan tells of every component whether it keeps a scene
- `exists_scenes_layoutOf`: the scenes of a layout, one by one
- `isConserving_generate`: a generation and its report
-/

namespace SceneBoard

namespace Plan

variable {components : List Component} {prior : Storyboard} {options : ReconcileOptions}

/-! ## The plan splits the components -/

/-- What is told of the bindings is told of their components, where these are distinct. -/
private theorem exists_eq_of_bindings {α : Type} {bs : List Binding}
    (hbs : (bs.map (·.component)).Nodup) (g : Binding → Option α) :
    ∃ f : Component → Option α, ∀ b ∈ bs, f b.component = g b := by
  -- a component has one binding, so the first one found is its own
  refine ⟨fun c => (bs.find? (·.component == c)).bind g, fun b hb => ?_⟩
  cases h : bs.find? (·.component == b.component) with
  | none => simpa using List.find?_eq_none.1 h b hb
  | some b' =>
    have hcomponent : b'.component = b.component := by simpa using List.find?_some h
    obtain rfl := List.inj_on_of_nodup_map hbs (List.mem_of_find?_eq_some h) hb hcomponent
    simp only [h, Option.bind_some]

/-- Every component keeps a scene or is pending, in its place. -/
theorem exists_isSplitBy (hcomponents : components.Nodup) :
    ∃ f, (reconcile components prior options).IsSplitBy components f := by
  let scenes := (if options.preserveExisting then prior else Storyboard.empty).scenes
  let owned := (bindById components scenes).filterMap fun b =>
    b.scene.map fun _ => b.component.sceneId
  let kept (b : Binding) : Option Scene :=
    (b.scene.bind (scenes[·]?)).map fun s => (keep owned b.component s).scene
  have hbind : (bind components scenes).map (·.component) = components :=
    map_component_bind components scenes
  obtain ⟨f, hf⟩ := exists_eq_of_bindings (hbind.symm ▸ hcomponents) kept
  -- a component is bound to a scene that is there, so it is pending if nothing is kept for it
  have hnone : ∀ b ∈ bind components scenes, b.scene.isNone = (f b.component).isNone := by
    intro b hb
    rw [hf b hb]
    cases hscene : b.scene with
    | none => simp [kept, hscene]
    | some i =>
      have hi := lt_of_mem_boundScenes_bind (List.mem_filterMap.2 ⟨b, hb, hscene⟩)
      simp [kept, hscene, List.getElem?_eq_getElem hi]
  refine ⟨f, ?_, ?_⟩
  · calc (reconcile components prior options).kept
        = (bind components scenes).filterMap fun b =>
            (f b.component).map fun s => ⟨b.component.name, s⟩ := by
          refine List.filterMap_congr fun b hb => ?_
          rw [hf b hb, Option.map_map]
          rfl
      _ = components.filterMap fun c => (f c).map fun s => ⟨c.name, s⟩ := by
          conv_rhs => rw [← hbind, List.filterMap_map]
          rfl
  · calc (reconcile components prior options).pending
        = ((bind components scenes).filter fun b => (f b.component).isNone).map
            (·.component.name) := congrArg (List.map _) (List.filter_congr hnone)
      _ = (components.filter fun c => (f c).isNone).map (·.name) := by
          conv_rhs => rw [← hbind, List.filter_map, List.map_map]
          rfl

end Plan

open Plan Draft

/-! ## Scenes of a layout -/

/-- The scene of a component in a layout, whatever its id and its left edge: the one that the plan
keeps for it, with the box of before, or a new one if the component is pending. -/
inductive IsSceneOf (plan : Plan) (c : Component) : PlacedScene → Prop where
  | kept {b : BoundScene} (hb : b ∈ plan.kept) (hcomponent : b.component = c.name)
      (hpending : c.name ∉ plan.pending) (id : String) (left : Int) :
    IsSceneOf plan c
      ⟨{ b.scene with id, box := { b.scene.box with left } }, .kept c.name b.scene.box⟩
  | placed (hpending : c.name ∈ plan.pending) (hkept : ∀ b ∈ plan.kept, b.component ≠ c.name)
      (id : String) (box : Box) (label : String) :
    IsSceneOf plan c ⟨⟨id, box, label, some c.name, ""⟩, .placed c.name⟩

/-- A retained scene in a layout, whatever its id and its left edge. -/
def IsRetainedAs (s : Scene) (p : PlacedScene) : Prop :=
  ∃ id left, p = ⟨{ s with id, box := { s.box with left } }, .retained s.box⟩

section

variable {components : List Component} {prior : Storyboard} {options : ReconcileOptions}
  {settings : LayoutSettings} {plan : Plan} {c : Component} {p q : PlacedScene} {s : Scene}

/-- Another id does not change of which component a scene is. -/
theorem IsSceneOf.sameButId (h : IsSceneOf plan c p) (hq : p.SameButId q) : IsSceneOf plan c q := by
  rw [hq]
  cases h with
  | kept hb hcomponent hpending id left => exact .kept hb hcomponent hpending q.scene.id left
  | placed hpending hkept id box label => exact .placed hpending hkept q.scene.id box label

theorem IsRetainedAs.sameButId (h : IsRetainedAs s p) (hq : p.SameButId q) : IsRetainedAs s q := by
  obtain ⟨id, left, rfl⟩ := h
  exact ⟨q.scene.id, left, hq⟩

end

section

variable {components : List Component} {prior : Storyboard} {options : ReconcileOptions}
  {settings : LayoutSettings}

/-- The scenes of the components, one by one. -/
theorem forall₂_liveScenes (hnames : (components.map (·.name)).Nodup) :
    List.Forall₂ (IsSceneOf (reconcile components prior options)) components
      (liveScenes components prior options settings) := by
  obtain ⟨f, hf⟩ := @exists_isSplitBy components prior options (.of_map _ hnames)
  rw [liveScenes_eq hnames hf, List.forall₂_map_right_iff]
  refine List.forall₂_same.2 fun c hc => ?_
  -- a component of which nothing is kept is placed, the others are moved at most
  cases hs : f c with
  | none =>
    obtain ⟨box, label, -, hlive⟩ :=
      @liveScene_of_none components prior options settings c f hnames hf hc hs
    rw [hlive]
    exact .placed ((hf.mem_pending_iff hnames hc).2 hs) (hf.forall_kept_ne hnames hc hs) _ box label
  | some s =>
    obtain ⟨left, hlive, -⟩ :=
      @liveScene_of_some components prior options settings c f hnames hf s hc hs
    have hpending : c.name ∉ (reconcile components prior options).pending := by
      rw [hf.mem_pending_iff hnames hc, hs]
      simp
    rw [hlive]
    exact .kept (hf.mem_kept hc hs) rfl hpending s.id left

/-- The retained scenes, one by one. -/
theorem forall₂_orphanScenes :
    List.Forall₂ IsRetainedAs (reconcile components prior options).retained
      (orphanScenes components prior options settings) := by
  rw [orphanScenes, orphans_compact, orphans_placed, List.zipIdx_map, List.map_map]
  generalize (reconcile components prior options).retained = retained
  conv => arg 2; rw [← List.zipIdx_map_fst 0 retained]
  rw [List.forall₂_map_left_iff, List.forall₂_map_right_iff]
  refine List.forall₂_same.2 fun o _ => ?_
  obtain ⟨left, hmoved⟩ := @exists_moved_eq (placed components prior options settings) components
    settings (.orphan o.2) ⟨o.1, .retained o.1.box⟩
  exact ⟨o.1.id, left, hmoved⟩

/-- Making ids distinct relates the scenes of two lists that stand one behind the other. -/
private theorem exists_distinctIds_eq_append (ps qs : List PlacedScene) :
    ∃ ps' qs', distinctIds (ps ++ qs) = ps' ++ qs' ∧
      List.Forall₂ PlacedScene.SameButId ps ps' ∧ List.Forall₂ PlacedScene.SameButId qs qs' := by
  -- ids are made distinct one by one, so the lists can be cut at the same place
  have hsame := forall₂_distinctIds (ps ++ qs)
  have hfirst := List.forall₂_take ps.length hsame
  have hsecond := List.forall₂_drop ps.length hsame
  rw [List.take_left' rfl] at hfirst
  rw [List.drop_left' rfl] at hsecond
  exact ⟨_, _, (List.take_append_drop ps.length _).symm, hfirst, hsecond⟩

/-- A layout has the scenes of the components and then those that are retained. -/
theorem exists_scenes_layoutOf (hnames : (components.map (·.name)).Nodup) :
    ∃ live retained, (layoutOf components prior options settings).scenes = live ++ retained ∧
      List.Forall₂ (IsSceneOf (reconcile components prior options)) components live ∧
      List.Forall₂ IsRetainedAs (reconcile components prior options).retained retained := by
  obtain ⟨live, retained, hscenes, hlive, hretained⟩ := exists_distinctIds_eq_append
    (liveScenes components prior options settings) (orphanScenes components prior options settings)
  exact ⟨live, retained, hscenes,
    forall₂_trans (forall₂_liveScenes hnames) hlive fun _ _ _ => .sameButId,
    forall₂_trans forall₂_orphanScenes hretained fun _ _ _ => .sameButId⟩

end

/-! ## Reports -/

section

variable {components : List Component} {plan : Plan} {live : List PlacedScene}

/-- The new scenes are those of the pending components. -/
private theorem length_filter_placed (h : List.Forall₂ (IsSceneOf plan) components live) :
    (live.filter (·.origin matches .placed _)).length =
      components.countP fun c => c.name ∈ plan.pending := by
  -- by induction on the components: a scene is placed if its component is pending
  induction h with
  | nil => rfl
  | cons hscene _ ih =>
    cases hscene with
    | kept hb hcomponent hpending id left => simpa [hpending] using ih
    | placed hpending hkept id box label => simpa [hpending] using ih

/-- Every component that is not pending keeps a scene. -/
private theorem length_kept_reconcile {prior : Storyboard} {options : ReconcileOptions}
    (hnames : (components.map (·.name)).Nodup) :
    (reconcile components prior options).kept.length = components.countP fun c =>
      c.name ∉ (reconcile components prior options).pending := by
  obtain ⟨f, hf⟩ := @exists_isSplitBy components prior options (.of_map _ hnames)
  rw [hf.length_kept]
  refine List.countP_congr fun c hc => ?_
  rw [decide_eq_true_eq, hf.mem_pending_iff hnames hc, Option.isSome_iff_ne_none]

/-- No retained scene is placed for a component. -/
private theorem filter_placed_retained {scenes : List Scene} {retained : List PlacedScene}
    (h : List.Forall₂ IsRetainedAs scenes retained) :
    retained.filter (·.origin matches .placed _) = [] := by
  rw [List.filter_eq_nil_iff]
  intro p hp
  obtain ⟨s, -, id, left, rfl⟩ := exists_of_mem_forall₂ h hp
  simp

/-- The scenes that a report tells as retained are those of the plan. -/
private theorem filter_retained_append {scenes : List Scene} {retained : List PlacedScene}
    (hlive : List.Forall₂ (IsSceneOf plan) components live)
    (hretained : List.Forall₂ IsRetainedAs scenes retained) :
    (live ++ retained).filter (·.origin matches .retained _) = retained := by
  rw [List.filter_append, List.filter_eq_nil_iff.2, List.filter_eq_self.2, List.nil_append]
  · -- the retained scenes, and the live ones, of which none is retained
    intro p hp
    obtain ⟨s, -, id, left, rfl⟩ := exists_of_mem_forall₂ hretained hp
    simp
  · intro p hp
    obtain ⟨c, -, hscene⟩ := exists_of_mem_forall₂ hlive hp
    cases hscene <;> simp

end

/-- The move of a scene of before to another left edge, if it moved; its top is the same. -/
def PlacedScene.shift? (p : PlacedScene) : Option Relocation :=
  p.origin.previous?.bind fun before =>
    if before.left = p.scene.box.left then none
    else some ⟨p.scene.id, before.left, before.top, p.scene.box.left, before.top⟩

/-- The scene of a component is relocated if it was there and its left side changed. -/
theorem IsSceneOf.relocation?_eq {plan : Plan} {c : Component} {p : PlacedScene}
    (h : IsSceneOf plan c p) : p.relocation? = p.shift? := by
  cases h <;> simp [PlacedScene.relocation?, PlacedScene.shift?, Origin.previous?]

/-- So is a retained one. -/
theorem IsRetainedAs.relocation?_eq {s : Scene} {p : PlacedScene} (h : IsRetainedAs s p) :
    p.relocation? = p.shift? := by
  obtain ⟨id, left, rfl⟩ := h
  simp [PlacedScene.relocation?, PlacedScene.shift?, Origin.previous?]

/-- A scene is told to have moved under its own id, so it is told once. -/
private theorem nodup_id_relocations {ps : List PlacedScene} (h : (ps.map (·.scene.id)).Nodup) :
    ((ps.filterMap (·.relocation?)).map (·.id)).Nodup := by
  have hid (p : PlacedScene) : ∀ r ∈ p.relocation?, r.id = p.scene.id := by
    intro r hr
    obtain ⟨before, -, hr⟩ := Option.bind_eq_some_iff.1 hr
    dsimp only at hr
    split at hr
    · simp at hr
    · rw [← Option.some.inj hr]
  rw [List.Nodup, List.pairwise_map, List.pairwise_filterMap]
  -- an entry has the id of its scene, and these are distinct
  refine (List.pairwise_map.1 h).imp fun {p q} hne r hr r' hr' heq => hne ?_
  rw [← hid p r hr, ← hid q r' hr', heq]

/-- The scenes of a generation are the scenes of the components and those retained, and a report
counts them right. -/
structure Generation.IsConserving (g : Generation) (components : List Component)
    (prior : Storyboard) (report : Report) : Prop where
  scenes : ∃ live retained, g.layout.scenes = live ++ retained ∧
    List.Forall₂ (IsSceneOf g.plan) components live ∧
    List.Forall₂ IsRetainedAs g.plan.retained retained
  kept : ∀ b ∈ g.plan.kept, ∃ c ∈ components, ∃ s ∈ prior.scenes, IsKeptFrom c s b
  retained : g.plan.retained.Sublist prior.scenes
  discovered : report.discovered = report.kept + report.placed.length
  written : g.layout.scenes.length = report.discovered + report.retained.length
  relocated : report.relocated = g.layout.scenes.filterMap (·.shift?)
  relocated_once : (report.relocated.map (·.id)).Nodup

/-- A generation for components with distinct names has one scene for each of them, the one that the
plan keeps or a new one, and the retained scenes behind them. Its report has as many components as
scenes that are kept and new ones, and the relocations are the scenes of before whose left edge
changed, each told once, with the top that it had. -/
theorem isConserving_generate (components : List Component) (previous : Option String)
    (options : ReconcileOptions) (settings : LayoutSettings) (importPrefix : String)
    (sourceRoot output : Path) (dryRun : Bool) (hnames : (components.map (·.name)).Nodup) :
    (generate components previous options settings importPrefix).IsConserving components
      (Storyboard.ofPrevious previous)
      (Report.ofGeneration sourceRoot output components.length dryRun
        (generate components previous options settings importPrefix)) := by
  let prior := Storyboard.ofPrevious previous
  let plan := reconcile components prior options
  obtain ⟨live, retained, hscenes, hlive, hretained⟩ :=
    @exists_scenes_layoutOf components prior options settings hnames
  refine
    { scenes := ⟨live, retained, hscenes, hlive, hretained⟩
      kept := fun b hb => exists_isKeptFrom_of_mem_kept hb
      retained := retained_sublist
      discovered := ?discovered
      written := ?written
      relocated := ?relocated
      relocated_once := nodup_id_relocations (nodup_distinctIds _) }
  case discovered =>
    -- a component is bound or pending, and one that is pending is placed
    show components.length = plan.kept.length + (((layoutOf components prior options
      settings).scenes.filter (·.origin matches .placed _)).map (·.scene.id)).length
    rw [hscenes, List.length_map, List.filter_append, filter_placed_retained hretained,
      List.append_nil, length_filter_placed hlive, length_kept_reconcile hnames, Nat.add_comm]
    simpa using List.length_eq_countP_add_countP (fun c : Component => c.name ∈ plan.pending)
  case written =>
    show (layoutOf components prior options settings).scenes.length = components.length +
      (((layoutOf components prior options settings).scenes.filter
        (·.origin matches .retained _)).map (·.scene.id)).length
    rw [hscenes, filter_retained_append hlive hretained, List.length_map, List.length_append,
      hlive.length_eq]
  case relocated =>
    show (layoutOf components prior options settings).scenes.filterMap (·.relocation?) =
      (layoutOf components prior options settings).scenes.filterMap (·.shift?)
    rw [hscenes]
    refine List.filterMap_congr fun p hp => ?_
    rcases List.mem_append.1 hp with hp | hp
    · obtain ⟨c, -, hscene⟩ := exists_of_mem_forall₂ hlive hp
      exact hscene.relocation?_eq
    · obtain ⟨s, -, hscene⟩ := exists_of_mem_forall₂ hretained hp
      exact hscene.relocation?_eq

/-- A card whose scene stood in the top row moves to its beginning, a badge is new, and a note that
belongs to no component stays. -/
theorem isConserving_generate_badge :
    let components : List Component :=
      [⟨"Card", "components/Card.tsx", .component, true, false, none⟩,
       ⟨"Badge", "components/Badge.tsx", .component, false, true, some ⟨20, 20⟩⟩]
    let previous : Option String := some (Storyboard.render
      [⟨⟨"card-scene", ⟨⟨9, 9⟩, 500, 128⟩, "Mine", some "Card", ""⟩, .placed "Card"⟩,
       ⟨⟨"note", ⟨⟨9, 9⟩, 5, 60⟩, "Note", none, "<p>Note</p>"⟩, .retained ⟨⟨9, 9⟩, 5, 60⟩⟩]
      components "src" [])
    let g := generate components previous {} {} "src"
    (components.map (·.name)).Nodup ∧ g.IsConserving components (Storyboard.ofPrevious previous)
      (Report.ofGeneration ⟨"src"⟩ ⟨"Board.tsx"⟩ components.length false g) := by
  intro components previous g
  have hnames : (components.map (·.name)).Nodup := by decide
  exact ⟨hnames,
    isConserving_generate components previous {} {} "src" ⟨"src"⟩ ⟨"Board.tsx"⟩ false hnames⟩

end SceneBoard
