import SceneBoard.Proofs.ClosedRow
import SceneBoard.Proofs.LayoutScenes

/-!
# Settled storyboards

In a settled storyboard every component has a scene under its own id, and whatever else is there is
to be retained. Reconciling it finds nothing to do (`IsSettled.pending_eq`,
`IsSettled.retained_eq`), and if its top row is closed its layout is the old one
(`IsSettled.layoutOf_eq`).
-/

namespace SceneBoard

open Plan Draft

/-- A storyboard with the scenes of the components, each under the id of its component, and scenes
to be retained behind them. -/
structure IsSettled (components : List Component) (options : ReconcileOptions) (prior : Storyboard)
    (live : Component → Scene) (orphans : List Scene) : Prop where
  scenes : prior.scenes = components.map live ++ orphans
  ids : (prior.scenes.map (·.id)).Nodup
  owned : ∀ c ∈ components, (live c).id = c.sceneId
  fate : ∀ s ∈ orphans, Plan.fate (components.map (·.name)) options.prune s = .retained

/-- The scene with the id that a component owns is its own, if every component has such a scene. -/
theorem find?_ownsId {components : List Component} {live : Component → Scene} {c : Component}
    (hids : (components.map (·.sceneId)).Nodup) (howned : ∀ c ∈ components, (live c).id = c.sceneId)
    (hc : c ∈ components) : (components.map live).find? (ownsId c) = some (live c) := by
  rw [List.find?_map]
  -- no other component comes first, as its scene has another id
  have hself : components.find? (ownsId c ∘ live) = some c := by
    cases hfound : components.find? (ownsId c ∘ live) with
    | none => exact absurd (ownsId_self (howned c hc)) (List.find?_eq_none.1 hfound c hc)
    | some c' =>
      have hc' := List.mem_of_find?_eq_some hfound
      have howns := List.find?_some hfound
      have hid := sceneId_eq_of_ownsId (s := live c') howns (ownsId_self (howned c' hc'))
      rw [List.inj_on_of_nodup_map hids hc hc' hid]
  rw [hself, Option.map_some]

namespace IsSettled

variable {components : List Component} {options : ReconcileOptions} {prior : Storyboard}
  {live : Component → Scene} {orphans : List Scene} {settings : LayoutSettings}

section

variable (h : IsSettled components options prior live orphans)

include h

theorem nodup_scenes : prior.scenes.Nodup :=
  List.Nodup.of_map _ h.ids

/-- Components own distinct ids, as they have scenes with these ids. -/
theorem nodup_sceneIds : (components.map (·.sceneId)).Nodup := by
  have hids := h.ids
  rw [h.scenes, List.map_append] at hids
  have hlive : (components.map live).map (·.id) = components.map (·.sceneId) := by
    rw [List.map_map]
    exact List.map_congr_left fun c hc => h.owned c hc
  exact hlive ▸ (List.nodup_append.1 hids).1

/-! ## Reconciling it -/

/-- A component gets its scene. -/
theorem formerScene?_eq {c : Component} (hc : c ∈ components) :
    formerScene? components prior.scenes c = some (live c) := by
  rw [formerScene?, h.scenes, List.find?_append, find?_ownsId h.nodup_sceneIds h.owned hc,
    Option.some_or, Option.some_or]

/-- The others are not bound. -/
theorem unbound_eq : unbound components prior.scenes = orphans := by
  -- the scenes of components are bound, and the ids of the others are not theirs
  have hbound {s : Scene} :
      isBound components prior.scenes s = true ↔ ∃ c ∈ components, live c = s := by
    rw [isBound, List.any_eq_true]
    refine exists_congr fun c => and_congr_right fun hc => ?_
    rw [h.formerScene?_eq hc, beq_iff_eq, Option.some_inj]
  have hlive : (components.map live).filter (fun s => !isBound components prior.scenes s) = [] := by
    rw [List.filter_eq_nil_iff]
    intro s hs
    rw [hbound.2 (List.mem_map.1 hs)]
    simp
  have horphans : orphans.filter (fun s => !isBound components prior.scenes s) = orphans := by
    rw [List.filter_eq_self]
    intro s hs
    rw [Bool.not_eq_true', Bool.eq_false_iff]
    intro hs'
    obtain ⟨c, hc, rfl⟩ := hbound.1 hs'
    have hnodup := h.nodup_scenes
    rw [h.scenes] at hnodup
    exact (List.nodup_append.1 hnodup).2.2 _ (List.mem_map.2 ⟨c, hc, rfl⟩) _ hs rfl
  calc unbound components prior.scenes
      = (components.map live ++ orphans).filter (fun s => !isBound components prior.scenes s) := by
        rw [unbound, ← h.scenes]
    _ = orphans := by rw [List.filter_append, hlive, horphans, List.nil_append]

end

section

variable (h : IsSettled components options prior live orphans)
  (hpreserve : options.preserveExisting)

include h hpreserve

/-- The scenes behind those of the components are retained. -/
theorem retained_eq : (reconcile components prior options).retained = orphans := by
  rw [retained_reconcile hpreserve h.nodup_sceneIds h.nodup_scenes, h.unbound_eq,
    List.filter_eq_self]
  intro s hs
  rw [h.fate s hs]

/-- No component needs a scene. -/
theorem pending_eq : (reconcile components prior options).pending = [] := by
  rw [pending_reconcile hpreserve h.nodup_sceneIds h.nodup_scenes, List.map_eq_nil_iff,
    List.filter_eq_nil_iff]
  intro c hc
  rw [h.formerScene?_eq hc]
  simp

/-- Nothing is pruned. -/
theorem pruned_eq : (reconcile components prior options).pruned = [] := by
  rw [pruned_reconcile hpreserve h.nodup_sceneIds h.nodup_scenes, h.unbound_eq,
    List.filterMap_eq_nil_iff]
  intro s hs
  rw [h.fate s hs]

/-- Nothing is superseded. -/
theorem superseded_eq : (reconcile components prior options).superseded = [] := by
  rw [superseded_reconcile hpreserve h.nodup_sceneIds h.nodup_scenes, h.unbound_eq,
    List.map_eq_nil_iff, List.filter_eq_nil_iff]
  intro s hs
  rw [h.fate s hs]
  simp

/-! ## Its layout -/

/-- A component has its scene where it was. -/
theorem scene?_placed {c : Component} (hc : c ∈ components) :
    (placed components prior options settings).scene? c.name =
      some ⟨{ live c with component := some c.name }, .kept c.name (live c).box⟩ := by
  have hkept : keptScene? components prior.scenes c =
      some { live c with component := some c.name } := by
    rw [keptScene?, h.formerScene?_eq hc, Option.map_some, ← h.owned c hc]
  exact scene?_placed_of_some settings (nodup_names h.nodup_sceneIds)
    (isSplitBy_reconcile hpreserve h.nodup_sceneIds h.nodup_scenes) hc hkept

theorem orphans_placed_eq : (placed components prior options settings).orphans =
    orphans.map fun s => ⟨s, .retained s.box⟩ := by
  rw [orphans_placed, h.retained_eq hpreserve]

/-- The layout of a settled storyboard whose top row is closed has all scenes where they were. -/
theorem layoutOf_eq
    (hclosed : IsClosed settings
      ((placed components prior options settings).row components settings)) :
    layoutOf components prior options settings =
      ⟨(components.map fun c => ⟨{ live c with component := some c.name }, .kept c.name (live c).box⟩) ++
        orphans.map fun s => ⟨s, .retained s.box⟩, [], 0⟩ := by
  -- the live scenes are those of before, with their components
  have hlive : liveScenes components prior options settings = components.map fun c =>
      ⟨{ live c with component := some c.name }, .kept c.name (live c).box⟩ := by
    rw [liveScenes, distinct_eq_self (nodup_names h.nodup_sceneIds), List.filterMap_map,
      ← List.filterMap_eq_map']
    refine List.filterMap_congr fun c hc => ?_
    rw [Function.comp_apply, scene?_compact_of_isClosed hclosed (nodup_placed settings),
      h.scene?_placed hpreserve hc]
  have horphans : orphanScenes components prior options settings =
      orphans.map fun s => ⟨s, .retained s.box⟩ := by
    rw [orphanScenes, orphans_compact_of_isClosed hclosed, h.orphans_placed_eq hpreserve]
  -- no id is changed, as the ids are distinct already
  have hids : ((liveScenes components prior options settings ++
      orphanScenes components prior options settings).map (·.scene.id)).Nodup := by
    have hsame := h.ids
    rw [h.scenes, List.map_append, List.map_map] at hsame
    rw [hlive, horphans, List.map_append, List.map_map, List.map_map]
    exact hsame
  have hscenes := distinctIds_eq_self hids
  -- everything stands where it stood
  have hrelocations : (liveScenes components prior options settings ++
      orphanScenes components prior options settings).filterMap (·.relocation?) = [] := by
    rw [hlive, horphans, List.filterMap_eq_nil_iff]
    intro p hp
    rcases List.mem_append.1 hp with hp | hp
    · obtain ⟨c, -, rfl⟩ := List.mem_map.1 hp
      simp [PlacedScene.relocation?, Origin.previous?]
    · obtain ⟨s, -, rfl⟩ := List.mem_map.1 hp
      simp [PlacedScene.relocation?, Origin.previous?]
  -- with the scenes given a name, the layout is what its definition says
  have hlayout : layoutOf components prior options settings =
      ⟨distinctIds (liveScenes components prior options settings ++
        orphanScenes components prior options settings),
      (distinctIds (liveScenes components prior options settings ++
        orphanScenes components prior options settings)).filterMap (·.relocation?),
      (placed components prior options settings).movedByCompact components settings⟩ := rfl
  rw [hlayout, hscenes, hrelocations, movedByCompact_of_isClosed hclosed, hlive, horphans]

end

end IsSettled

end SceneBoard
