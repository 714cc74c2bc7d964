import SceneBoard.Proofs.Conservation
import SceneBoard.Proofs.Moves

/-!
# Complete drafts

The plan of a reconciliation covers the components: each of them keeps one scene or is pending
(`Plan.covers_reconcile`). All drafts of such plans become complete, with one scene for every
component and for nothing else (`Draft.IsComplete`, `isComplete_placeAll`). The final order of a
complete draft is that of the components, with the orphans behind (`IsComplete.exists_inOrder_eq`),
and its scenes are those of before and one more for each component that was pending
(`exists_perm_scenes_placeAll`).
-/

namespace SceneBoard

/-- The scenes that a plan keeps and those that it retains, as they were. -/
def Plan.formerScenes (plan : Plan) : List PlacedScene :=
  (plan.kept.map fun b => ⟨b.scene, .kept b.component b.scene.box⟩) ++
    plan.retained.map fun s => ⟨s, .retained s.box⟩

/-- A reconciliation leaves out no component. -/
theorem Plan.covers_reconcile {components : List Component} {prior : Storyboard}
    {options : ReconcileOptions} (hnames : (components.map (·.name)).Nodup) :
    (reconcile components prior options).Covers components := by
  obtain ⟨f, hf⟩ := @exists_isSplitBy components prior options (.of_map _ hnames)
  exact hf.covers

namespace Draft

/-! ## Complete drafts -/

/-- Every component has one scene, and no other name has one. -/
structure IsComplete (d : Draft) (components : List Component) : Prop where
  names : (components.map (·.name)).Nodup
  assigned : (d.assigned.map (·.1)).Nodup
  keys : ∀ a ∈ d.assigned, a.1 ∈ components.map (·.name)
  scene : ∀ c ∈ components, ∃ p, d.scene? c.name = some p

namespace IsComplete

variable {d : Draft} {components : List Component} (h : d.IsComplete components)

include h

/-- The scenes of the components stand in the order of these, and the orphans behind them. -/
theorem exists_inOrder_eq : ∃ f : Component → PlacedScene,
    (∀ c ∈ components, d.scene? c.name = some (f c)) ∧
      d.inOrder components = components.map f ++ d.orphans := by
  let f (c : Component) : PlacedScene := (d.scene? c.name).getD (newScene c default "")
  have hf : ∀ c ∈ components, d.scene? c.name = some (f c) := by
    intro c hc
    obtain ⟨p, hp⟩ := h.scene c hc
    simp only [f, hp, Option.getD_some]
  refine ⟨f, hf, ?_⟩
  rw [inOrder, distinct_eq_self h.names, List.filterMap_map, ← List.filterMap_eq_map']
  congr 1
  exact List.filterMap_congr hf

/-- At the position of a component stands its scene. -/
theorem getElem?_inOrder {i : Nat} {c : Component} (hc : components[i]? = some c) :
    (d.inOrder components)[i]? = d.scene? c.name := by
  obtain ⟨f, hf, hinOrder⟩ := h.exists_inOrder_eq
  obtain ⟨hi, -⟩ := List.getElem?_eq_some_iff.1 hc
  rw [hinOrder, List.getElem?_append_left (by simpa using hi), List.getElem?_map, hc,
    hf c (List.mem_of_getElem? hc), Option.map_some]

/-- Behind the components stand the orphans. -/
theorem getElem?_inOrder_orphan (i : Nat) :
    (d.inOrder components)[components.length + i]? = d.orphans[i]? := by
  obtain ⟨f, -, hinOrder⟩ := h.exists_inOrder_eq
  rw [hinOrder, List.getElem?_append_right (by simp), List.length_map, Nat.add_sub_cancel_left]

/-- The scenes in order are all scenes of the draft. -/
theorem perm_inOrder : (d.inOrder components).Perm d.scenes :=
  Draft.perm_inOrder h.assigned h.keys

end IsComplete

/-! ## Drafts of covering plans -/

section

variable {plan : Plan} {components : List Component} {settings : LayoutSettings}
  (hnames : (components.map (·.name)).Nodup) (hplan : plan.Covers components)

include hnames hplan

variable (settings)

/-- In the end every component has its scene. -/
theorem isComplete_placeAll :
    ((ofPlan plan components).placeAll components settings).IsComplete components := by
  have hstages := stages_placeAll (ofPlan plan components) components settings
  refine ⟨hnames, hstages.nodup (nodup_ofPlan plan components), fun a ha => ?_, fun c hc => ?_⟩
  · -- the names are those of the plan, each kept or pending
    exact mem_names_of_mem_placeAll (List.append_subset.1 hplan.subset).1 ha
  · cases List.mem_append.1 (hplan.symm.subset (List.mem_map_of_mem hc)) with
    | inl hname =>
      obtain ⟨b, hb, hname⟩ := List.mem_map.1 hname
      exact ⟨_, hname ▸ scene?_placeAll_of_kept settings hnames hplan hb⟩
    | inr hname =>
      obtain ⟨box, label, -, hscene⟩ :=
        scene?_placeAll_of_pending settings hnames hplan hc hname
      exact ⟨_, hscene⟩

/-- The draft of a plan begins with the scenes of before. -/
theorem scenes_ofPlan_eq : (ofPlan plan components).scenes = plan.formerScenes := by
  rw [scenes, assigned_ofPlan_eq hnames hplan, List.map_map]
  rfl

/-- In the end it has one more for each component that was pending. -/
theorem exists_perm_scenes_placeAll : ∃ f : Component → PlacedScene,
    (∀ c ∈ components,
      ((ofPlan plan components).placeAll components settings).scene? c.name = some (f c)) ∧
    ((ofPlan plan components).placeAll components settings).scenes.Perm
      (plan.formerScenes ++ (ofPlan plan components).pending.map f) := by
  have hcomplete := isComplete_placeAll settings hnames hplan
  obtain ⟨f, hf, -⟩ := hcomplete.exists_inOrder_eq
  -- the live scenes, looked up for what is kept and for what is pending
  have hlive : ((ofPlan plan components).placeAll components settings).assigned.Perm
      ((plan.kept.map (·.component) ++ plan.pending).filterMap fun name =>
        (((ofPlan plan components).placeAll components settings).scene? name).map fun p =>
          (name, p)) := by
    apply perm_assigned_filterMap hcomplete.assigned (hplan.nodup hnames)
    intro a ha
    exact hplan.symm.subset (hcomplete.keys a ha)
  have hkept : (plan.kept.map (·.component)).filterMap
      ((ofPlan plan components).placeAll components settings).scene? =
        plan.kept.map fun b => ⟨b.scene, .kept b.component b.scene.box⟩ := by
    rw [List.filterMap_map, ← List.filterMap_eq_map']
    exact List.filterMap_congr fun b hb =>
      scene?_placeAll_of_kept settings hnames hplan hb
  have hpending : plan.pending.filterMap
      ((ofPlan plan components).placeAll components settings).scene? =
        (ofPlan plan components).pending.map f := by
    rw [← map_name_pending hnames hplan, List.filterMap_map, ← List.filterMap_eq_map']
    exact List.filterMap_congr fun c hc => hf c (mem_of_mem_pending hc)
  have hscenes := hlive.map (·.2)
  rw [List.map_filterMap] at hscenes
  simp only [Option.map_map, Function.comp_def, Option.map_id_fun', id_eq] at hscenes
  rw [List.filterMap_append, hkept, hpending] at hscenes
  refine ⟨f, hf, (hscenes.append_right _).trans ?_⟩
  -- the draft has its orphans behind the new scenes, the plan before them
  rw [(stages_placeAll _ components settings).orphans, Plan.formerScenes, List.append_assoc,
    List.append_assoc]
  exact List.perm_append_comm.append_left _

end

end Draft

end SceneBoard
