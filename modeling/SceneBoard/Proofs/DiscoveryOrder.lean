import SceneBoard.Proofs.Binding

/-!
# The order of the components

Components take scenes one after the other, in the order in which they were found. Where the ids
that they own are distinct they never compete: in neither round is a scene wanted by two of them. So
the order does not show in what they get (`bind_perm`), and a plan for the same components in another
order is the same but for the order of its lists of components (`IsReordering`).

## Key results

- `bind_perm`: each component is bound to the same scene
- `reconcile_perm`: plans for two orders of the components
-/

namespace SceneBoard.Plan

/-- A plan that tells the same as another one, of the components in an order of its own. -/
structure IsReordering (p q : Plan) : Prop where
  kept : p.kept.Perm q.kept
  pending : p.pending.Perm q.pending
  missing : p.missing.Perm q.missing
  retained : p.retained = q.retained
  pruned : p.pruned = q.pruned
  superseded : p.superseded = q.superseded
  retainedImports : p.retainedImports = q.retainedImports

/-! ## What depends on members only -/

section

variable {scenes : List Scene} {taken taken' : List Nat} {live live' owned owned' : List String}

/-- The scenes taken count, not their order. -/
theorem firstFree_perm (h : taken.Perm taken') (wanted : Scene → Bool) :
    firstFree scenes taken wanted = firstFree scenes taken' wanted := by
  simp only [firstFree, h.contains_eq]

/-- The ids owned count, not their order. -/
theorem keep_perm (h : owned.Perm owned') : keep owned = keep owned' := by
  funext c s
  simp only [keep, h.contains_eq]

/-- The live names count, not their order. -/
theorem fate_perm (h : live.Perm live') (prune : Bool) : fate live prune = fate live' prune := by
  funext s
  simp only [fate, h.contains_eq]

/-- Nor does their order matter for the imports. -/
theorem importsFor_perm (h : live.Perm live') (retained : List Scene) (imports : List ImportLine) :
    importsFor retained live imports = importsFor retained live' imports := by
  simp only [importsFor, h.contains_eq]

end

/-! ## Bindings -/

section

variable {components components' : List Component} {scenes : List Scene}

/-- Where ids are distinct a component that gets no scene by its id gets the first one that is left
and shows it, whatever the others get. -/
theorem bind_eq_map (hids : (components.map (·.sceneId)).Nodup) :
    bind components scenes = components.map fun c => ⟨c, (scenes.findIdx? (ownsId c)).or
      (firstFree scenes (boundScenes (bindById components scenes)) (showsName c))⟩ := by
  -- no scene shows two components, so the second round goes component by component
  have hshow : (bindById components scenes).Pairwise fun b b' =>
      ∀ s, showsName b.component s → showsName b'.component s = false := by
    rw [bindById_eq hids]
    exact List.pairwise_map.2 (pairwise_showsName (nodup_names hids))
  simp only [bind]
  rw [bindRound_eq hshow]
  conv => lhs; arg 2; rw [bindById_eq hids]
  rw [List.map_map]
  rfl

variable (h : components'.Perm components) (hids : (components.map (·.sceneId)).Nodup)

include h hids

private theorem nodup_ids : (components'.map (·.sceneId)).Nodup :=
  (h.map _).nodup_iff.2 hids

/-- The first round binds the same, in the other order. -/
theorem bindById_perm : (bindById components' scenes).Perm (bindById components scenes) := by
  rw [bindById_eq hids, bindById_eq (nodup_ids h hids)]
  exact h.map _

/-- Each component is bound to the same scene. -/
theorem bind_perm : (bind components' scenes).Perm (bind components scenes) := by
  have htaken : (boundScenes (bindById components' scenes)).Perm
      (boundScenes (bindById components scenes)) := (bindById_perm h hids).filterMap _
  rw [bind_eq_map hids, bind_eq_map (nodup_ids h hids)]
  simp only [firstFree_perm htaken]
  exact h.map _

end

/-! ## Plans -/

/-- The order in which components were found does not show in a plan: each component is bound to the
same scene and keeps it as the same record, the same components are pending and missing, and the same
becomes of all other scenes and of the import lines, in the same order. -/
theorem reconcile_perm {components components' : List Component} (h : components'.Perm components)
    (hids : (components.map (·.sceneId)).Nodup) (prior : Storyboard) (options : ReconcileOptions) :
    (bind components' prior.scenes).Perm (bind components prior.scenes) ∧
      (reconcile components' prior options).IsReordering (reconcile components prior options) := by
  -- the scenes of before, if they are looked at
  let seen := if options.preserveExisting then prior else Storyboard.empty
  have hbind : (bind components' seen.scenes).Perm (bind components seen.scenes) :=
    bind_perm h hids
  have htaken := hbind.filterMap (·.scene)
  have hbindById : (bindById components' seen.scenes).Perm (bindById components seen.scenes) :=
    bindById_perm h hids
  have howned := hbindById.filterMap fun b => b.scene.map fun _ => b.component.sceneId
  have hlive := h.map (·.name)
  -- what is unbound is told by the positions that are taken, whatever their order
  have hunbound : (seen.scenes.zipIdx.filter fun s =>
        !(boundScenes (bind components' seen.scenes)).contains s.2) =
      seen.scenes.zipIdx.filter fun s =>
        !(boundScenes (bind components seen.scenes)).contains s.2 := by
    simp only [boundScenes, htaken.contains_eq]
  refine ⟨bind_perm h hids, ?_⟩
  constructor
  -- list by list: those of components are reordered, those of scenes stay
  all_goals simp only [reconcile]
  case kept =>
    rw [keep_perm howned]
    exact hbind.filterMap _
  case pending => exact (hbind.filter _).map _
  case missing =>
    split
    · exact (h.filter _).map _
    · exact .nil
  case retained => rw [hunbound, fate_perm hlive]
  case pruned => rw [hunbound, fate_perm hlive]
  case superseded => rw [hunbound, fate_perm hlive]
  case retainedImports => rw [hunbound, fate_perm hlive, importsFor_perm hlive]

/-- The first scene shows the card but has the id of the note, so the card gets the second one, also
where it comes first. -/
theorem reconcile_perm_card_and_note :
    let component (name : String) : Component :=
      ⟨name, "components/" ++ name ++ ".tsx", .component, true, false, none⟩
    let scene (id name : String) : Scene := ⟨id, ⟨⟨9, 9⟩, 5, 40⟩, id, some name, ""⟩
    let card := component "Card"
    let note := component "Note"
    let prior : Storyboard := ⟨[scene "NOTE-scene" "Card", scene "mine" "Card", scene "x" "Gone"], []⟩
    (reconcile [card, note] prior {}).kept.map (fun b => (b.component, b.scene.label)) =
        [("Card", "mine"), ("Note", "NOTE-scene")] ∧
      (reconcile [note, card] prior {}).IsReordering (reconcile [card, note] prior {}) := by
  intro component scene card note prior
  exact ⟨by decide +kernel, (reconcile_perm (.swap card note []) (by decide +kernel) prior {}).2⟩

end SceneBoard.Plan
