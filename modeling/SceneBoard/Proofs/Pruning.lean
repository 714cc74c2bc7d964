import SceneBoard.Proofs.Reruns
import SceneBoard.Proofs.RowPlaces
import SceneBoard.Proofs.Settled

/-!
# When a component is gone

A storyboard is generated for some components, and then again without one of them. The others keep
their scenes (`formerScene?_eq_live`), and the scene of the one that is gone is left over
(`unbound_erase`). It is pruned if it is read to show its component; otherwise it is not known what
it shows, and it is retained (`pruned_erase`, `retained_erase`).

The new text can be read again if the first one could. Its top row has at most as many scenes of
each kind as the first one had, so when it is closed up no scene goes farther to the right than the
row reached before (`isCoordinate_of_mem_targets`).

## Key results

- `IsThinned.inRange_layoutOf`: the boxes of the second layout are in range
- `Round.generate_without`: what becomes of the scene of a component that is gone
-/

namespace SceneBoard

open Plan Draft Storyboard

/-! ## Reconciling with fewer components -/

section

variable {components remaining : List Component} {prior : Storyboard} {options : ReconcileOptions}
  {live : Component → Scene} {c : Component}
  (h : IsSteady components prior live []) (hids : (components.map (·.sceneId)).Nodup)

include h hids

private theorem id_live (hc : c ∈ components) : (live c).id = c.sceneId :=
  (h.ids c hc).first (Component.isFirst_of_nodup hids hc)

/-- No scene of before is there twice. -/
private theorem nodup_prior : prior.scenes.Nodup := by
  have hmap : prior.scenes.map (·.id) = components.map (·.sceneId) := by
    rw [h.scenes, List.append_nil, List.map_map]
    exact List.map_congr_left fun c hc => id_live h hids hc
  exact List.Nodup.of_map _ (hmap ▸ hids)

section

variable (hsub : remaining.Sublist components)

include hsub

/-- A component that is still there gets its scene. -/
private theorem formerScene?_eq_live (hc : c ∈ remaining) :
    formerScene? remaining prior.scenes c = some (live c) := by
  rw [formerScene?, h.scenes, List.append_nil,
    find?_ownsId hids (fun c hc => id_live h hids hc) (hsub.subset hc), Option.some_or]

/-- The scenes of the others are left over. -/
private theorem unbound_eq_live : unbound remaining prior.scenes =
    (components.filter fun c => c ∉ remaining).map live := by
  rw [unbound, h.scenes, List.append_nil, List.filter_map]
  congr 1
  refine List.filter_congr fun c hc => ?_
  -- a scene is bound if it is that of a component that remains
  rw [Function.comp_apply, Bool.eq_iff_iff, Bool.not_eq_true', Bool.eq_false_iff, Ne, isBound,
    List.any_eq_true, decide_eq_true_eq]
  refine not_congr ⟨?_, fun hc' => ⟨c, hc', ?_⟩⟩
  · rintro ⟨c', hc', hformer⟩
    rw [← List.append_nil (components.map live), ← h.scenes,
      formerScene?_eq_live h hids hsub hc', beq_iff_eq, Option.some_inj] at hformer
    -- scenes of different components have different ids
    have hid := congrArg Scene.id hformer
    rw [id_live h hids (hsub.subset hc'), id_live h hids hc] at hid
    exact List.inj_on_of_nodup_map hids (hsub.subset hc') hc hid ▸ hc'
  · rw [← List.append_nil (components.map live), ← h.scenes,
      formerScene?_eq_live h hids hsub hc', beq_self_eq_true]

end

section

variable (hc : c ∈ components) (hpreserve : options.preserveExisting)

include hc

/-- The scene of the component that is gone is left over. -/
private theorem unbound_erase : unbound (components.erase c) prior.scenes = [live c] := by
  have hgone : components.filter (fun c' => c' ∉ components.erase c) = [c] := by
    -- with no component twice, only the one taken away is missing
    have hother : components.filter (fun c' => c' ∉ components.erase c) =
        components.filter (· == c) := by
      refine List.filter_congr fun c' hc' => ?_
      rw [Bool.eq_iff_iff, decide_eq_true_eq, h.nodup.mem_erase_iff, beq_iff_eq]
      simp [hc']
    rw [hother, List.filter_beq, List.count_eq_one_of_mem h.nodup hc]
    rfl
  rw [unbound_eq_live h hids List.erase_sublist, hgone]
  rfl

omit hids in
/-- What becomes of it: it is pruned if it is read to show the component, and retained if not. -/
private theorem fate_live (hprune : options.prune) :
    fate ((components.erase c).map (·.name)) options.prune (live c) =
      if c.IsShown then .pruned c.name else .retained := by
  have hgone : c.name ∉ (components.erase c).map (·.name) := by
    rintro hmem
    obtain ⟨c', hc', hname⟩ := List.mem_map.1 hmem
    rw [h.nodup.mem_erase_iff] at hc'
    exact hc'.1 (List.inj_on_of_nodup_map h.names hc'.2 hc hname)
  rw [fate, h.shown c hc]
  by_cases hshown : c.IsShown
  · rw [if_pos hshown, if_pos hshown, hprune]
    simp [hgone]
  · rw [if_neg hshown, if_neg hshown]

include hpreserve

/-- The scene of a component taken away is pruned if it shows the component. -/
private theorem pruned_erase (hprune : options.prune) :
    (reconcile (components.erase c) prior options).pruned =
      if c.IsShown then [⟨c.sceneId, c.name⟩] else [] := by
  rw [pruned_reconcile hpreserve (hids.sublist (List.erase_sublist.map _)) (nodup_prior h hids),
    unbound_erase h hids hc, List.filterMap_cons, fate_live h hc hprune]
  by_cases hshown : c.IsShown
  · rw [if_pos hshown, if_pos hshown, id_live h hids hc]
    rfl
  · rw [if_neg hshown, if_neg hshown]
    rfl

/-- Otherwise it is retained. -/
private theorem retained_erase (hprune : options.prune) :
    (reconcile (components.erase c) prior options).retained =
      if c.IsShown then [] else [live c] := by
  rw [retained_reconcile hpreserve (hids.sublist (List.erase_sublist.map _)) (nodup_prior h hids),
    unbound_erase h hids hc, List.filter_singleton, fate_live h hc hprune]
  by_cases hshown : c.IsShown
  · rw [if_pos hshown, if_pos hshown]
    rfl
  · rw [if_neg hshown, if_neg hshown]
    rfl

end

end

/-! ## Where the scenes of a smaller row go -/

section

variable {row row' : List RowEntry}

/-- With fewer anchors the plain part begins no further right. -/
private theorem rowBase_le {playground app playground' app' : Bool}
    (hplayground : playground' → playground) (happ : app' → app) :
    212 ≤ rowBase {} playground' app' ∧
      rowBase {} playground' app' ≤ rowBase {} playground app := by
  revert playground app playground' app'
  decide

/-- A row with no more scenes of each kind than another one does not go farther when it is closed
up. -/
theorem isCoordinate_of_mem_targets {t : Slot × Int} (hslots : (row.map (·.slot)).Nodup)
    (hrow : ∀ e ∈ row, IsCoordinate (closedUp {} row e).left)
    (hkinds : ∀ kind, (ofKind kind row').length ≤ (ofKind kind row).length)
    (ht : t ∈ targets {} row') : IsCoordinate t.2 := by
  -- a kind that the new row has is in the old one as well
  have hsome (kind : RowKind) (h : (ofKind kind row').head?.isSome) :
      (ofKind kind row).head?.isSome := by
    rw [List.isSome_head?, ← List.length_pos_iff] at h ⊢
    have := hkinds kind
    omega
  obtain ⟨hlow, hbase⟩ := rowBase_le (hsome .playground) (hsome .app)
  rw [targets_eq, List.mem_append, List.mem_append, List.mem_map, List.mem_map, List.mem_map] at ht
  rcases ht with (⟨e, -, rfl⟩ | ⟨e, -, rfl⟩) | ⟨⟨e, i⟩, he, rfl⟩
  · show IsCoordinate 212
    decide
  · show IsCoordinate (if _ then 992 else 212)
    split <;> decide
  · -- the other row has a scene at this position, too
    have hi : i < (ofKind .plain row).length := by
      have hlt := List.snd_lt_of_mem_zipIdx he
      have := hkinds .plain
      omega
    have hmem : (ofKind .plain row)[i] ∈ row :=
      (List.mem_filter.1 (List.getElem_mem hi)).1
    have hplace := hrow _ hmem
    rw [closedUp, lookup_plain hslots (List.mk_mem_zipIdx_iff_getElem?.2
      (List.getElem?_eq_getElem hi)), Option.getD_some] at hplace
    have hstep : plainBase {} row' + i * (816 : Int) ≤ plainBase {} row + i * (816 : Int) :=
      Int.add_le_add_right hbase _
    have hlow' : 212 ≤ plainBase {} row' := hlow
    have hupper : plainBase {} row + i * (816 : Int) ≤ maxCoordinate := hplace.2
    refine ⟨?_, Int.le_trans hstep hupper⟩
    show -10000000 ≤ plainBase {} row' + i * (816 : Int)
    omega

end

/-! ## Layouts of fewer components -/

/-- Some of the components of a layout (`former`) keep their scenes in the next one (`kept`), and
nothing else is there. -/
structure IsThinned (components remaining : List Component) (before prior : Storyboard)
    (options : ReconcileOptions) (settings : LayoutSettings) (former : Component → PlacedScene)
    (f : Component → Option Scene) (kept : Component → Scene) : Prop where
  names : (components.map (·.name)).Nodup
  sublist : remaining.Sublist components
  scenes : (layoutOf components before options settings).scenes = components.map former
  shows : ∀ c ∈ components, (former c).origin.component? = some c.name
  plan : (reconcile remaining prior options).IsSplitBy remaining f
  kept_eq : ∀ c ∈ remaining, f c = some (kept c)
  box : ∀ c ∈ remaining, (kept c).box = (former c).scene.box
  label : ∀ c ∈ remaining, (kept c).label = (former c).scene.label
  retained : (reconcile remaining prior options).retained = []

namespace IsThinned

variable {components remaining : List Component} {before prior : Storyboard}
  {options : ReconcileOptions} {settings : LayoutSettings} {former : Component → PlacedScene}
  {f : Component → Option Scene} {kept : Component → Scene} {c : Component}
  (h : IsThinned components remaining before prior options settings former f kept)

include h

private theorem nodup_remaining : (remaining.map (·.name)).Nodup :=
  h.names.sublist (h.sublist.map _)

/-- A scene is the kept one, moved to its goal. -/
private theorem liveScene_eq (hc : c ∈ remaining) : liveScene remaining prior options settings c =
    moveTo ⟨kept c, .kept c.name (kept c).box⟩
      ((((placed remaining prior options settings).goals remaining settings).lookup
        (.live c.name)).getD (kept c).box.left) := by
  rw [liveScene_eq_moved h.nodup_remaining h.plan hc (h.kept_eq c hc), moved_eq]

/-- The new layout has a scene for each of these components, and no others. -/
private theorem forall₂_layoutOf : List.Forall₂ PlacedScene.SameButId
    (remaining.map (liveScene remaining prior options settings))
    (layoutOf remaining prior options settings).scenes := by
  have horphans : orphanScenes remaining prior options settings = [] := by
    rw [orphanScenes, orphans_compact, orphans_placed, h.retained]
    rfl
  have hsame := forall₂_distinctIds (liveScenes remaining prior options settings ++
    orphanScenes remaining prior options settings)
  rw [← scenes_layoutOf, liveScenes_eq h.nodup_remaining h.plan, horphans, List.append_nil] at hsame
  exact hsame

/-- The scene of a component belongs to the row if it did before. -/
private theorem inTopRow_liveScene (hc : c ∈ remaining) :
    inTopRow remaining settings (liveScene remaining prior options settings c) =
      inTopRow components settings (former c) := by
  have hc' := h.sublist.subset hc
  rw [h.liveScene_eq hc, inTopRow, inTopRow, h.shows c hc', Option.bind_some,
    named?_eq h.names hc', ← h.box c hc]
  -- the sizes and the kinds are those of the component, which is still there
  show (_ || Option.any _ (Component.named? remaining c.name)) = _
  rw [named?_eq h.nodup_remaining hc]
  rfl

/-- It is of the same kind as before. -/
private theorem rowKind_liveScene (hc : c ∈ remaining) :
    rowKind settings (liveScene remaining prior options settings c) =
      rowKind settings (former c) := by
  rw [h.liveScene_eq hc]
  simp only [rowKind, h.shows c (h.sublist.subset hc), ← h.label c hc]
  rfl

/-- The new row has no more scenes of a kind than the old one. -/
private theorem length_ofKind_row_le (kind : RowKind) :
    (ofKind kind ((placed remaining prior options settings).row remaining settings)).length ≤
      (ofKind kind ((placed components before options settings).row components settings)).length := by
  -- renumbering leaves the outlines
  have houtline := h.forall₂_layoutOf.imp fun p q hpq =>
    (show SameOutline p q by rw [hpq]; exact ⟨rfl, rfl, rfl⟩)
  rw [length_ofKind_row, length_ofKind_row, ← length_rowScenes_of_forall₂ kind houtline, h.scenes,
    rowScenes, rowScenes, List.filter_map, List.filter_map, List.length_map, List.length_map]
  have hsame : ∀ c ∈ remaining,
      (inTopRow remaining settings (liveScene remaining prior options settings c) &&
        rowKind settings (liveScene remaining prior options settings c) == kind) =
          (inTopRow components settings (former c) && rowKind settings (former c) == kind) := by
    intro c hc
    rw [h.inTopRow_liveScene hc, h.rowKind_liveScene hc]
  have hfewer := (h.sublist.filter fun c =>
    inTopRow components settings (former c) && rowKind settings (former c) == kind).length_le
  rw [← List.filter_congr hsame] at hfewer
  exact hfewer

/-- The boxes of the new layout are in range if those of the old one are. -/
theorem inRange_layoutOf (hsettings : settings = {})
    (hboxes : ∀ p ∈ (layoutOf components before options settings).scenes, p.scene.box.InRange) :
    ∀ p ∈ (layoutOf remaining prior options settings).scenes, p.scene.box.InRange := by
  subst hsettings
  intro p hp
  obtain ⟨q, hq, hsame⟩ := exists_of_mem_forall₂ h.forall₂_layoutOf hp
  obtain ⟨c, hc, rfl⟩ := List.mem_map.1 hq
  have hformer := hboxes (former c) (h.scenes ▸ List.mem_map_of_mem (h.sublist.subset hc))
  rw [← h.box c hc] at hformer
  rw [hsame, h.liveScene_eq hc]
  refine ⟨hformer.1, ?_, hformer.2.2⟩
  -- a scene without a goal stays, and one with a goal goes to a coordinate
  show IsCoordinate (Option.getD _ (kept c).box.left)
  cases hgoal : ((placed remaining prior options {}).goals remaining {}).lookup (.live c.name) with
  | none => exact hformer.2.1
  | some left =>
    have hmem : (Slot.live c.name, left) ∈
        targets {} ((placed remaining prior options {}).row remaining {}) := mem_of_lookup hgoal
    refine isCoordinate_of_mem_targets (nodup_slots (nodup_placed {})) (fun e he => ?_)
      h.length_ofKind_row_le hmem
    obtain ⟨p', hp', hleft⟩ := exists_of_mem_row components before options {} he
    exact hleft ▸ (hboxes p' hp').2.1

end IsThinned

/-! ## A round without a component -/

namespace Round

variable {r : Round} {c : Component}

/-- The round without one of its components. -/
def without (r : Round) (c : Component) : Round :=
  { r with components := r.components.erase c }

/-- Without a component a run stays legible. -/
private theorem IsLegible.without (h : r.IsLegible) (c : Component) : (r.without c).IsLegible where
  names := h.names.sublist (List.erase_sublist.map _)
  components c' hc' := h.components c' (List.mem_of_mem_erase hc')
  folders c' hc' := h.folders c' (List.mem_of_mem_erase hc')
  appLabel := h.appLabel

/-- What the first text is read as: each component has its scene, and there are no others. -/
theorem exists_isSteady_first (hlegible : r.IsLegible)
    (hboxes : ∀ p ∈ (r.generate none).layout.scenes, p.scene.box.InRange) :
    ∃ live, IsLayoutOf r.components live [] (r.generate none).layout.scenes ∧
      IsSteady r.components (parse (r.generate none).text)
        (fun c => (live c).asWritten r.components) [] ∧
      ∀ s ∈ (Storyboard.ofPrevious (some (r.generate none).text)).scenes, s.IsLegible := by
  have hregular := isRegular_none hlegible
  obtain ⟨live, orphans, hlayout, hlength⟩ := hregular.layout
  obtain rfl := List.length_eq_zero_iff.1 hlength
  have hread := hregular.scenes_parse hlegible hboxes
  refine ⟨live, hlayout, hlayout.isSteady hlegible.names
    (fun c hc => (hlegible.components c hc).name) hread, fun s hs => ?_⟩
  obtain ⟨p, hp, rfl⟩ := List.mem_map.1 (hread ▸ hs)
  exact hregular.legible p hp

section

variable (hlegible : r.IsLegible) (hids : (r.components.map (·.sceneId)).Nodup)
  (hpreserve : r.options.preserveExisting) (hprune : r.options.prune)
  (hboxes : ∀ p ∈ (r.generate none).layout.scenes, p.scene.box.InRange) (hc : c ∈ r.components)

include hlegible hids hpreserve hprune hboxes hc

/-- The plan of a round without a component prunes the scene of the component, or retains it. -/
theorem plan_without :
    ((r.without c).generate (some (r.generate none).text)).plan.pruned =
      (if c.IsShown then [⟨c.sceneId, c.name⟩] else []) ∧
    ((r.without c).generate (some (r.generate none).text)).plan.retained.map (·.id) =
      if c.IsShown then [] else [c.sceneId] := by
  obtain ⟨live, -, hsteady, -⟩ := exists_isSteady_first hlegible hboxes
  refine ⟨pruned_erase hsteady hids hc hpreserve hprune, ?_⟩
  refine (congrArg (List.map _) (retained_erase hsteady hids hc hpreserve hprune)).trans ?_
  split
  · rfl
  · exact congrArg (fun id => [id]) (id_live hsteady hids hc)

/-- If the scene is pruned, what is written is read as one scene for each of the others. -/
theorem ids_parse_without (hsettings : r.settings = {}) (hshown : c.IsShown) :
    (parse ((r.without c).generate (some (r.generate none).text)).text).scenes.map (·.id) =
      (r.components.erase c).map (·.sceneId) := by
  obtain ⟨live, hlayout, hsteady, hprior⟩ := exists_isSteady_first hlegible hboxes
  -- the ids that remain are distinct, and nothing is retained
  have hids' : ((r.components.erase c).map (·.sceneId)).Nodup :=
    hids.sublist (List.erase_sublist.map _)
  have hscenes := nodup_prior hsteady hids
  have hretained : (reconcile (r.components.erase c) (parse (r.generate none).text)
      r.options).retained = [] :=
    (retained_erase hsteady hids hc hpreserve hprune).trans (if_pos hshown)
  have hkept : ∀ c' ∈ r.components.erase c,
      keptScene? (r.components.erase c) (parse (r.generate none).text).scenes c' =
          some { (live c').asWritten r.components with
            id := c'.sceneId, component := some c'.name } := by
    intro c' hc'
    rw [keptScene?, formerScene?_eq_live hsteady hids List.erase_sublist hc', Option.map_some]
  -- so the second layout is the first one without the component
  have hthinned : IsThinned r.components (r.components.erase c) (Storyboard.ofPrevious none)
      (parse (r.generate none).text) r.options r.settings live _ _ :=
    ⟨hlegible.names, List.erase_sublist, hlayout.scenes.trans (List.append_nil _), hlayout.shows,
      isSplitBy_reconcile hpreserve hids' hscenes, hkept, fun _ _ => rfl, fun _ _ => rfl, hretained⟩
  have hboxes' : ∀ p ∈ ((r.without c).generate (some (r.generate none).text)).layout.scenes,
      p.scene.box.InRange := hthinned.inRange_layoutOf hsettings hboxes
  -- with nothing retained there are no further imports
  have hnone : keptImports (r.without c).components
      (Storyboard.ofPrevious (some (r.generate none).text)) (r.without c).options = [] := by
    apply keptImports_eq_nil
    intro s hs
    have hmem : s ∈ ([] : List Scene) := hretained ▸ hs
    simp at hmem
  have hread := scenes_parse_text (hlegible.without c).names (hlegible.without c).components
    (fun p hp => (hlegible.without c).isReadable hprior hp (hboxes' p hp))
    (fun i hi => by rw [hnone] at hi; simp at hi)
  -- the layout has a scene for each component, under its id, and no others
  obtain ⟨orphans, hlayout', hsame⟩ :=
    @exists_layout_scenes _ _ _ r.settings hpreserve hids' hscenes
  have hnothing : orphanScenes (r.components.erase c) (parse (r.generate none).text) r.options
      r.settings = [] := by
    rw [orphanScenes, orphans_compact, orphans_placed, hretained]
    rfl
  rw [hnothing, List.forall₂_nil_left_iff] at hsame
  rw [hsame, List.append_nil] at hlayout'
  calc (parse ((r.without c).generate (some (r.generate none).text)).text).scenes.map (·.id)
      = ((r.without c).generate (some (r.generate none).text)).layout.scenes.map (·.scene.id) := by
        rw [hread, List.map_map]
        rfl
    _ = ((r.components.erase c).map (liveScene (r.components.erase c)
          (parse (r.generate none).text) r.options r.settings)).map (·.scene.id) :=
        congrArg (List.map _) hlayout'
    _ = (r.components.erase c).map (·.sceneId) := map_id_liveScene hpreserve hids' hscenes

/-- A round without a component prunes the scene of the component, and writes one scene for each of
the others, if the scene is read to show the component. Otherwise it prunes nothing and retains the
scene. -/
theorem generate_without (hsettings : r.settings = {}) :
    let again := (r.without c).generate (some (r.generate none).text)
    (c.IsShown → again.plan.pruned = [⟨c.sceneId, c.name⟩] ∧ again.plan.retained = [] ∧
      (parse again.text).scenes.map (·.id) = (r.components.erase c).map (·.sceneId)) ∧
    (¬ c.IsShown → again.plan.pruned = [] ∧ again.plan.retained.map (·.id) = [c.sceneId]) := by
  intro again
  obtain ⟨hpruned, hretained⟩ := plan_without hlegible hids hpreserve hprune hboxes hc
  refine ⟨fun hshown => ?_, fun hshown => ?_⟩
  · rw [if_pos hshown] at hpruned hretained
    exact ⟨hpruned, List.map_eq_nil_iff.1 hretained,
      ids_parse_without hlegible hids hpreserve hprune hboxes hc hsettings hshown⟩
  · rw [if_neg hshown] at hpruned hretained
    exact ⟨hpruned, hretained⟩

end

/-- A card that is gone beside a note that stays. -/
theorem generate_without_card :
    let card : Component := ⟨"Card", "components/Card.tsx", .component, true, false, none⟩
    let note : Component := ⟨"Note", "components/Note.tsx", .component, false, true, none⟩
    let r : Round := ⟨[card, note], {}, {}, "../src"⟩
    let again := (r.without card).generate (some (r.generate none).text)
    again.plan.pruned = [⟨"card-scene", "Card"⟩] ∧ again.plan.retained = [] ∧
      (parse again.text).scenes.map (·.id) = ["note-scene"] := by
  intro card note r again
  have hlegible : r.IsLegible := ⟨by decide, by decide +kernel, by decide, by decide⟩
  have hboxes : ∀ p ∈ (r.generate none).layout.scenes, p.scene.box.InRange := by decide +kernel
  have hagain := (generate_without hlegible (by decide +kernel) rfl rfl hboxes
    (by decide : card ∈ r.components) rfl).1 (by decide)
  have hid : card.sceneId = "card-scene" ∧
      (r.components.erase card).map (·.sceneId) = ["note-scene"] := by decide +kernel
  rw [hid.1, hid.2] at hagain
  exact hagain

/-- A name with a dollar sign is not read as that of a tag, so the scene of such a component is
not pruned. -/
theorem not_generate_without_of_dollar : ¬ ∀ (components : List Component) (importPrefix : String)
    (c : Component), let r : Round := ⟨components, {}, {}, importPrefix⟩
    r.IsLegible → (components.map (·.sceneId)).Nodup →
    (∀ p ∈ (r.generate none).layout.scenes, p.scene.box.InRange) → c ∈ components →
    ((r.without c).generate (some (r.generate none).text)).plan.pruned =
      [⟨c.sceneId, c.name⟩] := by
  intro h
  let card : Component := ⟨"Card$", "components/Card.tsx", .component, true, false, none⟩
  let r : Round := ⟨[card], {}, {}, "../src"⟩
  have hlegible : r.IsLegible := ⟨by decide, by decide +kernel, by decide, by decide⟩
  have hboxes : ∀ p ∈ (r.generate none).layout.scenes, p.scene.box.InRange := by decide +kernel
  have hids : (r.components.map (·.sceneId)).Nodup := by decide +kernel
  have hc : card ∈ r.components := by decide
  have hpruned := (plan_without hlegible hids rfl rfl hboxes hc).1
  rw [if_neg (by decide), h [card] "../src" card hlegible hids hboxes hc] at hpruned
  simp at hpruned

end Round

end SceneBoard
