import SceneBoard.Proofs.ShownComponent

/-!
# Components that share an id

Components whose names differ in case only own one id, and only the first of them has its scene
under it. The others find their scenes again by what these show, which fails for a component whose
scene is not read to show it: that component is lost (`Component.IsLost`). Where the other scenes of
a storyboard belong to nobody, this is all that a reconciliation does: whoever is not lost keeps its
scene (`IsSteady.isSplitBy`), and the scenes of the lost ones are retained
(`IsSteady.retained_eq`). If only some of the components are left, the first one left with an id
takes over the scene of the first one that there was (`Component.predecessor`,
`IsSteady.isSplitBy_of_sublist`).
-/

namespace SceneBoard

open Plan

namespace Component

variable {components remaining before after : List Component} {c c' : Component}

/-- No component before it owns its id. -/
def IsFirst (c : Component) (components : List Component) : Prop :=
  components.find? (·.sceneId == c.sceneId) = some c

instance : Decidable (c.IsFirst components) :=
  inferInstanceAs (Decidable (_ = _))

/-- It shares its id with a component before it, and its scene is not read to show it. -/
def IsLost (c : Component) (components : List Component) : Prop :=
  ¬ c.IsFirst components ∧ ¬ c.IsShown

instance : Decidable (c.IsLost components) :=
  inferInstanceAs (Decidable (_ ∧ _))

/-- Of the components of one id one is the first. -/
theorem IsFirst.eq (h : c.IsFirst components) (h' : c'.IsFirst components)
    (hid : c.sceneId = c'.sceneId) : c = c' := by
  rw [IsFirst, hid] at h
  exact Option.some.inj (h.symm.trans h')

/-- Some component is the first one with an id. -/
theorem exists_isFirst (hc : c ∈ components) :
    ∃ c' ∈ components, c'.IsFirst components ∧ c'.sceneId = c.sceneId := by
  -- the component itself is one with its id, so some first one is found
  cases hfound : components.find? (·.sceneId == c.sceneId) with
  | none =>
    have hne := List.find?_eq_none.1 hfound c hc
    simp at hne
  | some c' =>
    have hid : c'.sceneId = c.sceneId := by simpa using List.find?_some hfound
    refine ⟨c', List.mem_of_find?_eq_some hfound, ?_, hid⟩
    rw [IsFirst, hid]
    exact hfound

/-- Where no id is shared every component is the first one with its own. -/
theorem isFirst_of_nodup (hids : (components.map (·.sceneId)).Nodup) (hc : c ∈ components) :
    c.IsFirst components := by
  obtain ⟨c', hc', hfirst, hid⟩ := exists_isFirst hc
  obtain rfl : c' = c := List.inj_on_of_nodup_map hids hc' hc hid
  exact hfirst

/-- The first one with an id stands before every other one with that id. -/
theorem IsFirst.mem_before (h' : c'.IsFirst (before ++ c :: after))
    (h : ¬ c.IsFirst (before ++ c :: after)) (hid : c'.sceneId = c.sceneId) : c' ∈ before := by
  have hfound := h'
  rw [IsFirst, List.find?_append] at hfound
  -- the first one stands before `c`, or `c` is it
  cases hbefore : before.find? (·.sceneId == c'.sceneId) with
  | some d =>
    rw [hbefore, Option.some_or] at hfound
    obtain rfl : d = c' := Option.some.inj hfound
    exact List.mem_of_find?_eq_some hbefore
  | none =>
    rw [hbefore, Option.none_or, List.find?_cons_of_pos (by simp [hid])] at hfound
    obtain rfl : c = c' := Option.some.inj hfound
    exact absurd h' h

/-- No component before the first one with an id owns that id. -/
theorem IsFirst.ne_of_mem_before (h : c.IsFirst (before ++ c :: after)) (hc : c ∉ before)
    (hc' : c' ∈ before) : c'.sceneId ≠ c.sceneId := by
  intro hid
  rw [IsFirst, List.find?_append] at h
  -- what is found before `c` would be `c` itself
  cases hbefore : before.find? (·.sceneId == c.sceneId) with
  | some d =>
    rw [hbefore, Option.some_or] at h
    exact hc (Option.some.inj h ▸ List.mem_of_find?_eq_some hbefore)
  | none =>
    have hne := List.find?_eq_none.1 hbefore c' hc'
    simp [hid] at hne

/-- A first element that stays in a part of the list is first there. -/
private theorem head?_of_sublist {α : Type} {l l' : List α} {a : α} (h : l.Sublist l')
    (hl' : l'.Nodup) (hhead : l'.head? = some a) (ha : a ∈ l) : l.head? = some a := by
  cases h with
  | slnil => exact hhead
  | cons b h =>
    obtain rfl : b = a := Option.some.inj hhead
    exact absurd (h.subset ha) (List.nodup_cons.1 hl').1
  | cons_cons b _ => exact hhead

/-- The first component that owns its id. -/
def forerunner (c : Component) (components : List Component) : Component :=
  (components.find? (·.sceneId == c.sceneId)).getD c

/-- The component whose scene of before it gets when only some of the components are left: of those
that share an id, the first one that is left gets the scene of the first one that there was. -/
def predecessor (c : Component) (components remaining : List Component) : Component :=
  if c.IsFirst remaining then c.forerunner components else c

/-- The forerunner is the first component with the id. -/
theorem forerunner_spec (hc : c ∈ components) : c.forerunner components ∈ components ∧
    (c.forerunner components).IsFirst components ∧ (c.forerunner components).sceneId = c.sceneId := by
  obtain ⟨c', hc', hfirst, hid⟩ := exists_isFirst hc
  have heq : c.forerunner components = c' := by
    rw [IsFirst, hid] at hfirst
    rw [forerunner, hfirst, Option.getD_some]
  rw [heq]
  exact ⟨hc', hfirst, hid⟩

theorem IsFirst.forerunner_eq (h : c.IsFirst components) : c.forerunner components = c := by
  rw [IsFirst] at h
  rw [forerunner, h, Option.getD_some]

/-- Where no component is gone, each gets its own scene. -/
theorem predecessor_self (c : Component) (components : List Component) :
    c.predecessor components components = c := by
  unfold predecessor
  split
  · rename_i h
    exact h.forerunner_eq
  · rfl

section

variable (hsub : remaining.Sublist components)

include hsub

/-- The predecessor is a component of the first run. -/
theorem predecessor_mem (hc : c ∈ remaining) : c.predecessor components remaining ∈ components := by
  unfold predecessor
  split
  · exact (forerunner_spec (hsub.subset hc)).1
  · exact hsub.subset hc

/-- The first component with an id is the first one among fewer components, if it is left. -/
theorem IsFirst.of_sublist (h : c.IsFirst components) (hnodup : components.Nodup)
    (hc : c ∈ remaining) : c.IsFirst remaining := by
  rw [IsFirst, ← List.head?_filter] at h ⊢
  -- of the components with the id it is the head
  exact head?_of_sublist (hsub.filter _) (hnodup.sublist List.filter_sublist) h
    (List.mem_filter.2 ⟨hc, by simp⟩)

/-- If the first component with its id is left, a component gets its own scene. -/
theorem predecessor_eq_self (hnodup : components.Nodup) (hc : c ∈ remaining)
    (hfirst : c.forerunner components ∈ remaining) : c.predecessor components remaining = c := by
  obtain ⟨-, hforerunner, hid⟩ := forerunner_spec (hsub.subset hc)
  unfold predecessor
  split
  · rename_i h
    exact (hforerunner.of_sublist hsub hnodup hfirst).eq h hid
  · rfl

end

end Component

/-! ## Steady storyboards -/

/-- A scene that no component owns. -/
def Plan.IsUnowned (s : Scene) : Prop :=
  ∀ c, ¬ ownsId c s

/-- The scene of a component has its own id if it is the first one to own that, and otherwise an id
that nobody owns. -/
structure Component.HasOwnId (c : Component) (components : List Component) (s : Scene) : Prop where
  first : c.IsFirst components → s.id = c.sceneId
  other : ¬ c.IsFirst components → IsUnowned s

/-- A storyboard with a scene for each component and, behind these, scenes that belong to nobody. -/
structure IsSteady (components : List Component) (prior : Storyboard) (live : Component → Scene)
    (orphans : List Scene) : Prop where
  names : (components.map (·.name)).Nodup
  scenes : prior.scenes = components.map live ++ orphans
  ids : ∀ c ∈ components, c.HasOwnId components (live c)
  shown : ∀ c ∈ components, (live c).component = if c.IsShown then some c.name else none
  unowned : ∀ s ∈ orphans, IsUnowned s
  unknown : ∀ s ∈ orphans, s.component = none

namespace IsSteady

variable {components remaining : List Component} {prior : Storyboard} {options : ReconcileOptions}
  {live : Component → Scene} {orphans : List Scene} {c c' : Component} {s : Scene}

section

variable (h : IsSteady components prior live orphans)

include h

theorem nodup : components.Nodup :=
  List.Nodup.of_map _ h.names

/-! ## Where the scenes are -/

/-- The scene of a component stands at the position of the component. -/
private theorem getElem?_idxOf (hc : c ∈ components) :
    prior.scenes[components.idxOf c]? = some (live c) := by
  rw [h.scenes, List.getElem?_append_left (by simp [List.idxOf_lt_length_of_mem hc]),
    List.getElem?_map, List.getElem?_idxOf hc, Option.map_some]

/-- A scene is that of a component, or it is left over. -/
private theorem of_getElem? {i : Nat} (hs : prior.scenes[i]? = some s) :
    (∃ c ∈ components, components.idxOf c = i ∧ live c = s) ∨ s ∈ orphans := by
  rw [h.scenes, List.getElem?_append] at hs
  split at hs
  · rw [List.getElem?_map, Option.map_eq_some_iff] at hs
    obtain ⟨c, hc, rfl⟩ := hs
    obtain ⟨hi, rfl⟩ := List.getElem?_eq_some_iff.1 hc
    exact .inl ⟨_, List.getElem_mem hi, h.nodup.idxOf_getElem i hi, rfl⟩
  · exact .inr (List.mem_of_getElem? hs)

/-- A component owns the scene of the first one with its id, and no other. -/
private theorem of_ownsId {i : Nat} (hs : prior.scenes[i]? = some s) (howns : ownsId c s) :
    ∃ c' ∈ components, components.idxOf c' = i ∧ c'.IsFirst components ∧
      c'.sceneId = c.sceneId := by
  -- it is the scene of a component, or one left over, which no component owns
  rcases h.of_getElem? hs with ⟨c', hc', hi, rfl⟩ | hs
  · by_cases hfirst : c'.IsFirst components
    · have hself := ownsId_self ((h.ids c' hc').first hfirst)
      exact ⟨c', hc', hi, hfirst, sceneId_eq_of_ownsId hself howns⟩
    · exact absurd howns ((h.ids c' hc').other hfirst c)
  · exact absurd howns (h.unowned s hs c)

/-- A scene shows a component only if it is its own. -/
private theorem of_showsName {i : Nat} (hs : prior.scenes[i]? = some s) (hc : c ∈ components)
    (hshows : showsName c s) : components.idxOf c = i ∧ c.IsShown := by
  have hcomponent : s.component = some c.name := eq_of_beq hshows
  -- the scene of a component shows that component or none, and one left over shows none
  rcases h.of_getElem? hs with ⟨c', hc', hi, rfl⟩ | hs
  · rw [h.shown c' hc'] at hcomponent
    split at hcomponent
    · rename_i hshown
      obtain rfl : c' = c :=
        List.inj_on_of_nodup_map h.names hc' hc (Option.some.inj hcomponent)
      exact ⟨hi, hshown⟩
    · simp at hcomponent
  · rw [h.unknown s hs] at hcomponent
    simp at hcomponent

/-! ## Binding

Some of the components may be gone. Those that are left are bound to the scenes of their
predecessors.
-/

section

variable (hsub : remaining.Sublist components)

include hsub

private theorem nodup_remaining : remaining.Nodup :=
  h.nodup.sublist hsub

/-- A component owns the scene of its forerunner, and no other. -/
private theorem eq_of_ownsId (hc : c ∈ remaining) {i : Nat} (hs : prior.scenes[i]? = some s)
    (howns : ownsId c s) : i = components.idxOf (c.forerunner components) := by
  obtain ⟨c', -, hi, hfirst, hid⟩ := h.of_ownsId hs howns
  obtain ⟨-, hforerunner, hid'⟩ := Component.forerunner_spec (hsub.subset hc)
  rw [← hi, hfirst.eq hforerunner (hid.trans hid'.symm)]

section

variable {before rest : List Component} {taken : List Nat}
  (htaken : ∀ i, i ∈ taken ↔ ∃ c ∈ before,
    c.IsFirst remaining ∧ components.idxOf (c.forerunner components) = i)

include htaken

/-- The first one left with an id finds the scene of its forerunner free. -/
private theorem firstFree_of_isFirst (hsplit : remaining = before ++ c :: rest)
    (hfirst : c.IsFirst remaining) : firstFree prior.scenes taken (ownsId c) =
      some (components.idxOf (c.forerunner components)) := by
  have hc : c ∈ remaining := by simp [hsplit]
  obtain ⟨hforerunner, hfirst', hid⟩ := Component.forerunner_spec (hsub.subset hc)
  -- the scene of the forerunner is free, has the id, and is the only one
  apply firstFree_eq_some (h.getElem?_idxOf hforerunner)
  · rw [htaken]
    rintro ⟨c', hc', hfirst'', hidx⟩
    have hmem : c' ∈ remaining := by simp [hsplit, hc']
    obtain ⟨hforerunner', -, hid'⟩ := Component.forerunner_spec (hsub.subset hmem)
    have hsame := (List.idxOf_inj hforerunner').1 hidx
    -- a component does not stand before itself
    obtain rfl : c' = c := hfirst''.eq hfirst (hid'.symm.trans (hsame ▸ hid))
    have hnodup := h.nodup_remaining hsub
    rw [hsplit, List.nodup_append] at hnodup
    exact hnodup.2.2 c' hc' c' (by simp) rfl
  · exact ownsId_self (((h.ids _ hforerunner).first hfirst').trans hid)
  · exact fun i s hs howns => h.eq_of_ownsId hsub hc hs howns

/-- Every other one finds none, as the first one left with its id has the scene. -/
private theorem firstFree_of_not_isFirst (hsplit : remaining = before ++ c :: rest)
    (hfirst : ¬ c.IsFirst remaining) : firstFree prior.scenes taken (ownsId c) = none := by
  have hc : c ∈ remaining := by simp [hsplit]
  obtain ⟨-, hfirst', hid⟩ := Component.forerunner_spec (hsub.subset hc)
  obtain ⟨d, hd, hdfirst, hdid⟩ := Component.exists_isFirst hc
  -- the first component with the id came before and took the scene
  have hbefore : d ∈ before := by
    rw [hsplit] at hfirst hdfirst
    exact hdfirst.mem_before hfirst hdid
  obtain ⟨-, hdforerunner, hdid'⟩ := Component.forerunner_spec (hsub.subset hd)
  apply firstFree_eq_none
  intro i s hs howns
  rw [htaken, h.eq_of_ownsId hsub hc hs howns]
  refine ⟨d, hbefore, hdfirst, ?_⟩
  rw [hdforerunner.eq hfirst' ((hdid'.trans hdid).trans hid.symm)]

/-- The round by ids from some component on. What is taken so far are the scenes of the forerunners
of those components before that are the first ones left with their ids. -/
private theorem bindRound_ownsId (hsplit : remaining = before ++ rest) :
    bindRound prior.scenes ownsId taken (rest.map (⟨·, none⟩)) = rest.map fun c =>
      ⟨c, if c.IsFirst remaining then some (components.idxOf (c.forerunner components))
        else none⟩ := by
  induction rest generalizing before taken with
  | nil => rfl
  | cons c rest ih =>
    have hsplit' : remaining = (before ++ [c]) ++ rest := by simp [hsplit]
    -- the first component with an id takes the scene that has it, and the others find none
    by_cases hfirst : c.IsFirst remaining
    · have hfree := h.firstFree_of_isFirst hsub htaken hsplit hfirst
      simp only [List.map_cons, bindRound, hfree, if_pos hfirst]
      rw [ih (fun i => ?_) hsplit']
      simp only [List.mem_cons, htaken, List.mem_append, List.not_mem_nil, or_false]
      -- what is taken now is what was taken, and the scene of the forerunner
      constructor
      · rintro (rfl | ⟨d, hd, hdfirst, hi⟩)
        · exact ⟨c, .inr rfl, hfirst, rfl⟩
        · exact ⟨d, .inl hd, hdfirst, hi⟩
      · rintro ⟨d, hd | rfl, hdfirst, hi⟩
        · exact .inr ⟨d, hd, hdfirst, hi⟩
        · exact .inl hi.symm
    · have hfree := h.firstFree_of_not_isFirst hsub htaken hsplit hfirst
      simp only [List.map_cons, bindRound, hfree, if_neg hfirst]
      rw [ih (fun i => ?_) hsplit']
      simp only [htaken, List.mem_append, List.mem_cons, List.not_mem_nil, or_false]
      refine exists_congr fun d => and_congr_left fun hd => (or_iff_left ?_).symm
      rintro rfl
      exact hfirst hd.1

end

/-- The first round, component by component. -/
private theorem bindById_eq : bindById remaining prior.scenes = remaining.map fun c =>
    ⟨c, if c.IsFirst remaining then some (components.idxOf (c.forerunner components))
      else none⟩ := by
  have hsplit : remaining = [] ++ remaining := rfl
  exact h.bindRound_ownsId hsub (by simp) hsplit

/-- What the first round takes are the scenes of forerunners. -/
private theorem mem_boundScenes_bindById {i : Nat} :
    i ∈ boundScenes (bindById remaining prior.scenes) ↔ ∃ c ∈ remaining,
      c.IsFirst remaining ∧ components.idxOf (c.forerunner components) = i := by
  rw [h.bindById_eq hsub, boundScenes, List.filterMap_map]
  simp only [List.mem_filterMap, Function.comp_apply, Option.ite_none_right_eq_some,
    Option.some_inj]

/-- A component that is not lost gets the scene of its predecessor. -/
private theorem bind_eq : bind remaining prior.scenes = remaining.map fun c =>
    ⟨c, if c.IsLost remaining then none
      else some (components.idxOf (c.predecessor components remaining))⟩ := by
  -- the second round goes over what the first one left unbound
  simp only [Plan.bind]
  rw [bindRound_eq]
  · conv_lhs => arg 2; rw [h.bindById_eq hsub]
    rw [List.map_map]
    refine List.map_congr_left fun c hc => ?_
    have hc' := hsub.subset hc
    simp only [Function.comp_apply, Component.predecessor]
    by_cases hfirst : c.IsFirst remaining
    · rw [if_pos hfirst, if_pos hfirst, Option.some_or, if_neg fun hlost => hlost.1 hfirst]
    rw [if_neg hfirst, if_neg hfirst, Option.none_or]
    -- its own scene is free, as only those of forerunners are taken
    by_cases hshown : c.IsShown
    · rw [if_neg fun hlost => hlost.2 hshown]
      congr 1
      apply firstFree_eq_some (h.getElem?_idxOf hc')
      · rw [h.mem_boundScenes_bindById hsub]
        rintro ⟨d, hd, -, hidx⟩
        obtain ⟨hforerunner, hfirst', -⟩ := Component.forerunner_spec (hsub.subset hd)
        have hsame : d.forerunner components = c := (List.idxOf_inj hforerunner).1 hidx
        exact hfirst ((hsame ▸ hfirst').of_sublist hsub h.nodup hc)
      · rw [showsName, h.shown c hc', if_pos hshown, beq_self_eq_true]
      · exact fun i s hs hshows => (h.of_showsName hs hc' hshows).1.symm
    · -- a lost component neither comes first nor is shown, so nothing is found for it
      rw [if_pos ⟨hfirst, hshown⟩]
      congr 1
      apply firstFree_eq_none
      exact fun i s hs hshows => absurd (h.of_showsName hs hc' hshows).2 hshown
  · rw [h.bindById_eq hsub]
    exact List.pairwise_map.2 (pairwise_showsName (h.names.sublist (hsub.map _)))

/-- A component keeps the scene of its predecessor under the id that this has. -/
private theorem keep_eq (hc : c ∈ remaining) :
    keep ((bindById remaining prior.scenes).filterMap fun b =>
      b.scene.map fun _ => b.component.sceneId) c (live (c.predecessor components remaining)) =
        ⟨c.name, { live (c.predecessor components remaining) with component := some c.name }⟩ := by
  -- the id of the component is owned, since the first component with it has a scene
  have howned : c.sceneId ∈ (bindById remaining prior.scenes).filterMap fun b =>
      b.scene.map fun _ => b.component.sceneId := by
    obtain ⟨c', hc', hfirst, hid⟩ := Component.exists_isFirst hc
    rw [h.bindById_eq hsub, List.filterMap_map, List.mem_filterMap]
    exact ⟨c', hc', by simp [hfirst, hid]⟩
  have hc' := hsub.subset hc
  unfold keep
  by_cases hfirst : c.IsFirst remaining
  · -- the scene of the forerunner has the id, so it stays as it is
    obtain ⟨hforerunner, hfirst', hid'⟩ := Component.forerunner_spec hc'
    have hid : (live (c.predecessor components remaining)).id = c.sceneId := by
      rw [Component.predecessor, if_pos hfirst]
      exact ((h.ids _ hforerunner).first hfirst').trans hid'
    have howns : Text.sameIgnoringCase (live (c.predecessor components remaining)).id c.sceneId =
      true := ownsId_self hid
    rw [howns, Bool.true_or, if_pos rfl, ← hid]
  · -- of the components that share an id, the first alone has a scene with it
    have hother : ¬ c.IsFirst components := fun h' => hfirst (h'.of_sublist hsub h.nodup hc)
    have howns : Text.sameIgnoringCase (live (c.predecessor components remaining)).id c.sceneId =
        false := by
      rw [Component.predecessor, if_neg hfirst]
      exact Bool.eq_false_iff.2 ((h.ids c hc').other hother c)
    rw [howns, Bool.false_or, List.contains_iff_mem.2 howned, Bool.not_true, if_neg (by simp)]

end

/-! ## What becomes of the scenes -/

/-- What both rounds take are the scenes of all components but the lost ones. -/
private theorem mem_boundScenes_bind {i : Nat} : i ∈ boundScenes (bind components prior.scenes) ↔
    ∃ c ∈ components, ¬ c.IsLost components ∧ components.idxOf c = i := by
  rw [h.bind_eq (List.Sublist.refl _), boundScenes, List.filterMap_map]
  simp only [List.mem_filterMap, Function.comp_apply, Option.ite_none_left_eq_some,
    Option.some_inj, Component.predecessor_self]

/-- The scene that a component keeps. -/
def kept? (components : List Component) (live : Component → Scene) (c : Component) : Option Scene :=
  if c.IsLost components then none else some { live c with component := some c.name }

/-- Of fewer components, whoever is not lost keeps the scene of its predecessor. -/
theorem isSplitBy_of_sublist (hsub : remaining.Sublist components)
    (hpreserve : options.preserveExisting) :
    (reconcile remaining prior options).IsSplitBy remaining
      (kept? remaining fun c => live (c.predecessor components remaining)) := by
  refine ⟨?_, ?_⟩
  · -- the kept scenes are those of the predecessors
    simp only [reconcile, hpreserve, if_true]
    rw [h.bind_eq hsub, List.filterMap_map]
    refine List.filterMap_congr fun c hc => ?_
    simp only [Function.comp_apply, kept?]
    by_cases hlost : c.IsLost remaining
    · rw [if_pos hlost, if_pos hlost]
      rfl
    · rw [if_neg hlost, if_neg hlost, Option.bind_some,
        h.getElem?_idxOf (Component.predecessor_mem hsub hc), Option.map_some, Option.map_some,
        h.keep_eq hsub hc]
  · -- and the components that wait are the lost ones
    simp only [reconcile, hpreserve, if_true]
    rw [h.bind_eq hsub, List.filter_map, List.map_map]
    have hlost (c : Component) :
        (kept? remaining (fun c => live (c.predecessor components remaining)) c).isNone =
          (if c.IsLost remaining then none
            else some (components.idxOf (c.predecessor components remaining))).isNone := by
      rw [kept?]
      split <;> rfl
    simp only [hlost]
    rfl

/-- Whoever is not lost keeps its scene. -/
theorem isSplitBy (hpreserve : options.preserveExisting) :
    (reconcile components prior options).IsSplitBy components (kept? components live) := by
  have hsplit := h.isSplitBy_of_sublist (List.Sublist.refl _) hpreserve
  simp only [Component.predecessor_self] at hsplit
  exact hsplit

/-- A kept scene has its own id. -/
theorem hasOwnId_of_kept? (hc : c ∈ components) (hs : kept? components live c = some s) :
    c.HasOwnId components s := by
  rw [kept?, Option.ite_none_left_eq_some, Option.some_inj] at hs
  obtain ⟨-, rfl⟩ := hs
  exact ⟨(h.ids c hc).first, (h.ids c hc).other⟩

/-- A component gets its scene unless it is lost. -/
private theorem idxOf_mem_boundScenes_bind (hc : c ∈ components) :
    components.idxOf c ∈ boundScenes (bind components prior.scenes) ↔ ¬ c.IsLost components := by
  rw [h.mem_boundScenes_bind]
  refine ⟨?_, fun hlost => ⟨c, hc, hlost, rfl⟩⟩
  rintro ⟨c', hc', hlost, hidx⟩
  exact (List.idxOf_inj hc').1 hidx ▸ hlost

/-- The scenes of the components with their positions. -/
private theorem zipIdx_map_live :
    (components.map live).zipIdx = components.map fun c => (live c, components.idxOf c) := by
  refine List.ext_getElem (by simp) fun i hi hi' => ?_
  simp only [List.getElem_zipIdx, List.getElem_map]
  rw [h.nodup.idxOf_getElem i (by simpa using hi), Nat.zero_add]

/-- No component gets a scene that belongs to nobody. -/
private theorem notMem_boundScenes_bind {i : Nat} (hi : components.length ≤ i) :
    i ∉ boundScenes (bind components prior.scenes) := by
  rw [h.mem_boundScenes_bind]
  rintro ⟨c, hc, -, rfl⟩
  exact absurd (List.idxOf_lt_length_of_mem hc) (Nat.not_lt.2 hi)

/-- The scenes that no component gets are those of lost components, and those that belong to
nobody. -/
private theorem leftOver_eq : (prior.scenes.zipIdx.filter fun s =>
    !(boundScenes (bind components prior.scenes)).contains s.2).map (·.1) =
      (components.filter fun c => c.IsLost components).map live ++ orphans := by
  -- of the scenes of components only those of the lost ones are free
  have hlost : (components.map fun c => (live c, components.idxOf c)).filter (fun s =>
      !(boundScenes (bind components prior.scenes)).contains s.2) =
        (components.filter fun c => c.IsLost components).map fun c =>
          (live c, components.idxOf c) := by
    rw [List.filter_map]
    congr 1
    refine List.filter_congr fun c hc => ?_
    rw [Function.comp_apply, Bool.eq_iff_iff, Bool.not_eq_true', Bool.eq_false_iff, Ne,
      List.contains_iff_mem, h.idxOf_mem_boundScenes_bind hc, not_not, decide_eq_true_eq]
  -- behind them every scene is free
  have horphans : (orphans.zipIdx components.length).filter (fun s =>
      !(boundScenes (bind components prior.scenes)).contains s.2) =
        orphans.zipIdx components.length := by
    rw [List.filter_eq_self]
    intro s hs
    rw [Bool.not_eq_true', Bool.eq_false_iff, Ne, List.contains_iff_mem]
    exact h.notMem_boundScenes_bind (List.le_snd_of_mem_zipIdx hs)
  rw [h.scenes, List.zipIdx_append, List.filter_append, List.map_append, ← h.scenes,
    h.zipIdx_map_live, List.length_map, Nat.zero_add, hlost, horphans, List.zipIdx_map_fst,
    List.map_map]
  rfl

/-- The scenes of lost components are retained, and so are those that belong to nobody. -/
theorem retained_eq (hpreserve : options.preserveExisting) :
    (reconcile components prior options).retained =
      (components.filter fun c => c.IsLost components).map live ++ orphans := by
  simp only [reconcile, hpreserve, if_true]
  rw [h.leftOver_eq, List.filter_eq_self]
  -- of none of them it is known what it shows
  intro s hs
  have hnone : s.component = none := by
    rcases List.mem_append.1 hs with hs | hs
    · obtain ⟨c, hc, rfl⟩ := List.mem_map.1 hs
      obtain ⟨hc, hlost⟩ := List.mem_filter.1 hc
      rw [h.shown c hc, if_neg (of_decide_eq_true hlost).2]
    · exact h.unknown s hs
  simp [fate, hnone]

end

end IsSteady

/-! ## The ids of a layout -/

namespace Plan

/-- The id decides whether a scene is unowned. -/
theorem isUnowned_congr {s s' : Scene} (h : s.id = s'.id) : IsUnowned s ↔ IsUnowned s' := by
  simp only [IsUnowned, ownsId, h]

end Plan

section

variable {components : List Component} {live : Component → PlacedScene}
  (hnodup : components.Nodup)
  (hlive : ∀ c ∈ components, (live c).scene.id = c.sceneId ∨
    ¬ c.IsFirst components ∧ IsUnowned (live c).scene)

include hnodup hlive

/-- Making ids distinct leaves the scene of a component with an id of its own. -/
private theorem exists_hasOwnId_distinctIds (orphans : List PlacedScene) {c : Component}
    (hc : c ∈ components) :
    ∃ q, (distinctIds (components.map live ++ orphans))[components.idxOf c]? = some q ∧
      (live c).SameButId q ∧ c.HasOwnId components q.scene := by
  -- the scenes of the components before it stand before its own
  obtain ⟨before, after, rfl⟩ := List.append_of_mem hc
  have hbefore : c ∉ before := fun h =>
    (List.nodup_append.1 hnodup).2.2 c h c (by simp) rfl
  have hidx : (before ++ c :: after).idxOf c = before.length := by
    rw [List.idxOf_append_of_notMem hbefore, List.idxOf_cons_self, Nat.add_zero]
  have hplace : ((before ++ c :: after).map live ++ orphans)[before.length]? = some (live c) := by
    simp
  obtain ⟨q, hq, hcq, hnumbered, hkept⟩ := exists_getElem?_distinctIds hplace
  have htake : ((before ++ c :: after).map live ++ orphans).take before.length =
      before.map live := by simp
  rw [htake, List.map_map] at hnumbered hkept
  refine ⟨q, hidx ▸ hq, hcq, ⟨fun hfirst => ?_, fun hfirst => ?_⟩⟩
  · -- no scene before it has the id, since no component before it owns the id
    have hid : (live c).scene.id = c.sceneId := (hlive c hc).resolve_right fun h => h.1 hfirst
    rw [hkept, hid]
    rw [hid]
    intro hmem
    obtain ⟨d, hd, hdid⟩ := List.mem_map.1 hmem
    rcases hlive d (by simp [hd]) with h | ⟨-, hunowned⟩
    · exact hfirst.ne_of_mem_before hbefore hd (h.symm.trans hdid)
    · exact hunowned c (ownsId_self hdid)
  · -- a later component with the id is numbered, or its scene is unowned as it is
    by_cases hmem : (live c).scene.id ∈ before.map ((·.scene.id) ∘ live)
    · obtain ⟨n, hn⟩ := hnumbered hmem
      exact fun c' => not_ownsId_of_numberedId hn
    rcases hlive c hc with hid | ⟨-, hunowned⟩
    · -- the first one with the id stands before it
      obtain ⟨d, hd, hdfirst, hdid⟩ := Component.exists_isFirst hc
      have hdlive : (live d).scene.id = (live c).scene.id := by
        rw [(hlive d hd).resolve_right fun h => h.1 hdfirst, hid, hdid]
      exact absurd (List.mem_map.2 ⟨d, hdfirst.mem_before hfirst hdid, hdlive⟩) hmem
    · exact (isUnowned_congr (hkept hmem)).2 hunowned

/-- Where every component has a scene with its id, or one that belongs to nobody if another
component is the first to own that id, making the ids distinct leaves each with an id of its own. -/
theorem exists_distinctIds {orphans : List PlacedScene}
    (horphans : ∀ p ∈ orphans, IsUnowned p.scene) :
    ∃ live' orphans', distinctIds (components.map live ++ orphans) =
        components.map live' ++ orphans' ∧
      (∀ c ∈ components, (live c).SameButId (live' c) ∧
        c.HasOwnId components (live' c).scene) ∧
      List.Forall₂ PlacedScene.SameButId orphans orphans' ∧
      ∀ q ∈ orphans', IsUnowned q.scene := by
  have hsame := forall₂_numbered_distinctIds (components.map live ++ orphans)
  have hlength := hsame.length_eq
  rw [List.length_append, List.length_map] at hlength
  -- what stands behind the scenes of the components are the others, renumbered
  have hothers := List.forall₂_drop components.length hsame
  rw [List.drop_left' (List.length_map ..)] at hothers
  refine ⟨fun c =>
      ((distinctIds (components.map live ++ orphans))[components.idxOf c]?).getD (live c),
    (distinctIds (components.map live ++ orphans)).drop components.length, ?_, ?_, ?_, ?_⟩
  · -- the first scenes of the list are those of the components
    refine (List.take_append_drop components.length _).symm.trans (congrArg (· ++ _) ?_)
    refine List.ext_getElem (by simp; omega) fun i hi hi' => ?_
    have hlt : i < components.length := by simpa using hi'
    have hlt' : i < (distinctIds (components.map live ++ orphans)).length := by omega
    rw [List.getElem_take, List.getElem_map, hnodup.idxOf_getElem i hlt,
      List.getElem?_eq_getElem hlt', Option.getD_some]
  · intro c hc
    obtain ⟨q, hq, hown⟩ := exists_hasOwnId_distinctIds hnodup hlive orphans hc
    simp only [hq, Option.getD_some]
    exact hown
  · exact hothers.imp fun _ _ h => h.1
  · intro q hq
    obtain ⟨p, hp, -, hid | ⟨n, hid⟩⟩ := exists_of_mem_forall₂ hothers hq
    · exact (isUnowned_congr hid).2 (horphans p hp)
    · exact fun c' => not_ownsId_of_numberedId hid

end

end SceneBoard
