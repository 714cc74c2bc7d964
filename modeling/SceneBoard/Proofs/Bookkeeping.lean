import SceneBoard.Proofs.Binding

/-!
# The books of a reconciliation

A reconciliation sorts two lists. Every component keeps a scene or is pending, and every scene of
before is kept by one component or else retained, superseded or pruned. An `Account` holds the
positions of the scenes of each kind; `exists_account` says that every plan has an account that is
right, whatever the ids and the names are, so that no scene is lost and none counts twice.

## Key results

- `map_component_bind`: every component is bound once, in order
- `nodup_boundScenes_bind`: no scene is bound to two components
- `exists_account`: every plan has an account that is right
-/

namespace SceneBoard.Plan

/-! ## Bindings -/

section

variable {scenes : List Scene} {taken : List Nat} {wants : Component → Scene → Bool}

/-- A round keeps the components. -/
private theorem map_component_bindRound (bs : List Binding) :
    (bindRound scenes wants taken bs).map (·.component) = bs.map (·.component) := by
  induction bs generalizing taken with
  | nil => rfl
  | cons b bs ih =>
    obtain ⟨b', taken', hstep, hround⟩ := exists_bindStep scenes wants taken b
    rw [hround, List.map_cons, List.map_cons, hstep.component, ih]

/-- The first round is over all components. -/
theorem map_component_bindById (components : List Component) (scenes : List Scene) :
    (bindById components scenes).map (·.component) = components := by
  rw [bindById, map_component_bindRound, List.map_map]
  exact List.map_id _

/-- Bindings keep the components in their order. -/
theorem map_component_bind (components : List Component) (scenes : List Scene) :
    (bind components scenes).map (·.component) = components := by
  rw [bind, map_component_bindRound, map_component_bindById]

/-- The scenes bound, binding by binding. -/
theorem boundScenes_cons (b : Binding) (bs : List Binding) :
    boundScenes (b :: bs) = b.scene.toList ++ boundScenes bs := by
  rw [boundScenes, List.filterMap_cons]
  cases b.scene <;> rfl

/-- A round that knows which scenes are taken binds none of them a second time: the scenes bound in
the end were bound before or were free. -/
private theorem nodup_boundScenes_bindRound {bs : List Binding} (hbs : (boundScenes bs).Nodup)
    (htaken : boundScenes bs ⊆ taken) :
    (boundScenes (bindRound scenes wants taken bs)).Nodup ∧
      ∀ i ∈ boundScenes (bindRound scenes wants taken bs), i ∈ boundScenes bs ∨ i ∉ taken := by
  induction bs generalizing taken with
  | nil => exact ⟨.nil, fun i hi => .inl hi⟩
  | cons b bs ih =>
    obtain ⟨b', taken', hstep, hround⟩ := exists_bindStep scenes wants taken b
    rw [boundScenes_cons] at hbs htaken
    rw [hround, boundScenes_cons, boundScenes_cons]
    cases hstep with
    -- bound before: the position is one of those taken
    | bound c i =>
      obtain ⟨hi, hbs⟩ := List.nodup_cons.1 hbs
      obtain ⟨hit, htaken⟩ := List.cons_subset.1 htaken
      obtain ⟨hnodup, hlater⟩ := ih hbs htaken
      constructor
      · -- a later component has it only if it had it before, and it did not
        exact List.nodup_cons.2 ⟨fun h => (hlater i h).elim hi fun hfree => hfree hit, hnodup⟩
      · intro j hj
        rcases List.mem_cons.1 hj with rfl | hj
        · exact .inl List.mem_cons_self
        · exact (hlater j hj).imp_left (List.mem_cons_of_mem _)
    | @found c i hfound =>
      obtain ⟨hi, -⟩ := exists_of_firstFree hfound
      obtain ⟨hnodup, hlater⟩ := @ih (i :: taken) hbs (List.subset_cons_of_subset i htaken)
      constructor
      · -- it was free, so nobody had it, and it is taken for those behind
        apply List.nodup_cons.2 ⟨fun h => ?_, hnodup⟩
        rcases hlater i h with hbound | hout
        · exact hi (htaken hbound)
        · exact hout List.mem_cons_self
      · intro j hj
        rcases List.mem_cons.1 hj with rfl | hj
        · exact .inr hi
        · exact (hlater j hj).imp_right fun hout h => hout (List.mem_cons_of_mem i h)
    | missed => exact ih hbs htaken

/-- No scene is bound to two components. -/
theorem nodup_boundScenes_bind (components : List Component) (scenes : List Scene) :
    (boundScenes (bind components scenes)).Nodup := by
  -- before the first round no position is bound
  have hnone : boundScenes (components.map fun c => ⟨c, none⟩) = [] := by
    rw [boundScenes, List.filterMap_map]
    exact List.filterMap_none _
  have hfirst : (boundScenes (bindById components scenes)).Nodup := by
    apply (nodup_boundScenes_bindRound _ _).1 <;> rw [hnone]
    · exact .nil
    · exact List.nil_subset _
  exact (nodup_boundScenes_bindRound hfirst (List.Subset.refl _)).1

/-- Bound scenes are scenes of the storyboard. -/
theorem lt_of_mem_boundScenes_bind {components : List Component} {i : Nat}
    (h : i ∈ boundScenes (bind components scenes)) : i < scenes.length := by
  obtain ⟨b, hb, hi⟩ := List.mem_filterMap.1 h
  obtain ⟨-, s, hs, -⟩ := exists_of_mem_bind hb hi
  exact (List.getElem?_eq_some_iff.1 hs).1

end

/-! ## Free scenes -/

/-- The positions of the scenes that are not taken and satisfy a condition. -/
def freePositions (scenes : List Scene) (taken : List Nat) (wanted : Scene → Bool) : List Nat :=
  ((scenes.zipIdx.filter fun s => !taken.contains s.2).filter fun s => wanted s.1).map (·.2)

section

variable {scenes : List Scene} {taken : List Nat} {wanted : Scene → Bool}

/-- A position is free if it is not taken and its scene is wanted. -/
theorem mem_freePositions_iff {i : Nat} : i ∈ freePositions scenes taken wanted ↔
    i ∉ taken ∧ ∃ s, scenes[i]? = some s ∧ wanted s := by
  simp only [freePositions, List.mem_map, List.mem_filter, Prod.exists, exists_eq_right,
    List.mk_mem_zipIdx_iff_getElem?, Bool.not_eq_true', List.contains_eq_mem,
    decide_eq_false_iff_not]
  constructor
  · rintro ⟨s, ⟨hs, hfree⟩, hwanted⟩
    exact ⟨hfree, s, hs, hwanted⟩
  · rintro ⟨hfree, s, hs, hwanted⟩
    exact ⟨s, ⟨hs, hfree⟩, hwanted⟩

/-- Free positions ascend. -/
theorem pairwise_freePositions : (freePositions scenes taken wanted).Pairwise (· < ·) := by
  have hrange : (scenes.zipIdx.map (·.2)).Pairwise (· < ·) := by
    rw [List.zipIdx_map_snd]
    exact List.pairwise_lt_range'
  exact List.Pairwise.sublist ((List.filter_sublist.trans List.filter_sublist).map _) hrange

theorem nodup_freePositions : (freePositions scenes taken wanted).Nodup :=
  pairwise_freePositions.imp fun h => Nat.ne_of_lt h

/-- None of them is taken. -/
theorem disjoint_freePositions : taken.Disjoint (freePositions scenes taken wanted) :=
  fun _ hi hfree => (mem_freePositions_iff.1 hfree).1 hi

/-- Conditions that exclude each other have no positions in common. -/
theorem disjoint_freePositions_of_not {other : Scene → Bool} (h : ∀ s, wanted s → ¬ other s) :
    (freePositions scenes taken wanted).Disjoint (freePositions scenes taken other) := by
  intro i hi hi'
  obtain ⟨-, s, hs, hwanted⟩ := mem_freePositions_iff.1 hi
  obtain ⟨-, s', hs', hother⟩ := mem_freePositions_iff.1 hi'
  obtain rfl : s = s' := Option.some.inj (hs.symm.trans hs')
  exact h s hwanted hother

/-- The scenes at the positions, one by one. -/
theorem forall₂_freePositions : List.Forall₂ (fun i s => scenes[i]? = some s ∧ wanted s)
    (freePositions scenes taken wanted)
    (((scenes.zipIdx.filter fun s => !taken.contains s.2).map (·.1)).filter wanted) := by
  rw [freePositions, List.filter_map, List.forall₂_map_left_iff, List.forall₂_map_right_iff]
  apply List.forall₂_same.2
  rintro ⟨s, i⟩ h
  obtain ⟨h, hwanted⟩ := List.mem_filter.1 h
  exact ⟨List.mk_mem_zipIdx_iff_getElem?.1 (List.mem_filter.1 h).1, hwanted⟩

end

/-! ## The account of a plan -/

/-- Which scene each component keeps, and the positions of the scenes that no component keeps,
sorted by what becomes of them. -/
structure Account where
  bindings : List Binding
  retained : List Nat
  superseded : List Nat
  pruned : List Nat

/-- A scene as a component keeps it: it shows the component, and at most its id is another. -/
def IsKeptFrom (c : Component) (s : Scene) (k : BoundScene) : Prop :=
  k.component = c.name ∧ ∃ id, k.scene = { s with id, component := some c.name }

/-- A component keeps a scene of before, which then shows it, under some id. -/
theorem exists_isKeptFrom_of_mem_kept {components : List Component} {prior : Storyboard}
    {options : ReconcileOptions} {b : BoundScene}
    (h : b ∈ (reconcile components prior options).kept) :
    ∃ c ∈ components, ∃ s ∈ prior.scenes, IsKeptFrom c s b := by
  simp only [reconcile, List.mem_filterMap, Option.map_eq_some_iff, Option.bind_eq_some_iff] at h
  obtain ⟨b', hb', s, ⟨i, hi, hs⟩, rfl⟩ := h
  obtain ⟨hc, -⟩ := exists_of_mem_bind hb' hi
  exact ⟨b'.component, hc, s, preserved_sublist.subset (List.mem_of_getElem? hs), rfl, _, rfl⟩

/-- The account is right: it has every component and every scene once, and it says of a plan what
the lists of the plan hold. -/
structure Account.IsRight (a : Account) (components : List Component) (scenes : List Scene)
    (prune : Bool) (plan : Plan) : Prop where
  every_component : a.bindings.map (·.component) = components
  every_scene : (boundScenes a.bindings ++ a.retained ++ a.superseded ++ a.pruned).Perm
    (List.range scenes.length)
  ascending : a.retained.Pairwise (· < ·) ∧ a.superseded.Pairwise (· < ·) ∧ a.pruned.Pairwise (· < ·)
  kept : List.Forall₂ (fun b k => ∃ i s, b.scene = some i ∧ scenes[i]? = some s ∧
    IsKeptFrom b.component s k) (a.bindings.filter (·.scene.isSome)) plan.kept
  pending : plan.pending = (a.bindings.filter (·.scene.isNone)).map (·.component.name)
  retained : List.Forall₂ (fun i s => scenes[i]? = some s) a.retained plan.retained
  superseded : List.Forall₂ (fun i id => ∃ s, scenes[i]? = some s ∧ s.id = id) a.superseded
    plan.superseded
  pruned : List.Forall₂ (fun i x => ∃ s, scenes[i]? = some s ∧ s.id = x.id ∧
    s.component = some x.component) a.pruned plan.pruned
  mem_retained : ∀ i s, scenes[i]? = some s → (i ∈ a.retained ↔ i ∉ boundScenes a.bindings ∧
    (s.component = none ∨
      ∃ name, s.component = some name ∧ name ∉ components.map (·.name) ∧ prune = false))
  mem_superseded : ∀ i s, scenes[i]? = some s → (i ∈ a.superseded ↔ i ∉ boundScenes a.bindings ∧
    ∃ name, s.component = some name ∧ name ∈ components.map (·.name))
  mem_pruned : ∀ i s, scenes[i]? = some s → (i ∈ a.pruned ↔ i ∉ boundScenes a.bindings ∧
    ∃ name, s.component = some name ∧ name ∉ components.map (·.name) ∧ prune = true)

/-! ### What becomes of a scene -/

section

variable {live : List String} {prune : Bool} {s : Scene}

/-- The scene stays though no component keeps it. -/
def isRetained (live : List String) (prune : Bool) (s : Scene) : Bool :=
  fate live prune s matches .retained

/-- The component that the scene shows has another scene. -/
def isSuperseded (live : List String) (prune : Bool) (s : Scene) : Bool :=
  fate live prune s matches .superseded

/-- The component that the scene shows is gone, and the scene goes with it. -/
def isPruned (live : List String) (prune : Bool) (s : Scene) : Bool :=
  fate live prune s matches .pruned _

/-- A scene is retained if it shows nothing known, or if pruning is off and it shows no live
component. -/
theorem isRetained_iff : isRetained live prune s ↔ s.component = none ∨
    ∃ name, s.component = some name ∧ name ∉ live ∧ prune = false := by
  unfold isRetained fate
  cases s.component with
  | none => simp
  | some name => by_cases h : name ∈ live <;> cases prune <;> simp [h]

/-- A scene is superseded if it shows a live component. -/
theorem isSuperseded_iff :
    isSuperseded live prune s ↔ ∃ name, s.component = some name ∧ name ∈ live := by
  unfold isSuperseded fate
  cases s.component with
  | none => simp
  | some name => by_cases h : name ∈ live <;> cases prune <;> simp [h]

/-- A scene is pruned if it shows a known component that is not live. -/
theorem isPruned_iff : isPruned live prune s ↔
    ∃ name, s.component = some name ∧ name ∉ live ∧ prune = true := by
  unfold isPruned fate
  cases s.component with
  | none => simp
  | some name => by_cases h : name ∈ live <;> cases prune <;> simp [h]

/-- One of the three becomes of every scene that no component keeps. -/
theorem isRetained_or_isSuperseded_or_isPruned (live : List String) (prune : Bool) (s : Scene) :
    isRetained live prune s ∨ isSuperseded live prune s ∨ isPruned live prune s := by
  rw [isRetained, isSuperseded, isPruned]
  cases fate live prune s <;> simp

/-- No two of them do. -/
theorem fates_exclude (live : List String) (prune : Bool) (s : Scene) :
    (isRetained live prune s → ¬ isSuperseded live prune s) ∧
      (isRetained live prune s → ¬ isPruned live prune s) ∧
      (isSuperseded live prune s → ¬ isPruned live prune s) := by
  rw [isRetained, isSuperseded, isPruned]
  cases fate live prune s <;> simp

end

/-! ### Every plan has an account -/

section

variable {components : List Component} {scenes : List Scene} {live : List String} {prune : Bool}

/-- The positions of an account have every scene once: a position is bound or free, and a free one
is of one kind only. -/
private theorem perm_positions {taken : List Nat} (htaken : taken.Nodup)
    (hlt : ∀ i ∈ taken, i < scenes.length) :
    (taken ++ freePositions scenes taken (isRetained live prune) ++
      freePositions scenes taken (isSuperseded live prune) ++
      freePositions scenes taken (isPruned live prune)).Perm (List.range scenes.length) := by
  apply (List.perm_ext_iff_of_nodup ?_ List.nodup_range).2
  · -- a position is taken, or what stands there has one of the three fates
    intro i
    -- free or not, it is the position of a scene
    simp only [List.mem_append, mem_freePositions_iff, List.mem_range]
    constructor
    · rintro (((hi | ⟨-, s, hs, -⟩) | ⟨-, s, hs, -⟩) | ⟨-, s, hs, -⟩)
      · exact hlt i hi
      all_goals exact (List.getElem?_eq_some_iff.1 hs).1
    · intro hi
      have hs : scenes[i]? = some scenes[i] := List.getElem?_eq_getElem hi
      by_cases htaken : i ∈ taken
      · exact .inl (.inl (.inl htaken))
      · rcases isRetained_or_isSuperseded_or_isPruned live prune scenes[i] with h | h | h
        · exact .inl (.inl (.inr ⟨htaken, _, hs, h⟩))
        · exact .inl (.inr ⟨htaken, _, hs, h⟩)
        · exact .inr ⟨htaken, _, hs, h⟩
  · -- the four parts have no position in common
    simp only [List.nodup_append', List.disjoint_append_left]
    exact ⟨⟨⟨htaken, nodup_freePositions, disjoint_freePositions⟩, nodup_freePositions,
      disjoint_freePositions,
        disjoint_freePositions_of_not fun s => (fates_exclude live prune s).1⟩,
      nodup_freePositions, ⟨disjoint_freePositions,
        disjoint_freePositions_of_not fun s => (fates_exclude live prune s).2.1⟩,
      disjoint_freePositions_of_not fun s => (fates_exclude live prune s).2.2⟩

/-- What a plan reports of the scenes that are pruned, one by one. -/
theorem forall₂_report (ss : List Scene) : List.Forall₂ (fun s (x : PrunedScene) => s.id = x.id ∧
      s.component = some x.component) (ss.filter (isPruned live prune)) (ss.filterMap fun s =>
        match fate live prune s with
        | .pruned component => some ⟨s.id, component⟩
        | _ => none) := by
  -- what is reported is what the scene shows
  have hreport {s : Scene} {component : String} (hs : fate live prune s = .pruned component) :
      s.component = some component := by
    unfold fate at hs
    cases hcomponent : s.component with
    | none => simp [hcomponent] at hs
    | some name => by_cases h : name ∈ live <;> cases prune <;> simp_all
  -- by induction on the scenes
  induction ss with
  | nil => exact .nil
  | cons s ss ih =>
    rw [List.filter_cons, List.filterMap_cons, isPruned]
    cases hfate : fate live prune s with
    | pruned component => exact .cons ⟨rfl, hreport hfate⟩ ih
    | retained => exact ih
    | superseded => exact ih

/-- The reports, with the positions of the scenes. -/
private theorem forall₂_pruned {unbound : List Scene} {is : List Nat}
    (h : List.Forall₂ (fun i s => scenes[i]? = some s ∧ isPruned live prune s) is
      (unbound.filter (isPruned live prune))) :
    List.Forall₂ (fun i (x : PrunedScene) => ∃ s, scenes[i]? = some s ∧ s.id = x.id ∧
      s.component = some x.component) is (unbound.filterMap fun s =>
        match fate live prune s with
        | .pruned component => some ⟨s.id, component⟩
        | _ => none) :=
  forall₂_trans h (forall₂_report unbound) fun _ s _ hs hx => ⟨s, hs.1, hx⟩

/-- What is kept are the scenes of the components that are bound, one by one. -/
private theorem forall₂_kept {owned : List String} {bs : List Binding}
    (hbs : ∀ b ∈ bs, ∀ i, b.scene = some i → i < scenes.length) :
    List.Forall₂ (fun b k => ∃ i s, b.scene = some i ∧ scenes[i]? = some s ∧
      IsKeptFrom b.component s k) (bs.filter (·.scene.isSome))
      (bs.filterMap fun b => (b.scene.bind (scenes[·]?)).map (keep owned b.component)) := by
  induction bs with
  | nil => exact .nil
  | cons b bs ih =>
    have htail := ih fun b' hb' => hbs b' (by simp [hb'])
    rw [List.filterMap_cons]
    cases hscene : b.scene with
    -- a component without a scene is not kept
    | none =>
      rw [List.filter_cons_of_neg (by simp [hscene])]
      exact htail
    | some i =>
      have hi := hbs b (by simp) i hscene
      rw [List.filter_cons_of_pos (by simp [hscene]), Option.bind_some, List.getElem?_eq_getElem hi]
      exact .cons ⟨i, scenes[i], hscene, List.getElem?_eq_getElem hi, rfl, _, rfl⟩ htail

end

/-- Every plan has an account that is right, whatever components there are and whatever scenes there
were: each component keeps a scene or is pending, and each scene is kept by one component, or is
retained, superseded or pruned, by what it shows. -/
theorem exists_account (components : List Component) (prior : Storyboard)
    (options : ReconcileOptions) (hpreserve : options.preserveExisting) :
    ∃ a : Account, a.IsRight components prior.scenes options.prune
      (reconcile components prior options) := by
  -- the positions that are bound, and those of each fate among the rest
  let taken := boundScenes (bind components prior.scenes)
  let live := components.map (·.name)
  refine ⟨⟨bind components prior.scenes,
    freePositions prior.scenes taken (isRetained live options.prune),
    freePositions prior.scenes taken (isSuperseded live options.prune),
    freePositions prior.scenes taken (isPruned live options.prune)⟩, ?_⟩
  -- whether a position is free is told by the account itself, the rest by the scene there
  have hmem {wanted : Scene → Bool} {i : Nat} {s : Scene} (hs : prior.scenes[i]? = some s) :
      i ∈ freePositions prior.scenes taken wanted ↔ i ∉ taken ∧ wanted s := by
    rw [mem_freePositions_iff, hs]
    simp
  have hlt : ∀ b ∈ bind components prior.scenes, ∀ i, b.scene = some i → i < prior.scenes.length :=
    fun b hb i hi => lt_of_mem_boundScenes_bind (List.mem_filterMap.2 ⟨b, hb, hi⟩)
  refine
    { every_component := map_component_bind components prior.scenes
      every_scene := perm_positions (nodup_boundScenes_bind components prior.scenes)
        fun i hi => lt_of_mem_boundScenes_bind hi
      ascending := ⟨pairwise_freePositions, pairwise_freePositions, pairwise_freePositions⟩
      kept := ?kept
      pending := ?pending
      retained := ?retained
      superseded := ?superseded
      pruned := ?pruned
      mem_retained := fun i s hs => (hmem hs).trans (and_congr_right fun _ => isRetained_iff)
      mem_superseded := fun i s hs => (hmem hs).trans (and_congr_right fun _ => isSuperseded_iff)
      mem_pruned := fun i s hs => (hmem hs).trans (and_congr_right fun _ => isPruned_iff) }
  -- the four lists are those of the plan, each with the scenes at its positions
  all_goals simp only [reconcile, hpreserve, if_true]
  case kept => exact forall₂_kept hlt
  case retained => exact forall₂_freePositions.imp fun i s h => h.1
  case superseded =>
    rw [List.forall₂_map_right_iff]
    exact forall₂_freePositions.imp fun i s h => ⟨s, h.1, rfl⟩
  case pruned => exact forall₂_pruned forall₂_freePositions

/-- Two cards whose names differ in case own one id; the scene of that id shows the second one, and
the scene of a badge that is gone stands behind. -/
theorem exists_account_cards :
    let card : Component := ⟨"Card", "components/Card.tsx", .component, true, false, none⟩
    let capital : Component := ⟨"CARD", "components/old/CARD.tsx", .folder "old", true, false, none⟩
    let scenes : List Scene :=
      [⟨"Card-Scene", ⟨⟨9, 9⟩, 5, 40⟩, "Mine", some "CARD", "<CARD />"⟩,
       ⟨"card-2", ⟨⟨9, 9⟩, 5, 50⟩, "Card", some "Card", "<Card />"⟩,
       ⟨"badge-scene", ⟨⟨9, 9⟩, 5, 60⟩, "Badge", some "Badge", "<Badge />"⟩]
    ∃ a : Account,
      a.IsRight [card, capital] scenes true (reconcile [card, capital] ⟨scenes, []⟩ {}) := by
  intro card capital scenes
  exact exists_account [card, capital] ⟨scenes, []⟩ {} rfl

end SceneBoard.Plan
