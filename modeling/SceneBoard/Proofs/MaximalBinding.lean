import Mathlib.Data.List.Nodup
import SceneBoard.Proofs.Bookkeeping

/-!
# Bindings that leave nothing to be wished

Components take scenes greedily, in two rounds, and each takes the first one that is free. Still no
component goes without a scene while one that it wants is left over, a scene that a component gets
by its name is not one that another component wants by its id, and a scene is superseded only if its
component has another one. All three come from what one round leaves: a component that is unbound
behind it wants only scenes that are taken (`mem_of_mem_bindRound_of_none`).

## Key results

- `mem_of_mem_bindRound_of_none`: what a round leaves to a component that it does not bind
- `reconcile_isMaximal`: the three promises for every plan
-/

namespace SceneBoard.Plan

/-! ## One round -/

section

variable {scenes : List Scene} {taken : List Nat} {wants : Component → Scene → Bool}
  {bs : List Binding} {b : Binding} {c : Component} {i : Nat} {s : Scene}

/-- If no scene is found, all that are wanted are taken. -/
theorem mem_of_firstFree_eq_none {wanted : Scene → Bool} (h : firstFree scenes taken wanted = none)
    (hs : scenes[i]? = some s) (hwanted : wanted s) : i ∈ taken := by
  rw [firstFree, Option.map_eq_none_iff, List.find?_eq_none] at h
  have hnot := h (s, i) (List.mk_mem_zipIdx_iff_getElem?.2 hs)
  simpa [hwanted] using hnot

/-- Who is bound stays bound, to the same scene. -/
theorem mem_bindRound_of_mem (h : ⟨c, some i⟩ ∈ bs) : ⟨c, some i⟩ ∈ bindRound scenes wants taken bs := by
  induction bs generalizing taken with
  | nil => simp at h
  | cons a bs ih =>
    obtain ⟨a', taken', hstep, hround⟩ := exists_bindStep scenes wants taken a
    -- the first binding is not changed, a later one is found by induction
    rw [hround]
    rcases List.mem_cons.1 h with rfl | h
    · cases hstep
      exact List.mem_cons_self
    · exact List.mem_cons_of_mem _ (ih h)

/-- What a component that is left without a scene wants was taken before the round, or another
component has it. -/
theorem mem_of_mem_bindRound_of_none (h : ⟨c, none⟩ ∈ bindRound scenes wants taken bs)
    (hs : scenes[i]? = some s) (hwants : wants c s) :
    i ∈ taken ∨ i ∈ boundScenes (bindRound scenes wants taken bs) := by
  induction bs generalizing taken with
  | nil => simp [bindRound] at h
  | cons a bs ih =>
    obtain ⟨a', taken', hstep, hround⟩ := exists_bindStep scenes wants taken a
    rw [hround] at h
    rw [hround, boundScenes_cons]
    -- when the first one misses a scene it was taken, or taken since
    rcases List.mem_cons.1 h with rfl | h
    · cases hstep with
      | missed hmissed => exact .inl (mem_of_firstFree_eq_none hmissed hs hwants)
    · rcases ih h with hi | hi
      · exact (hstep.mem_taken hi).imp_right (List.mem_append_left _)
      · exact .inr (List.mem_append_right _ hi)

end

/-! ## Both rounds -/

section

variable {components : List Component} {scenes : List Scene} {c c' : Component} {i : Nat} {s : Scene}

/-- A scene is bound if some component has it. -/
theorem mem_boundScenes {bs : List Binding} : i ∈ boundScenes bs ↔ ∃ c, ⟨c, some i⟩ ∈ bs := by
  rw [boundScenes, List.mem_filterMap]
  constructor
  · rintro ⟨⟨c, o⟩, hb, rfl⟩
    exact ⟨c, hb⟩
  · rintro ⟨c, hb⟩
    exact ⟨_, hb, rfl⟩

/-- Every component has a binding, with a scene or without. -/
theorem exists_mem_of_map_component {bs : List Binding}
    (h : bs.map (·.component) = components) (hc : c ∈ components) : ∃ o, ⟨c, o⟩ ∈ bs := by
  rw [← h] at hc
  obtain ⟨b, hb, rfl⟩ := List.mem_map.1 hc
  exact ⟨b.scene, hb⟩

/-- The second round takes nothing away. -/
theorem mem_bind_of_mem_bindById (h : ⟨c, some i⟩ ∈ bindById components scenes) :
    ⟨c, some i⟩ ∈ bind components scenes :=
  mem_bindRound_of_mem h

/-- What is bound by id stays bound. -/
private theorem boundScenes_bindById_subset :
    boundScenes (bindById components scenes) ⊆ boundScenes (bind components scenes) := by
  intro i hi
  obtain ⟨c, hc⟩ := mem_boundScenes.1 hi
  exact mem_boundScenes.2 ⟨c, mem_bind_of_mem_bindById hc⟩

/-- A scene that a component wants by its id is bound by its id, or the component has another one.
-/
private theorem exists_mem_bindById (hc : c ∈ components) (hs : scenes[i]? = some s)
    (howns : ownsId c s) (hi : i ∉ boundScenes (bindById components scenes)) :
    ∃ j t, ⟨c, some j⟩ ∈ bindById components scenes ∧ j ≠ i ∧ scenes[j]? = some t ∧ ownsId c t := by
  obtain ⟨o, ho⟩ := exists_mem_of_map_component (map_component_bindById components scenes) hc
  -- if it got no scene, this one was taken by another
  cases o with
  | none =>
    rcases mem_of_mem_bindRound_of_none ho hs howns with h | h
    · simp at h
    · exact absurd h hi
  | some j =>
    rcases mem_bindRound ho with h | ⟨-, j', t, hj, -, ht, howns'⟩
    · simp at h
    · obtain rfl : j = j' := Option.some.inj hj
      refine ⟨j, t, ho, ?_, ht, howns'⟩
      rintro rfl
      exact hi (mem_boundScenes.2 ⟨c, ho⟩)

/-- A component without a scene wants no scene that is left over. -/
theorem not_wanted_of_mem_bind (h : ⟨c, none⟩ ∈ bind components scenes) (hs : scenes[i]? = some s)
    (hi : i ∉ boundScenes (bind components scenes)) : ¬ ownsId c s ∧ ¬ showsName c s := by
  -- it had none after the first round either
  have hfirst : ⟨c, none⟩ ∈ bindById components scenes := by
    rcases mem_bindRound h with h | ⟨-, _, _, h, -⟩
    · exact h
    · simp at h
  constructor
  · intro howns
    rcases mem_of_mem_bindRound_of_none hfirst hs howns with h | h
    · simp at h
    · exact hi (boundScenes_bindById_subset h)
  · intro hshows
    rcases mem_of_mem_bindRound_of_none h hs hshows with h | h
    · exact hi (boundScenes_bindById_subset h)
    · exact hi h

end

/-! ## What a plan promises -/

/-- A component has the scene at a position. -/
def Has (components : List Component) (scenes : List Scene) (c : Component) (i : Nat) (s : Scene) :
    Prop :=
  ⟨c, some i⟩ ∈ bind components scenes ∧ scenes[i]? = some s

/-- The scene at a position is left over: no component has it. -/
def IsLeftOver (components : List Component) (scenes : List Scene) (i : Nat) (s : Scene) : Prop :=
  i ∉ boundScenes (bind components scenes) ∧ scenes[i]? = some s

/-- No component goes without a scene needlessly, and none takes the scene of another one. -/
structure IsMaximal (components : List Component) (scenes : List Scene) (plan : Plan) : Prop where
  /-- What a component has it keeps. -/
  kept : ∀ c i s, Has components scenes c i s → ∃ k ∈ plan.kept, IsKeptFrom c s k
  /-- A component that is pending wants no scene that is left over. -/
  pending : ∀ c ∈ components, c.name ∈ plan.pending →
    ∀ i s, IsLeftOver components scenes i s → ¬ ownsId c s ∧ ¬ showsName c s
  /-- Whoever owns the id of a scene that a component has by its name has another scene of that id.
  -/
  byName : ∀ c i s, Has components scenes c i s → i ∉ boundScenes (bindById components scenes) →
    ∀ c' ∈ components, ownsId c' s →
      ∃ j t, Has components scenes c' j t ∧ j ≠ i ∧ ownsId c' t
  /-- The component that a superseded scene shows has another scene. -/
  superseded : ∃ positions : List Nat, positions.Pairwise (· < ·) ∧
    List.Forall₂ (fun i id => ∃ s, IsLeftOver components scenes i s ∧ s.id = id ∧
      ∃ c ∈ components, s.component = some c.name ∧
        ∃ j t, Has components scenes c j t ∧ j ≠ i) positions plan.superseded

section

variable {components : List Component} {prior : Storyboard} {options : ReconcileOptions}
  {c : Component} {i : Nat} {s : Scene}

/-- A scene that is bound exists. -/
theorem exists_has (h : ⟨c, some i⟩ ∈ bind components prior.scenes) :
    ∃ s, Has components prior.scenes c i s := by
  obtain ⟨-, s, hs, -⟩ := exists_of_mem_bind h rfl
  exact ⟨s, h, hs⟩

/-- What a component has is kept. -/
private theorem exists_mem_kept (hpreserve : options.preserveExisting)
    (h : Has components prior.scenes c i s) :
    ∃ k ∈ (reconcile components prior options).kept, IsKeptFrom c s k := by
  simp only [reconcile, hpreserve, if_true]
  exact ⟨_, List.mem_filterMap.2 ⟨_, h.1, by rw [Option.bind_some, h.2, Option.map_some]⟩, rfl, _, rfl⟩

/-- A component that is pending has no scene. -/
theorem mem_bind_of_mem_pending (hnames : (components.map (·.name)).Nodup)
    (hpreserve : options.preserveExisting) (hc : c ∈ components)
    (h : c.name ∈ (reconcile components prior options).pending) :
    ⟨c, none⟩ ∈ bind components prior.scenes := by
  simp only [reconcile, hpreserve, if_true] at h
  obtain ⟨⟨c', o⟩, hb, hname⟩ := List.mem_map.1 h
  obtain ⟨hb, ho⟩ := List.mem_filter.1 hb
  obtain rfl : o = none := Option.isNone_iff_eq_none.1 ho
  have hc' : c' ∈ components := by
    rw [← map_component_bind components prior.scenes]
    exact List.mem_map.2 ⟨_, hb, rfl⟩
  rwa [← List.inj_on_of_nodup_map hnames hc' hc hname]

/-- The component that a scene shows has another scene if that one is left over. -/
private theorem exists_has_of_isLeftOver (hc : c ∈ components) (hshows : s.component = some c.name)
    (h : IsLeftOver components prior.scenes i s) :
    ∃ j t, Has components prior.scenes c j t ∧ j ≠ i := by
  obtain ⟨o, ho⟩ := exists_mem_of_map_component (map_component_bind components prior.scenes) hc
  cases o with
  -- it would want the scene that is left over
  | none =>
    refine absurd ?_ (not_wanted_of_mem_bind ho h.2 h.1).2
    rw [showsName, hshows, beq_self_eq_true]
  | some j =>
    obtain ⟨t, ht⟩ := exists_has ho
    refine ⟨j, t, ht, ?_⟩
    rintro rfl
    exact h.1 (mem_boundScenes.2 ⟨c, ho⟩)

end

/-- Every plan binds as much as it can, and it steals nothing: whatever ids and names the scenes of
before have, a pending component wants none of those that are left over, a scene that a component
gets by its name is missed by none that owns its id, and a scene is superseded only beside another
one of its component. -/
theorem reconcile_isMaximal (components : List Component) (prior : Storyboard)
    (options : ReconcileOptions) (hnames : (components.map (·.name)).Nodup)
    (hpreserve : options.preserveExisting) :
    IsMaximal components prior.scenes (reconcile components prior options) := by
  refine ⟨fun c i s h => exists_mem_kept hpreserve h, fun c hc hpending i s h => ?_,
    fun c i s h hi c' hc' howns => ?_, ?_⟩
  · exact not_wanted_of_mem_bind (mem_bind_of_mem_pending hnames hpreserve hc hpending) h.2 h.1
  · -- the scene was free in the first round, so its owner found one in that round
    obtain ⟨j, t, hj, hne, ht, howns'⟩ := exists_mem_bindById hc' h.2 howns hi
    exact ⟨j, t, ⟨mem_bind_of_mem_bindById hj, ht⟩, hne, howns'⟩
  · let taken := boundScenes (bind components prior.scenes)
    let live := components.map (·.name)
    refine ⟨freePositions prior.scenes taken (isSuperseded live options.prune),
      pairwise_freePositions, ?_⟩
    have hsuperseded : (reconcile components prior options).superseded =
        (((prior.scenes.zipIdx.filter fun s => !taken.contains s.2).map (·.1)).filter
          (isSuperseded live options.prune)).map (·.id) := by
      simp only [reconcile, hpreserve, if_true]
      rfl
    have hfree : ∀ i ∈ freePositions prior.scenes taken (isSuperseded live options.prune),
        i ∉ taken := fun i hi => (mem_freePositions_iff.1 hi).1
    rw [hsuperseded, List.forall₂_map_right_iff]
    refine ((List.forall₂_and_left _ _).2 ⟨hfree, forall₂_freePositions⟩).imp ?_
    rintro i s ⟨hi, hs, hlost⟩
    obtain ⟨name, hname, hlive⟩ := isSuperseded_iff.1 hlost
    obtain ⟨c, hc, rfl⟩ := List.mem_map.1 hlive
    exact ⟨s, ⟨hi, hs⟩, rfl, c, hc, hname, exists_has_of_isLeftOver hc hname ⟨hi, hs⟩⟩

/-- A note has a scene with the id of a badge by its name, as the badge has another one of that id;
and of two cards whose names differ in case only the first has the scene that shows the second. -/
theorem reconcile_isMaximal_cards :
    let component (name : String) : Component :=
      ⟨name, "components/" ++ name ++ ".tsx", .component, true, false, none⟩
    let scene (id name : String) : Scene := ⟨id, ⟨⟨9, 9⟩, 5, 40⟩, name, some name, ""⟩
    let components := [component "Note", component "Badge", component "Card", component "CARD"]
    let scenes := [scene "badge-scene" "Badge", scene "BADGE-scene" "Note", scene "mine" "Card",
      scene "card-scene" "CARD", scene "old" "Card"]
    let plan := reconcile components ⟨scenes, []⟩ {}
    plan.pending = ["CARD"] ∧ plan.superseded = ["mine", "old"] ∧
      IsMaximal components scenes plan := by
  intro component scene components scenes plan
  refine ⟨by decide +kernel, by decide +kernel, ?_⟩
  exact reconcile_isMaximal components ⟨scenes, []⟩ {} (by decide) rfl

end SceneBoard.Plan
