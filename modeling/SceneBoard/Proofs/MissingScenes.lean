import Mathlib.Data.List.Perm.Subperm
import SceneBoard.Proofs.Completeness
import SceneBoard.Proofs.MaximalBinding

/-!
# Components that are told as missing

A component is told as missing if no scene of before has the very id that it owns, and it is pending
if it gets none. The two differ in two ways. A component can get a scene with another id, one that
differs in the case of letters or one that shows the component: it is told as missing and keeps that
scene (`HasUnderOtherId`). And the scene with its id can go to a component before it that owns the
same id: then it is pending and is not told (`IsCrowdedOut`). Where neither happens the two lists are
the same.

## Key results

- `exists_before_of_mem_bind`: a component that gets no scene with its id comes too late for it
- `missing_eq_pending_iff`: when the two lists are the same
- `missing_generate`: the missing components against the pending ones
- `not_missing_eq_pending`: the lists can differ
-/

namespace SceneBoard

namespace Plan

/-! ## Who comes first -/

section

variable {components : List Component} {scenes : List Scene} {c : Component} {i : Nat} {s : Scene}

/-- A round goes through the bindings in their order: behind some of them, what is taken was taken
before the round or is bound by one of these. -/
private theorem exists_bindRound_append (scenes : List Scene) (wants : Component → Scene → Bool)
    (taken : List Nat) (bs bs' : List Binding) : ∃ taken', bindRound scenes wants taken (bs ++ bs') =
        bindRound scenes wants taken bs ++ bindRound scenes wants taken' bs' ∧
      ∀ i ∈ taken', i ∈ taken ∨ i ∈ boundScenes (bindRound scenes wants taken bs) := by
  -- by induction on the first bindings: what they take is taken, or bound by them
  induction bs generalizing taken with
  | nil => exact ⟨taken, rfl, fun i hi => .inl hi⟩
  | cons b bs ih =>
    obtain ⟨b', taken₁, hstep, hround⟩ := exists_bindStep scenes wants taken b
    obtain ⟨taken₂, heq, htaken⟩ := ih taken₁
    refine ⟨taken₂, by rw [List.cons_append, hround, hround, heq, List.cons_append], fun i hi => ?_⟩
    rw [hround, boundScenes_cons]
    rcases htaken i hi with hi | hi
    · exact (hstep.mem_taken hi).imp_right (List.mem_append_left _)
    · exact .inr (List.mem_append_right _ hi)

/-- A scene with the id of a component that gets none has gone to a component before it, which owns
the same id. -/
theorem exists_before_of_mem_bind {before after : List Component}
    (hcomponents : (before ++ c :: after).Nodup)
    (h : ⟨c, none⟩ ∈ bind (before ++ c :: after) scenes) (hs : scenes[i]? = some s)
    (howns : ownsId c s) :
    ∃ d ∈ before, d.sceneId = c.sceneId ∧ Has (before ++ c :: after) scenes d i s := by
  obtain ⟨taken, happend, htaken⟩ := exists_bindRound_append scenes ownsId []
    (before.map (⟨·, none⟩)) ((c :: after).map (⟨·, none⟩))
  have hround : bindById (before ++ c :: after) scenes = bindById before scenes ++
      bindRound scenes ownsId taken (⟨c, none⟩ :: after.map (⟨·, none⟩)) := by
    rw [bindById, List.map_append]
    exact happend
  -- the component has one binding only, so the one that the round gave it has no scene
  have hnone : firstFree scenes taken (ownsId c) = none := by
    have hfirst : ⟨c, none⟩ ∈ bindById (before ++ c :: after) scenes := by
      rcases mem_bindRound h with h | ⟨-, _, _, h, -⟩
      · exact h
      · simp at h
    cases hfound : firstFree scenes taken (ownsId c) with
    | none => rfl
    | some j =>
      have hj : ⟨c, some j⟩ ∈ bindById (before ++ c :: after) scenes := by
        rw [hround, bindRound]
        simp [hfound]
      have hbindings : ((bindById (before ++ c :: after) scenes).map (·.component)).Nodup := by
        rwa [map_component_bindById]
      have heq := List.inj_on_of_nodup_map hbindings hj hfirst rfl
      simp at heq
  -- the scene was taken by a component before this one
  have hbound : i ∈ boundScenes (bindById before scenes) := by
    rcases htaken i (mem_of_firstFree_eq_none hnone hs howns) with hi | hi
    · simp at hi
    · exact hi
  obtain ⟨d, hd⟩ := mem_boundScenes.1 hbound
  have hbefore : d ∈ before := by
    rw [← map_component_bindById before scenes]
    exact List.mem_map_of_mem hd
  have hhas : ⟨d, some i⟩ ∈ bind (before ++ c :: after) scenes :=
    mem_bind_of_mem_bindById (hround ▸ List.mem_append_left _ hd)
  refine ⟨d, hbefore, ?_, hhas, hs⟩
  -- it is wanted by both, so both have the same id
  rcases mem_bindRound hd with h | ⟨-, j, t, hj, -, ht, hown⟩
  · simp at h
  · obtain rfl : i = j := Option.some.inj hj
    obtain rfl : s = t := Option.some.inj (hs.symm.trans ht)
    exact sceneId_eq_of_ownsId hown howns

end

/-! ## Told and pending -/

/-- A component gets a scene of before though none has the very id that it owns. -/
def HasUnderOtherId (components : List Component) (scenes : List Scene) (c : Component) : Prop :=
  (∃ i s, Has components scenes c i s) ∧ ∀ s ∈ scenes, s.id ≠ c.sceneId

/-- A component gets no scene of before, as the one with its id goes to a component before it that
owns the same id. -/
def IsCrowdedOut (components : List Component) (scenes : List Scene) (c : Component) : Prop :=
  (∀ i s, ¬ Has components scenes c i s) ∧ ∃ before after, components = before ++ c :: after ∧
    ∃ d ∈ before, d.sceneId = c.sceneId ∧ ∃ i s, Has components scenes d i s ∧ s.id = c.sceneId

section

variable {components : List Component} {prior : Storyboard} {options : ReconcileOptions}
  {c : Component} (hnames : (components.map (·.name)).Nodup) (hc : c ∈ components)

include hnames hc

/-- A component is pending if it gets no scene. -/
theorem mem_pending_iff_not_has (hpreserve : options.preserveExisting) :
    c.name ∈ (reconcile components prior options).pending ↔
      ∀ i s, ¬ Has components prior.scenes c i s := by
  constructor
  · -- a component has one binding, with a scene or without
    intro hpending i s hhas
    have hnone := mem_bind_of_mem_pending hnames hpreserve hc hpending
    have hbindings : ((bind components prior.scenes).map (·.component)).Nodup := by
      rw [map_component_bind]
      exact .of_map _ hnames
    have heq := List.inj_on_of_nodup_map hbindings hnone hhas.1 rfl
    simp at heq
  · intro hnot
    obtain ⟨o, ho⟩ := exists_mem_of_map_component (map_component_bind components prior.scenes) hc
    cases o with
    | none =>
      simp only [reconcile, hpreserve, if_true]
      exact List.mem_map.2 ⟨_, List.mem_filter.2 ⟨ho, rfl⟩, rfl⟩
    | some i =>
      obtain ⟨s, hs⟩ := exists_has ho
      exact absurd hs (hnot i s)

/-- A component is told as missing if no scene has the very id that it owns. -/
theorem mem_missing_iff (hforce : options.forceRegenMissing) :
    c.name ∈ (reconcile components prior options).missing ↔ ∀ s ∈ prior.scenes, s.id ≠ c.sceneId := by
  simp only [reconcile, hforce, if_true, missingFrom, List.mem_map]
  constructor
  · rintro ⟨c', hc', hname⟩
    obtain ⟨hmem, hmissing⟩ := List.mem_filter.1 hc'
    obtain rfl := List.inj_on_of_nodup_map hnames hmem hc hname
    simpa [Storyboard.hasScene] using hmissing
  · intro hnone
    refine ⟨c, List.mem_filter.2 ⟨hc, ?_⟩, rfl⟩
    simpa [Storyboard.hasScene] using hnone

variable (hpreserve : options.preserveExisting) (hforce : options.forceRegenMissing)

include hpreserve hforce

/-- Told as missing and not pending is who has a scene under another id. -/
theorem mem_missing_and_not_mem_pending_iff :
    c.name ∈ (reconcile components prior options).missing ∧
        c.name ∉ (reconcile components prior options).pending ↔
      HasUnderOtherId components prior.scenes c := by
  rw [mem_missing_iff hnames hc hforce, mem_pending_iff_not_has hnames hc hpreserve, HasUnderOtherId,
    and_comm]
  simp

/-- Pending and not told as missing is who comes too late for the scene of its id. -/
theorem mem_pending_and_not_mem_missing_iff :
    c.name ∈ (reconcile components prior options).pending ∧
        c.name ∉ (reconcile components prior options).missing ↔
      IsCrowdedOut components prior.scenes c := by
  rw [mem_missing_iff hnames hc hforce, mem_pending_iff_not_has hnames hc hpreserve, IsCrowdedOut]
  refine and_congr_right fun hnot => ?_
  constructor
  · -- a scene has its id, and if the component does not have it another one does
    intro hfound
    obtain ⟨s, hs, hid⟩ : ∃ s ∈ prior.scenes, s.id = c.sceneId := by simpa using hfound
    obtain ⟨i, hi⟩ := List.mem_iff_getElem?.1 hs
    obtain ⟨before, after, rfl⟩ := List.append_of_mem hc
    obtain ⟨o, ho⟩ := exists_mem_of_map_component (map_component_bind _ prior.scenes) hc
    cases o with
    | none =>
      obtain ⟨d, hd, hsame, hhas⟩ :=
        exists_before_of_mem_bind (.of_map _ hnames) ho hi (ownsId_self hid)
      exact ⟨before, after, rfl, d, hd, hsame, i, s, hhas, hid⟩
    | some j =>
      obtain ⟨t, ht⟩ := exists_has ho
      exact absurd ht (hnot j t)
  · -- the scene that the other has is not missing
    rintro ⟨before, after, -, d, -, -, i, s, hhas, hid⟩ hnone
    exact hnone s (List.mem_of_getElem? hhas.2) hid

end

/-! ## The two lists -/

/-- A selection from a list of distinct names is told by its members. -/
private theorem eq_filter_of_sublist {names xs : List String} (hnames : names.Nodup)
    (h : xs.Sublist names) : xs = names.filter (· ∈ xs) := by
  have hsub : xs.Sublist (names.filter (· ∈ xs)) := by
    have hfilter := h.filter (· ∈ xs)
    rwa [List.filter_eq_self.2 fun name hname => decide_eq_true hname] at hfilter
  apply hsub.eq_of_length_le
  have hmem : names.filter (· ∈ xs) ⊆ xs :=
    fun name hname => of_decide_eq_true (List.mem_filter.1 hname).2
  exact (List.subperm_of_subset (hnames.filter _) hmem).length_le

section

variable {components : List Component} {prior : Storyboard} {options : ReconcileOptions}
  {scenes : List Scene} {c : Component}

/-- The missing components are some of all, in their order. -/
theorem missing_sublist (hforce : options.forceRegenMissing) :
    (reconcile components prior options).missing.Sublist (components.map (·.name)) := by
  simp only [reconcile, hforce, if_true]
  exact List.filter_sublist.map _

/-- So are the pending ones. -/
theorem pending_sublist (hnames : (components.map (·.name)).Nodup) :
    (reconcile components prior options).pending.Sublist (components.map (·.name)) := by
  obtain ⟨f, hf⟩ := @exists_isSplitBy components prior options (.of_map _ hnames)
  rw [hf.pending]
  exact List.filter_sublist.map _

/-- Who is not pending is kept. -/
theorem Covers.mem_kept_iff {plan : Plan} (h : plan.Covers components)
    (hnames : (components.map (·.name)).Nodup) (hc : c ∈ components) :
    c.name ∈ plan.kept.map (·.component) ↔ c.name ∉ plan.pending := by
  have hmem := List.mem_append.1 (h.symm.subset (List.mem_map_of_mem hc))
  have hapart := (List.nodup_append.1 (h.nodup hnames)).2.2
  exact ⟨fun hk hp => hapart _ hk _ hp rfl, hmem.resolve_right⟩

/-- The two lists are the same if no component is in one of them only. -/
theorem missing_eq_pending_iff (hnames : (components.map (·.name)).Nodup)
    (hpreserve : options.preserveExisting) (hforce : options.forceRegenMissing) :
    (reconcile components prior options).missing = (reconcile components prior options).pending ↔
      ∀ c ∈ components, ¬ HasUnderOtherId components prior.scenes c ∧
        ¬ IsCrowdedOut components prior.scenes c := by
  constructor
  · -- a component in one list only would tell the lists apart
    intro heq c hc
    rw [← mem_missing_and_not_mem_pending_iff hnames hc hpreserve hforce,
      ← mem_pending_and_not_mem_missing_iff hnames hc hpreserve hforce, heq]
    exact ⟨fun h => h.2 h.1, fun h => h.2 h.1⟩
  · -- both are filters of the names, and no name passes only one of them
    intro hnot
    have hmissing : (reconcile components prior options).missing.Sublist
        (components.map (·.name)) := missing_sublist hforce
    rw [eq_filter_of_sublist hnames hmissing, eq_filter_of_sublist hnames (pending_sublist hnames)]
    refine List.filter_congr fun name hname => ?_
    obtain ⟨c, hc, rfl⟩ := List.mem_map.1 hname
    obtain ⟨htold, hlate⟩ := hnot c hc
    rw [← mem_missing_and_not_mem_pending_iff hnames hc hpreserve hforce] at htold
    rw [← mem_pending_and_not_mem_missing_iff hnames hc hpreserve hforce] at hlate
    rw [decide_eq_decide]
    exact ⟨fun hm => by_contra fun hp => htold ⟨hm, hp⟩,
      fun hp => by_contra fun hm => hlate ⟨hp, hm⟩⟩

/-- No component has a scene under another id, if all scenes that it can get have its id. -/
theorem not_hasUnderOtherId
    (h : ∀ s ∈ scenes, ownsId c s ∨ showsName c s → s.id = c.sceneId) :
    ¬ HasUnderOtherId components scenes c := by
  rintro ⟨⟨i, s, hhas⟩, hnone⟩
  obtain ⟨-, t, ht, hwants⟩ := exists_of_mem_bind hhas.1 rfl
  have hmem := List.mem_of_getElem? ht
  exact hnone t hmem (h t hmem hwants)

/-- No component comes too late, if no two own the same id. -/
theorem not_isCrowdedOut (hids : (components.map (·.sceneId)).Nodup) :
    ¬ IsCrowdedOut components scenes c := by
  rintro ⟨-, before, after, rfl, d, hd, hsame, -⟩
  rw [List.map_append, List.map_cons] at hids
  exact (List.nodup_append.1 hids).2.2 _ (List.mem_map_of_mem hd) _ (by simp) hsame

end

end Plan

open Plan

/-- The components that a reconciliation tells as missing and those that are pending are both in the
order of the components. A component that is told and keeps a scene has it under another id; one
that is pending and not told comes too late for the scene of its id; and the two lists are the same
exactly if there is neither. In particular they are the same if no two components own the same id,
and every scene that has the id of a component, in whatever case, or shows it has that very id. -/
theorem missing_generate (components : List Component) (previous : Option String)
    (options : ReconcileOptions) (settings : LayoutSettings) (importPrefix : String)
    (hnames : (components.map (·.name)).Nodup) (hpreserve : options.preserveExisting)
    (hforce : options.forceRegenMissing) :
    let plan := (generate components previous options settings importPrefix).plan
    let scenes := (Storyboard.ofPrevious previous).scenes
    (plan.missing.Sublist (components.map (·.name)) ∧
      plan.pending.Sublist (components.map (·.name))) ∧
    (∀ c ∈ components,
      (c.name ∈ plan.missing ∧ c.name ∈ plan.kept.map (·.component) ↔
        HasUnderOtherId components scenes c) ∧
      (c.name ∈ plan.pending ∧ c.name ∉ plan.missing ↔ IsCrowdedOut components scenes c)) ∧
    (plan.missing = plan.pending ↔ ∀ c ∈ components,
      ¬ HasUnderOtherId components scenes c ∧ ¬ IsCrowdedOut components scenes c) ∧
    ((components.map (·.sceneId)).Nodup → (∀ c ∈ components, ∀ s ∈ scenes,
      ownsId c s ∨ showsName c s → s.id = c.sceneId) → plan.missing = plan.pending) := by
  intro plan scenes
  have hcovers : plan.Covers components := covers_reconcile hnames
  refine ⟨⟨missing_sublist hforce, pending_sublist hnames⟩, fun c hc => ⟨?_, ?_⟩,
    missing_eq_pending_iff hnames hpreserve hforce, fun hids hscenes => ?_⟩
  · rw [hcovers.mem_kept_iff hnames hc]
    exact mem_missing_and_not_mem_pending_iff hnames hc hpreserve hforce
  · exact mem_pending_and_not_mem_missing_iff hnames hc hpreserve hforce
  · refine (missing_eq_pending_iff hnames hpreserve hforce).2 fun c hc => ?_
    exact ⟨not_hasUnderOtherId (hscenes c hc), not_isCrowdedOut hids⟩

/-- A badge that was renamed keeps its scene and is told as missing, and of two notes that own one
id the second is pending and is not told. -/
theorem missing_generate_badge_and_notes :
    let component (name : String) : Component :=
      ⟨name, "components/" ++ name ++ ".tsx", .component, true, false, none⟩
    let components := [component "Badge", component "Note", component "NOTE"]
    let text := "<Scene id='old' commentId='c' style=\x7b\x7bwidth:9,height:9,left:5,top:60" ++
      "\x7d\x7d data-label='B'><Badge /></Scene><Scene id='note-scene' commentId='n' " ++
      "style=\x7b\x7bwidth:9,height:9,left:5,top:40\x7d\x7d data-label='N'><Note /></Scene>"
    let plan := (generate components (some text) {} {} "../src").plan
    let scenes := (Storyboard.ofPrevious (some text)).scenes
    (components.map (·.name)).Nodup ∧ plan.missing = ["Badge"] ∧ plan.pending = ["NOTE"] ∧
      HasUnderOtherId components scenes (component "Badge") ∧
      IsCrowdedOut components scenes (component "NOTE") := by
  intro component components text plan scenes
  have hnames : (components.map (·.name)).Nodup := by decide
  -- a scene of Badge under another id, and a scene that Note takes before NOTE
  have hread : Storyboard.ofPrevious (some text) =
      ⟨[⟨"old", ⟨⟨9, 9⟩, 5, 60⟩, "B", some "Badge", "<Badge />"⟩,
        ⟨"note-scene", ⟨⟨9, 9⟩, 5, 40⟩, "N", some "Note", "<Note />"⟩], []⟩ := by decide +kernel
  have hplan : plan.missing = ["Badge"] ∧ plan.pending = ["NOTE"] ∧
      plan.kept.map (·.component) = ["Badge", "Note"] := by
    simp only [plan, generate, hread]
    decide +kernel
  obtain ⟨hmissing, hpending, hkept⟩ := hplan
  have hlists := (missing_generate components (some text) {} {} "../src" hnames rfl rfl).2.1
  refine ⟨hnames, hmissing, hpending, ?_, ?_⟩
  · exact (hlists (component "Badge") (by decide)).1.1
      ⟨hmissing ▸ by decide, hkept ▸ by decide⟩
  · exact (hlists (component "NOTE") (by decide)).2.1
      ⟨hpending ▸ by decide, hmissing ▸ by decide⟩

/-- The lists can differ: a badge whose scene was renamed is told as missing and is not pending. -/
theorem not_missing_eq_pending : ¬ ∀ (components : List Component) (previous : Option String)
    (options : ReconcileOptions) (settings : LayoutSettings) (importPrefix : String),
    (components.map (·.name)).Nodup → options.preserveExisting → options.forceRegenMissing →
    let plan := (generate components previous options settings importPrefix).plan
    plan.missing = plan.pending := by
  intro h
  let components : List Component := [⟨"Badge", "components/Badge.tsx", .component, true, false, none⟩]
  let text := "<Scene id='old' commentId='c' style=\x7b\x7bwidth: 9, height: 9, left: 5, " ++
    "top: 60\x7d\x7d data-label='Badge'><Badge /></Scene>"
  have hread : Storyboard.ofPrevious (some text) =
      ⟨[⟨"old", ⟨⟨9, 9⟩, 5, 60⟩, "Badge", some "Badge", "<Badge />"⟩], []⟩ := by decide +kernel
  -- Badge is missing, since no scene has its id, but not pending
  have heq := h components (some text) {} {} "../src" (by decide) rfl rfl
  simp only [generate, hread] at heq
  revert heq
  decide +kernel

end SceneBoard
