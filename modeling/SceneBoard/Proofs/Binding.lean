import Mathlib.Data.List.Find
import Mathlib.Data.List.Nodup
import SceneBoard.Proofs.SceneIds

/-!
# Which scene a component gets

A reconciliation binds components to positions of scenes in two rounds that share the positions
taken so far. Where the ids that components own are distinct this comes down to a plain rule: a
component gets the first scene with its own id, or else the first scene that no component has by id
and that shows it (`formerScene?`). What becomes of components and scenes is told by that rule alone
(`kept_reconcile`, `pending_reconcile`, `retained_reconcile`).

What a round does with one component is `BindStep`; whatever a whole round keeps is proved for one
step and carried along the list.
-/

namespace SceneBoard.Plan

/-! ## The rule -/

/-- Some component has the scene by its id: it is the first scene with the id that it owns. -/
def boundById (components : List Component) (scenes : List Scene) (s : Scene) : Bool :=
  components.any fun c => scenes.find? (ownsId c) == some s

/-- The scene that a component gets: the first one with the id that it owns or, if there is none,
the first one that no component has by its id and that shows the component. -/
def formerScene? (components : List Component) (scenes : List Scene) (c : Component) :
    Option Scene :=
  (scenes.find? (ownsId c)).or
    (scenes.find? fun s => !boundById components scenes s && showsName c s)

/-- Some component gets the scene. -/
def isBound (components : List Component) (scenes : List Scene) (s : Scene) : Bool :=
  components.any fun c => formerScene? components scenes c == some s

/-- The position of the scene that a component gets. -/
private def formerIndex? (components : List Component) (scenes : List Scene) (c : Component) :
    Option Nat :=
  (scenes.findIdx? (ownsId c)).or
    (scenes.findIdx? fun s => !boundById components scenes s && showsName c s)

/-! ## One round -/

section

variable {scenes : List Scene} {taken : List Nat} {wants : Component → Scene → Bool}

/-- The first free scene, told by a condition on scenes. -/
private theorem firstFree_eq_findIdx? {wanted free : Scene → Bool}
    (h : ∀ i s, scenes[i]? = some s → (!taken.contains i) = free s) :
    firstFree scenes taken wanted = scenes.findIdx? fun s => free s && wanted s := by
  rw [firstFree, List.findIdx?_eq_fst_find?_zipIdx]
  congr 1
  refine List.find?_congr fun p hp => ?_
  obtain ⟨s, i⟩ := p
  -- at its position the scene is free as the hypothesis says
  rw [List.mk_mem_zipIdx_iff_getElem?] at hp
  simp only [h i s hp]

/-- A scene that is not wanted may be taken as well. -/
private theorem firstFree_cons {wanted : Scene → Bool} {i : Nat}
    (h : ∀ s, scenes[i]? = some s → wanted s = false) :
    firstFree scenes (i :: taken) wanted = firstFree scenes taken wanted := by
  rw [firstFree, firstFree]
  congr 1
  refine List.find?_congr fun p hp => ?_
  obtain ⟨s, j⟩ := p
  rw [List.mk_mem_zipIdx_iff_getElem?] at hp
  -- the position that is taken has no wanted scene
  by_cases hij : j = i
  · subst hij
    simp [h s hp]
  · simp [hij]

/-- The only scene that is wanted is found if it is free. -/
theorem firstFree_eq_some {wanted : Scene → Bool} {i : Nat} {s : Scene} (hs : scenes[i]? = some s)
    (hfree : i ∉ taken) (hwanted : wanted s)
    (honly : ∀ j t, scenes[j]? = some t → wanted t → j = i) :
    firstFree scenes taken wanted = some i := by
  -- it is found, as it is free and wanted, and nothing else is
  rw [firstFree, Option.map_eq_some_iff]
  cases hfound : scenes.zipIdx.find? fun s => !taken.contains s.2 && wanted s.1 with
  | none =>
    have hmem : (s, i) ∈ scenes.zipIdx := List.mk_mem_zipIdx_iff_getElem?.2 hs
    have hout := List.find?_eq_none.1 hfound _ hmem
    simp [hfree, hwanted] at hout
  | some p =>
    refine ⟨p, rfl, ?_⟩
    -- what is found is free and wanted, so it is the only one that is wanted
    have hp := List.find?_some hfound
    rw [Bool.and_eq_true] at hp
    exact honly p.2 p.1 (List.mk_mem_zipIdx_iff_getElem?.1 (List.mem_of_find?_eq_some hfound)) hp.2

/-- Nothing is found if all that is wanted is taken. -/
theorem firstFree_eq_none {wanted : Scene → Bool}
    (h : ∀ i s, scenes[i]? = some s → wanted s → i ∈ taken) :
    firstFree scenes taken wanted = none := by
  rw [firstFree, Option.map_eq_none_iff, List.find?_eq_none]
  rintro ⟨s, i⟩ hp
  rw [Bool.and_eq_true, Bool.not_eq_true', List.contains_eq_mem, decide_eq_false_iff_not, not_and]
  exact fun hfree hwanted => hfree (h i s (List.mk_mem_zipIdx_iff_getElem?.1 hp) hwanted)

/-- Where there are no scenes nothing is bound. -/
theorem bindRound_nil (taken : List Nat) (bs : List Binding) : bindRound [] wants taken bs = bs := by
  induction bs with
  | nil => rfl
  | cons b bs ih =>
    rw [bindRound]
    split
    · rw [ih]
    · rw [firstFree_eq_none (by simp)]
      simp only [ih]

/-- Where no scene is wanted by two components, the order of the components does not matter. -/
theorem bindRound_eq {bs : List Binding}
    (h : bs.Pairwise fun b b' => ∀ s, wants b.component s → wants b'.component s = false) :
    bindRound scenes wants taken bs =
      bs.map fun b => ⟨b.component, b.scene.or (firstFree scenes taken (wants b.component))⟩ := by
  -- by induction on the bindings, with the scenes taken so far
  induction bs generalizing taken with
  | nil => rfl
  | cons b bs ih =>
    obtain ⟨hb, hbs⟩ := List.pairwise_cons.1 h
    obtain ⟨c, o⟩ := b
    cases o with
    | some i => simp only [bindRound, ih hbs, List.map_cons, Option.some_or]
    | none =>
      simp only [bindRound, List.map_cons, Option.none_or]
      split
      · rename_i i hi
        -- the scene that is taken now is not wanted later
        have hwanted : ∀ s, scenes[i]? = some s → wants c s := by
          intro s hs
          obtain ⟨p, hp, rfl⟩ := Option.map_eq_some_iff.1 hi
          have hmem := List.mk_mem_zipIdx_iff_getElem?.1 (List.mem_of_find?_eq_some hp)
          obtain rfl : p.1 = s := Option.some.inj (hmem.symm.trans hs)
          have hfound := List.find?_some hp
          rw [Bool.and_eq_true] at hfound
          exact hfound.2
        have hlater : ∀ b' ∈ bs, firstFree scenes (i :: taken) (wants b'.component) =
            firstFree scenes taken (wants b'.component) := fun b' hb' =>
          firstFree_cons fun s hs => hb b' hb' s (hwanted s hs)
        rw [ih hbs, hi, List.cons.injEq, List.map_inj_left]
        exact ⟨rfl, fun b' hb' => by rw [hlater b' hb']⟩
      · rename_i hfree
        rw [ih hbs, hfree]

end

section

variable {scenes : List Scene} {taken : List Nat} {wants : Component → Scene → Bool}

/-- A scene that is found is wanted, and it was free. -/
theorem exists_of_firstFree {wanted : Scene → Bool} {i : Nat}
    (h : firstFree scenes taken wanted = some i) :
    i ∉ taken ∧ ∃ s, scenes[i]? = some s ∧ wanted s := by
  obtain ⟨p, hp, rfl⟩ := Option.map_eq_some_iff.1 h
  have hfound := List.find?_some hp
  rw [Bool.and_eq_true, Bool.not_eq_true', List.contains_eq_mem, decide_eq_false_iff_not] at hfound
  exact ⟨hfound.1, p.1, List.mk_mem_zipIdx_iff_getElem?.1 (List.mem_of_find?_eq_some hp), hfound.2⟩

/-- A step of a round: the binding of one component before and behind it, and the scenes that are
taken then. A component that has a scene keeps it; any other gets the first free one that it wants,
or goes without. -/
inductive BindStep (scenes : List Scene) (wants : Component → Scene → Bool) (taken : List Nat) :
    Binding → Binding → List Nat → Prop where
  | bound (c : Component) (i : Nat) : BindStep scenes wants taken ⟨c, some i⟩ ⟨c, some i⟩ taken
  | found {c : Component} {i : Nat} (h : firstFree scenes taken (wants c) = some i) :
    BindStep scenes wants taken ⟨c, none⟩ ⟨c, some i⟩ (i :: taken)
  | missed {c : Component} (h : firstFree scenes taken (wants c) = none) :
    BindStep scenes wants taken ⟨c, none⟩ ⟨c, none⟩ taken

/-- A round makes one step for each binding. -/
theorem exists_bindStep (scenes : List Scene) (wants : Component → Scene → Bool) (taken : List Nat)
    (b : Binding) : ∃ b' taken', BindStep scenes wants taken b b' taken' ∧
      ∀ bs, bindRound scenes wants taken (b :: bs) = b' :: bindRound scenes wants taken' bs := by
  -- bound before, found now, or missed
  obtain ⟨c, o⟩ := b
  cases o with
  | some i => exact ⟨_, _, .bound c i, fun bs => rfl⟩
  | none =>
    cases h : firstFree scenes taken (wants c) with
    | some i => exact ⟨_, _, .found h, fun bs => by rw [bindRound, h]⟩
    | none => exact ⟨_, _, .missed h, fun bs => by rw [bindRound, h]⟩

namespace BindStep

variable {taken' : List Nat} {b b' : Binding} (h : BindStep scenes wants taken b b' taken')

include h

/-- Each binding keeps its component. -/
theorem component : b'.component = b.component := by
  cases h <;> rfl

/-- What is taken stays taken. -/
theorem taken_subset : taken ⊆ taken' := by
  cases h with
  | found => exact List.subset_cons_self _ _
  | bound | missed => exact List.Subset.refl _

/-- What is taken behind a step was taken before it, or the component has it now. -/
theorem mem_taken {i : Nat} (hi : i ∈ taken') : i ∈ taken ∨ i ∈ b'.scene.toList := by
  cases h with
  | found =>
    rcases List.mem_cons.1 hi with rfl | hi
    · exact .inr (List.mem_singleton_self i)
    · exact .inl hi
  | bound | missed => exact .inl hi

end BindStep

/-- A binding behind a round was there before it, or it is that of an unbound component with a scene
that it wants and that was free. -/
theorem mem_bindRound {bs : List Binding} {b : Binding}
    (h : b ∈ bindRound scenes wants taken bs) : b ∈ bs ∨ ⟨b.component, none⟩ ∈ bs ∧
      ∃ i s, b.scene = some i ∧ i ∉ taken ∧ scenes[i]? = some s ∧ wants b.component s := by
  induction bs generalizing taken with
  | nil => simp [bindRound] at h
  | cons a bs ih =>
    obtain ⟨a', taken', hstep, hround⟩ := exists_bindStep scenes wants taken a
    rw [hround] at h
    rcases List.mem_cons.1 h with rfl | h
    · cases hstep with
      -- the binding is as it was
      | bound | missed => exact .inl List.mem_cons_self
      | found hfound =>
        obtain ⟨hfree, s, hs, hwants⟩ := exists_of_firstFree hfound
        exact .inr ⟨List.mem_cons_self, _, s, rfl, hfree, hs, hwants⟩
    · -- of a later binding, which found its scene free though more was taken by then
      rcases ih h with h | ⟨h, i, s, hi, hfree, hs⟩
      · exact .inl (List.mem_cons_of_mem _ h)
      · exact .inr ⟨List.mem_cons_of_mem _ h, i, s, hi, fun ht => hfree (hstep.taken_subset ht), hs⟩

/-- A component is bound to a scene that has its id or shows it. -/
theorem exists_of_mem_bind {components : List Component} {b : Binding} {i : Nat}
    (h : b ∈ bind components scenes) (hi : b.scene = some i) :
    b.component ∈ components ∧ ∃ s, scenes[i]? = some s ∧
      (ownsId b.component s ∨ showsName b.component s) := by
  have hfirst {b : Binding} (h : b ∈ bindById components scenes) : b.component ∈ components := by
    rcases mem_bindRound h with h | ⟨h, -⟩
    all_goals
      obtain ⟨c, hc, hb⟩ := List.mem_map.1 h
      exact congrArg Binding.component hb ▸ hc
  -- it was bound in the second round or in the first
  rcases mem_bindRound h with h | ⟨hnone, j, s, hj, -, hs, hwants⟩
  · refine ⟨hfirst h, ?_⟩
    rcases mem_bindRound h with h | ⟨-, j, s, hj, -, hs, hwants⟩
    · obtain ⟨c, -, rfl⟩ := List.mem_map.1 h
      simp at hi
    · obtain rfl : j = i := Option.some.inj (hj.symm.trans hi)
      exact ⟨s, hs, .inl hwants⟩
  · obtain rfl : j = i := Option.some.inj (hj.symm.trans hi)
    have hmem := hfirst hnone
    exact ⟨hmem, s, hs, .inr hwants⟩

end

/-! ## Both rounds -/

section

variable {components : List Component} {scenes : List Scene}

private theorem getElem?_inj {i j : Nat} {s : Scene} (hscenes : scenes.Nodup)
    (hi : scenes[i]? = some s) (hj : scenes[j]? = some s) : i = j :=
  (List.getElem?_inj (List.getElem?_eq_some_iff.1 hi).1 hscenes).1 (hi.trans hj.symm)

/-- Where ids are distinct a component gets the first scene with its own id in the first round. -/
theorem bindById_eq (hids : (components.map (·.sceneId)).Nodup) :
    bindById components scenes = components.map fun c => ⟨c, scenes.findIdx? (ownsId c)⟩ := by
  -- no two components own one scene
  have hown : components.Pairwise fun c c' => ∀ s, ownsId c s → ownsId c' s = false := by
    refine (List.pairwise_map.1 hids).imp fun {c c'} hne s h => ?_
    rw [Bool.eq_false_iff]
    exact fun h' => hne (sceneId_eq_of_ownsId h h')
  have hunbound : (components.map fun c => (⟨c, none⟩ : Binding)).Pairwise fun b b' =>
      ∀ s, ownsId b.component s → ownsId b'.component s = false := List.pairwise_map.2 hown
  -- before the first round every scene is free
  have hfree (c : Component) : firstFree scenes [] (ownsId c) = scenes.findIdx? (ownsId c) := by
    have hall : ∀ i s, scenes[i]? = some s → (!([] : List Nat).contains i) = true := by simp
    simp [firstFree_eq_findIdx? hall]
  rw [bindById, bindRound_eq hunbound, List.map_map]
  simp only [Function.comp_def, Option.none_or, hfree]

/-- A position is taken in the first round if the scene there is bound by its id. -/
private theorem contains_boundScenes (hids : (components.map (·.sceneId)).Nodup)
    (hscenes : scenes.Nodup) {i : Nat} {s : Scene} (hi : scenes[i]? = some s) :
    (boundScenes (bindById components scenes)).contains i = boundById components scenes s := by
  have hfind (c : Component) :
      scenes.find? (ownsId c) = some s ↔ scenes.findIdx? (ownsId c) = some i := by
    -- a scene that occurs once is found at its position only
    rw [List.find?_eq_bind_findIdx?_getElem?, Option.bind_eq_some_iff]
    constructor
    · rintro ⟨j, hj, hs⟩
      rw [hj, getElem?_inj hscenes hi hs]
    · exact fun h => ⟨i, h, hi⟩
  rw [Bool.eq_iff_iff, bindById_eq hids]
  simp [boundScenes, boundById, hfind]

/-- Components that own distinct ids have distinct names. -/
theorem nodup_names (hids : (components.map (·.sceneId)).Nodup) : (components.map (·.name)).Nodup :=
  List.pairwise_map.2 ((List.pairwise_map.1 hids).imp fun hne h =>
    hne (congrArg SceneBoard.sceneId h))

/-- No scene shows two components. -/
theorem pairwise_showsName (hnames : (components.map (·.name)).Nodup) :
    components.Pairwise fun c c' => ∀ s, showsName c s → showsName c' s = false := by
  refine (List.pairwise_map.1 hnames).imp fun {c c'} hne s h => ?_
  rw [Bool.eq_false_iff]
  intro h'
  refine hne (Option.some.inj ?_)
  rw [← eq_of_beq h, ← eq_of_beq h']

/-- The bindings, component by component. -/
private theorem bind_eq (hids : (components.map (·.sceneId)).Nodup) (hscenes : scenes.Nodup) :
    bind components scenes =
      components.map fun c => ⟨c, formerIndex? components scenes c⟩ := by
  -- no scene shows two components, so the second round goes like the first
  have hshow := pairwise_showsName (nodup_names hids)
  have hfree (c : Component) :
      firstFree scenes (boundScenes (bindById components scenes)) (showsName c) =
        scenes.findIdx? fun s => !boundById components scenes s && showsName c s :=
    firstFree_eq_findIdx? fun i s hi => by rw [contains_boundScenes hids hscenes hi]
  simp only [bind]
  rw [bindRound_eq]
  · simp only [hfree]
    rw [bindById_eq hids, List.map_map]
    rfl
  · rw [bindById_eq hids]
    exact List.pairwise_map.2 hshow

/-- The position found is that of the scene found. -/
private theorem bind_formerIndex? (c : Component) :
    (formerIndex? components scenes c).bind (scenes[·]?) = formerScene? components scenes c := by
  rw [formerIndex?, formerScene?, List.find?_eq_bind_findIdx?_getElem?,
    List.find?_eq_bind_findIdx?_getElem?]
  -- by its id, or else by what it shows
  cases hown : scenes.findIdx? (ownsId c) with
  | none => simp
  | some i =>
    obtain ⟨hi, -⟩ := List.findIdx?_eq_some_iff_getElem.1 hown
    simp [List.getElem?_eq_getElem hi]

/-- A position is taken in the end if some component gets the scene there. -/
private theorem contains_boundScenes_bind (hids : (components.map (·.sceneId)).Nodup)
    (hscenes : scenes.Nodup) {i : Nat} {s : Scene} (hi : scenes[i]? = some s) :
    (boundScenes (bind components scenes)).contains i = isBound components scenes s := by
  -- a scene is that of a component if its position is
  have hformer (c : Component) :
      formerScene? components scenes c = some s ↔ formerIndex? components scenes c = some i := by
    rw [← bind_formerIndex?, Option.bind_eq_some_iff]
    constructor
    · rintro ⟨j, hj, hs⟩
      rw [hj, getElem?_inj hscenes hi hs]
    · exact fun h => ⟨i, h, hi⟩
  rw [Bool.eq_iff_iff, bind_eq hids hscenes]
  simp [boundScenes, isBound, hformer]

/-- A component that gets a scene by its name only is the one to which its id belongs all the same,
so the scene takes that id. -/
private theorem keep_eq {c : Component} {s : Scene} (hids : (components.map (·.sceneId)).Nodup)
    (hs : formerScene? components scenes c = some s) :
    keep ((bindById components scenes).filterMap fun b => b.scene.map fun _ => b.component.sceneId)
      c s = ⟨c.name, { s with id := c.sceneId, component := some c.name }⟩ := by
  -- if some scene is bound under that id, it is the scene that the component gets
  have howned : (((bindById components scenes).filterMap fun b =>
      b.scene.map fun _ => b.component.sceneId).contains c.sceneId) = true →
      Text.sameIgnoringCase s.id c.sceneId = true := by
    rw [bindById_eq hids]
    simp only [List.filterMap_map, List.contains_eq_mem, List.mem_filterMap, Function.comp_apply,
      Option.map_eq_some_iff, decide_eq_true_eq]
    rintro ⟨c', -, i, hi, hid⟩
    have hfind : (scenes.find? (ownsId c)).isSome := by
      have hsame : ownsId c' = ownsId c := by
        funext t
        rw [ownsId, ownsId, hid]
      rw [List.find?_eq_bind_findIdx?_getElem?, ← hsame, hi]
      obtain ⟨hlt, -⟩ := List.findIdx?_eq_some_iff_getElem.1 hi
      simp [hlt]
    obtain ⟨t, ht⟩ := Option.isSome_iff_exists.1 hfind
    have hown := List.find?_some ht
    rw [formerScene?, ht, Option.some_or, Option.some_inj] at hs
    exact hs ▸ hown
  unfold keep
  split
  · rfl
  · rename_i h
    simp only [Bool.or_eq_true, Bool.not_eq_true', not_or, Bool.not_eq_false] at h
    exact absurd (howned h.2) h.1

end

/-! ## What becomes of components and scenes -/

section

variable {components : List Component} {prior : Storyboard} {options : ReconcileOptions}

/-- A component keeps the scene that it gets, under the id that it owns. -/
theorem kept_reconcile (hpreserve : options.preserveExisting)
    (hids : (components.map (·.sceneId)).Nodup) (hscenes : prior.scenes.Nodup) :
    (reconcile components prior options).kept = components.filterMap fun c =>
      (formerScene? components prior.scenes c).map fun s =>
        ⟨c.name, { s with id := c.sceneId, component := some c.name }⟩ := by
  simp only [reconcile, hpreserve, if_true]
  rw [bind_eq hids hscenes, List.filterMap_map]
  congr 1
  funext c
  simp only [Function.comp_apply]
  -- the position that is bound holds the former scene
  rw [bind_formerIndex?]
  cases hs : formerScene? components prior.scenes c with
  | none => rfl
  | some s => rw [Option.map_some, Option.map_some, keep_eq hids hs]

/-- The components that get no scene are pending. -/
theorem pending_reconcile (hpreserve : options.preserveExisting)
    (hids : (components.map (·.sceneId)).Nodup) (hscenes : prior.scenes.Nodup) :
    (reconcile components prior options).pending =
      (components.filter fun c =>
        (formerScene? components prior.scenes c).isNone).map (·.name) := by
  -- a component waits if no scene is found for it
  have hnone (c : Component) : (formerIndex? components prior.scenes c).isNone =
      (formerScene? components prior.scenes c).isNone := by
    have hfind (p : Scene → Bool) :
        (prior.scenes.findIdx? p).isNone = (prior.scenes.find? p).isNone := by
      rw [Bool.eq_iff_iff]
      simp
    rw [formerIndex?, formerScene?, Option.isNone_or, Option.isNone_or, hfind, hfind]
  simp only [reconcile, hpreserve, if_true]
  rw [bind_eq hids hscenes, List.filter_map, List.map_map]
  simp only [Function.comp_def, hnone]

/-- Every component keeps one scene or is pending. -/
def Covers (plan : Plan) (components : List Component) : Prop :=
  (plan.kept.map (·.component) ++ plan.pending).Perm (components.map (·.name))

instance (plan : Plan) (components : List Component) : Decidable (plan.Covers components) :=
  inferInstanceAs (Decidable (List.Perm _ _))

/-- With distinct names no component is both kept and pending, or there twice. -/
theorem Covers.nodup {plan : Plan} (h : plan.Covers components)
    (hnames : (components.map (·.name)).Nodup) :
    (plan.kept.map (·.component) ++ plan.pending).Nodup :=
  List.Perm.nodup_iff h |>.2 hnames

/-- A plan in which components keep the scenes that a function tells, and the others are pending. -/
structure IsSplitBy (plan : Plan) (components : List Component) (f : Component → Option Scene) :
    Prop where
  kept : plan.kept = components.filterMap fun c => (f c).map fun s => ⟨c.name, s⟩
  pending : plan.pending = (components.filter fun c => (f c).isNone).map (·.name)

namespace IsSplitBy

variable {plan : Plan} {f : Component → Option Scene} {c : Component}

/-- A component with a scene is kept with it. -/
theorem mem_kept {s : Scene} (h : plan.IsSplitBy components f) (hc : c ∈ components)
    (hs : f c = some s) : ⟨c.name, s⟩ ∈ plan.kept := by
  rw [h.kept]
  exact List.mem_filterMap.2 ⟨c, hc, by rw [hs]; rfl⟩

/-- A component waits if it has no scene. -/
theorem mem_pending_iff (h : plan.IsSplitBy components f)
    (hnames : (components.map (·.name)).Nodup) (hc : c ∈ components) :
    c.name ∈ plan.pending ↔ f c = none := by
  rw [h.pending, List.mem_map]
  constructor
  · rintro ⟨c', hc', hname⟩
    obtain ⟨hc', hnone⟩ := List.mem_filter.1 hc'
    rwa [List.inj_on_of_nodup_map hnames hc' hc hname, Option.isNone_iff_eq_none] at hnone
  · exact fun hnone => ⟨c, List.mem_filter.2 ⟨hc, by rw [hnone]; rfl⟩, rfl⟩

/-- No scene is kept for a component that is pending. -/
theorem forall_kept_ne (h : plan.IsSplitBy components f)
    (hnames : (components.map (·.name)).Nodup) (hc : c ∈ components) (hnone : f c = none) :
    ∀ b ∈ plan.kept, b.component ≠ c.name := by
  rw [h.kept]
  rintro b hb hname
  -- a kept scene has a component of that name, which then has a scene
  obtain ⟨c', hc', hb⟩ := List.mem_filterMap.1 hb
  obtain ⟨s, hs, rfl⟩ := Option.map_eq_some_iff.1 hb
  rw [List.inj_on_of_nodup_map hnames hc' hc hname, hnone] at hs
  simp at hs

/-- As many scenes are kept as components have one. -/
theorem length_kept (h : plan.IsSplitBy components f) :
    plan.kept.length = components.countP fun c => (f c).isSome := by
  rw [h.kept, List.length_filterMap_eq_countP]
  simp

/-- A plan that is split covers the components. -/
theorem covers (h : plan.IsSplitBy components f) : plan.Covers components := by
  -- the components kept are those with a scene
  have hkept : plan.kept.map (·.component) =
      (components.filter fun c => (f c).isSome).map (·.name) := by
    rw [h.kept, List.map_filterMap, ← List.filterMap_eq_map', List.filterMap_filter]
    refine List.filterMap_congr fun c _ => ?_
    cases f c <;> rfl
  rw [Covers, hkept, h.pending, ← List.map_append]
  apply List.Perm.map
  simpa using List.filter_append_perm (fun c => (f c).isSome) components

end IsSplitBy

/-- The scene of before that a component keeps, as it keeps it. -/
def keptScene? (components : List Component) (scenes : List Scene) (c : Component) : Option Scene :=
  (formerScene? components scenes c).map fun s =>
    { s with id := c.sceneId, component := some c.name }

/-- The plan is split by the scene that each component keeps. -/
theorem isSplitBy_reconcile (hpreserve : options.preserveExisting)
    (hids : (components.map (·.sceneId)).Nodup) (hscenes : prior.scenes.Nodup) :
    (reconcile components prior options).IsSplitBy components (keptScene? components prior.scenes) := by
  refine ⟨?_, ?_⟩
  · rw [kept_reconcile hpreserve hids hscenes]
    simp only [keptScene?, Option.map_map, Function.comp_def]
  · rw [pending_reconcile hpreserve hids hscenes]
    simp only [keptScene?, Option.isNone_map]

/-- Where there are no scenes, all components are pending. -/
theorem isSplitBy_of_no_scenes (h : prior.scenes = []) :
    (reconcile components prior options).IsSplitBy components fun _ => none := by
  have hscenes : (if options.preserveExisting then prior else Storyboard.empty).scenes = [] := by
    split
    · exact h
    · rfl
  -- with no scene no component is bound
  have hbind : bind components [] = components.map (⟨·, none⟩) := by
    simp only [bind, bindById]
    rw [bindRound_nil, bindRound_nil]
  refine ⟨?_, ?_⟩
  · -- the components are all pending, and none is kept
    simp only [reconcile]
    rw [hscenes, hbind, List.filterMap_map]
    rfl
  · simp only [reconcile]
    rw [hscenes, hbind, List.filter_map, List.map_map]
    rfl

/-- The scenes that no component gets. -/
def unbound (components : List Component) (scenes : List Scene) : List Scene :=
  scenes.filter fun s => !isBound components scenes s

/-- The scenes whose position is not taken are the unbound ones. -/
private theorem unbound_eq {scenes : List Scene} (hids : (components.map (·.sceneId)).Nodup)
    (hscenes : scenes.Nodup) :
    (scenes.zipIdx.filter fun s => !(boundScenes (bind components scenes)).contains s.2).map (·.1) =
      unbound components scenes := by
  have hfilter : (scenes.zipIdx.filter fun s =>
      !(boundScenes (bind components scenes)).contains s.2) =
      scenes.zipIdx.filter ((fun s => !isBound components scenes s) ∘ (·.1)) := by
    refine List.filter_congr fun p hp => ?_
    obtain ⟨s, i⟩ := p
    rw [List.mk_mem_zipIdx_iff_getElem?] at hp
    simp only [Function.comp_apply]
    rw [contains_boundScenes_bind hids hscenes hp]
  rw [hfilter, ← List.filter_map, List.zipIdx_map_fst, unbound]

/-- The scenes retained, as the unbound ones of that fate. -/
theorem retained_reconcile (hpreserve : options.preserveExisting)
    (hids : (components.map (·.sceneId)).Nodup) (hscenes : prior.scenes.Nodup) :
    (reconcile components prior options).retained =
      (unbound components prior.scenes).filter fun s =>
        fate (components.map (·.name)) options.prune s matches .retained := by
  simp only [reconcile, hpreserve, if_true]
  exact congrArg (List.filter _) (unbound_eq hids hscenes)

/-- The scenes pruned, as the unbound ones of that fate. -/
theorem pruned_reconcile (hpreserve : options.preserveExisting)
    (hids : (components.map (·.sceneId)).Nodup) (hscenes : prior.scenes.Nodup) :
    (reconcile components prior options).pruned =
      (unbound components prior.scenes).filterMap fun s =>
        match fate (components.map (·.name)) options.prune s with
        | .pruned component => some ⟨s.id, component⟩
        | _ => none := by
  simp only [reconcile, hpreserve, if_true]
  exact congrArg (List.filterMap _) (unbound_eq hids hscenes)

/-- The scenes superseded, as the unbound ones of that fate. -/
theorem superseded_reconcile (hpreserve : options.preserveExisting)
    (hids : (components.map (·.sceneId)).Nodup) (hscenes : prior.scenes.Nodup) :
    (reconcile components prior options).superseded =
      ((unbound components prior.scenes).filter fun s =>
        fate (components.map (·.name)) options.prune s matches .superseded).map (·.id) := by
  simp only [reconcile, hpreserve, if_true]
  exact congrArg (List.map _) (congrArg (List.filter _) (unbound_eq hids hscenes))

end

/-! ## What holds whatever the ids are

Components whose names differ in case only own one id. The rule above then fails, but a scene still
goes to a component only if it has its id or shows it.
-/

section

variable {components : List Component} {prior : Storyboard} {options : ReconcileOptions}

/-- The scenes that a reconciliation looks at. -/
theorem preserved_sublist :
    (if options.preserveExisting then prior else Storyboard.empty).scenes.Sublist prior.scenes := by
  split
  · exact List.Sublist.refl _
  · exact List.nil_sublist _

/-- The scenes that no component has are scenes of before. -/
private theorem unbound_sublist (scenes : List Scene) (taken : List Nat) :
    ((scenes.zipIdx.filter fun s => !taken.contains s.2).map (·.1)).Sublist scenes := by
  have h := (List.filter_sublist (l := scenes.zipIdx) (p := fun s => !taken.contains s.2)).map (·.1)
  rwa [List.zipIdx_map_fst] at h

/-- A kept scene has the id of its component or the one it had. -/
private theorem id_keep (owned : List String) (c : Component) (s : Scene) :
    (keep owned c s).scene.id = c.sceneId ∨ (keep owned c s).scene.id = s.id := by
  simp only [keep]
  split
  · exact .inl rfl
  · exact .inr rfl

/-- A component keeps a scene that it owns or that shows it, with its label, under its own id or
under that of the scene. -/
theorem exists_of_mem_kept {b : BoundScene} (h : b ∈ (reconcile components prior options).kept) :
    ∃ c ∈ components, ∃ s ∈ prior.scenes, (ownsId c s ∨ showsName c s) ∧ b.component = c.name ∧
      b.scene.label = s.label ∧ (b.scene.id = c.sceneId ∨ b.scene.id = s.id) := by
  simp only [reconcile, List.mem_filterMap, Option.map_eq_some_iff, Option.bind_eq_some_iff] at h
  obtain ⟨b', hb', s, ⟨i, hi, hs⟩, rfl⟩ := h
  -- the scene is the one at the position of the binding
  obtain ⟨hc, s', hs', hwants⟩ := exists_of_mem_bind hb' hi
  obtain rfl : s = s' := Option.some.inj (hs.symm.trans hs')
  exact ⟨b'.component, hc, s, preserved_sublist.subset (List.mem_of_getElem? hs), hwants, rfl, rfl,
    id_keep _ _ _⟩

/-- The retained scenes are scenes of before, in their order. -/
theorem retained_sublist : (reconcile components prior options).retained.Sublist prior.scenes := by
  simp only [reconcile]
  exact List.filter_sublist.trans ((unbound_sublist _ _).trans preserved_sublist)

/-- A scene of which it is not known what it shows is retained, unless a component owns its id. -/
theorem mem_retained {s : Scene} (hpreserve : options.preserveExisting) (hs : s ∈ prior.scenes)
    (hcomponent : s.component = none) (hown : ∀ c ∈ components, ¬ ownsId c s) :
    s ∈ (reconcile components prior options).retained := by
  simp only [reconcile, hpreserve, if_true, List.mem_filter, List.mem_map, Prod.exists,
    exists_and_right, exists_eq_right]
  refine ⟨?_, by simp [fate, hcomponent]⟩
  obtain ⟨i, hi⟩ := List.mem_iff_getElem?.1 hs
  refine ⟨i, List.mk_mem_zipIdx_iff_getElem?.2 hi, ?_⟩
  rw [Bool.not_eq_true', Bool.eq_false_iff]
  -- its position is not taken: a component that is bound to it would own or show it
  intro htaken
  rw [List.contains_iff_mem, boundScenes, List.mem_filterMap] at htaken
  obtain ⟨b, hb, hbi⟩ := htaken
  obtain ⟨hc, s', hs', hwants⟩ := exists_of_mem_bind hb hbi
  obtain rfl : s = s' := Option.some.inj (hi.symm.trans hs')
  rcases hwants with h | h
  · exact hown _ hc h
  · simp [showsName, hcomponent] at h

/-- Only a scene that shows a component is pruned. -/
theorem exists_of_mem_pruned {x : PrunedScene}
    (h : x ∈ (reconcile components prior options).pruned) :
    ∃ s ∈ prior.scenes, s.id = x.id ∧ s.component ≠ none := by
  simp only [reconcile] at h
  obtain ⟨s, hs, hx⟩ := List.mem_filterMap.1 h
  refine ⟨s, preserved_sublist.subset ((unbound_sublist _ _).subset hs), ?_⟩
  -- a scene that shows nothing is not pruned
  cases hcomponent : s.component with
  | none => simp [fate, hcomponent] at hx
  | some name =>
    split at hx
    · exact ⟨by rw [← Option.some.inj hx], by simp⟩
    · simp at hx

/-- Only a scene that shows a component is superseded. -/
theorem exists_of_mem_superseded {id : String}
    (h : id ∈ (reconcile components prior options).superseded) :
    ∃ s ∈ prior.scenes, s.id = id ∧ s.component ≠ none := by
  simp only [reconcile] at h
  obtain ⟨s, hs, rfl⟩ := List.mem_map.1 h
  obtain ⟨hs, hfate⟩ := List.mem_filter.1 hs
  refine ⟨s, preserved_sublist.subset ((unbound_sublist _ _).subset hs), rfl, fun hcomponent => ?_⟩
  simp [fate, hcomponent] at hfate

end

end SceneBoard.Plan
