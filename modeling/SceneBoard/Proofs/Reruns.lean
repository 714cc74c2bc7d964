import SceneBoard.Proofs.Readable
import SceneBoard.Proofs.SharedIds

/-!
# Running again and again

The storyboard of a round is generated again and again, each time from the text of the run before.
Every run leaves each component with one scene (`Round.IsRegular`), and it leaves behind the scenes
that lost components had (`Round.IsRegular.next`). Where names are those of tags, only the
application can be lost, and only if a component before it owns the id of its scene.

## Key results

- `exists_isLayoutOf`: the layout of a plan in which every scene has an id of its own
- `Round.isRegular_textBefore`: what each of the runs leaves
- `Round.components_layout`: which components the scenes of each run show
-/

namespace SceneBoard

open Plan Draft Storyboard

/-! ## Layouts with ids of their own -/

/-- The scenes of a layout: one for each component, with an id of its own, and scenes that describe
the application and belong to nobody. -/
structure IsLayoutOf (components : List Component) (live : Component → PlacedScene)
    (orphans scenes : List PlacedScene) : Prop where
  scenes : scenes = components.map live ++ orphans
  shows : ∀ c ∈ components, (live c).origin.component? = some c.name
  ids : ∀ c ∈ components, c.HasOwnId components (live c).scene
  origins : ∀ p ∈ orphans, p.origin.component? = none
  unowned : ∀ p ∈ orphans, IsUnowned p.scene
  bodies : ∀ p ∈ orphans, p.scene.body = Template.app.body

section

variable {components : List Component} {prior : Storyboard} {options : ReconcileOptions}
  {f : Component → Option Scene} {live : Component → PlacedScene}
  {orphans scenes : List PlacedScene}

/-- A layout has as many orphans as there are scenes retained. -/
private theorem length_orphanScenes (settings : LayoutSettings) :
    (orphanScenes components prior options settings).length =
      (reconcile components prior options).retained.length := by
  rw [orphanScenes, orphans_compact, orphans_placed, List.length_map, List.length_zipIdx,
    List.length_map]

/-- The scene of a component has the id of the component, or it belongs to nobody and the id is that of
another component. -/
private theorem id_liveScene_or (settings : LayoutSettings)
    (hnames : (components.map (·.name)).Nodup)
    (hplan : (reconcile components prior options).IsSplitBy components f)
    (hkept : ∀ c ∈ components, ∀ s, f c = some s → c.HasOwnId components s) {c : Component}
    (hc : c ∈ components) :
    (liveScene components prior options settings c).scene.id = c.sceneId ∨
      ¬ c.IsFirst components ∧ IsUnowned (liveScene components prior options settings c).scene := by
  -- a new scene has its own id, and one that is kept has it if its component is the first
  cases hs : f c with
  | none =>
    obtain ⟨box, label, -, h⟩ :=
      @liveScene_of_none components prior options settings c f hnames hplan hc hs
    rw [h]
    exact .inl rfl
  | some s =>
    obtain ⟨left, h, -⟩ :=
      @liveScene_of_some components prior options settings c f hnames hplan s hc hs
    rw [h]
    by_cases hfirst : c.IsFirst components
    · exact .inl ((hkept c hc s hs).first hfirst)
    · exact .inr ⟨hfirst, (hkept c hc s hs).other hfirst⟩

/-- The layout of a plan that keeps ids of their own and retains only what belongs to nobody. -/
theorem exists_isLayoutOf (settings : LayoutSettings) (hnames : (components.map (·.name)).Nodup)
    (hplan : (reconcile components prior options).IsSplitBy components f)
    (hkept : ∀ c ∈ components, ∀ s, f c = some s → c.HasOwnId components s)
    (hretained : ∀ s ∈ (reconcile components prior options).retained,
      IsUnowned s ∧ s.body = Template.app.body) :
    ∃ live orphans, IsLayoutOf components live orphans
        (layoutOf components prior options settings).scenes ∧
      orphans.length = (reconcile components prior options).retained.length := by
  have hunowned : ∀ p ∈ orphanScenes components prior options settings, IsUnowned p.scene := by
    intro p hp
    obtain ⟨s, hs, left, rfl⟩ := exists_of_mem_orphanScenes hp
    exact (hretained s hs).1
  obtain ⟨live, orphans, hscenes, hlive, hsame, horphans⟩ :=
    exists_distinctIds (List.Nodup.of_map _ hnames)
      (fun c hc => id_liveScene_or settings hnames hplan hkept hc) hunowned
  -- only ids have changed since, so origins and bodies are those of before
  refine ⟨live, orphans, ⟨?_, fun c hc => ?_, fun c hc => (hlive c hc).2, fun q hq => ?_, horphans,
    fun q hq => ?_⟩, ?_⟩
  · rw [scenes_layoutOf, liveScenes_eq hnames hplan, hscenes]
  · rw [(hlive c hc).1]
    exact origin_liveScene hnames hplan hc
  · -- an orphan is retained, and has the body that it had
    obtain ⟨p, hp, hpq⟩ := exists_of_mem_forall₂ hsame hq
    obtain ⟨s, hs, left, rfl⟩ := exists_of_mem_orphanScenes hp
    rw [hpq]
    rfl
  · obtain ⟨p, hp, hpq⟩ := exists_of_mem_forall₂ hsame hq
    obtain ⟨s, hs, left, rfl⟩ := exists_of_mem_orphanScenes hp
    rw [hpq]
    exact (hretained s hs).2
  · rw [← hsame.length_eq, length_orphanScenes]

/-- Once it was written and read again, such a layout is a steady storyboard. -/
theorem IsLayoutOf.isSteady (h : IsLayoutOf components live orphans scenes)
    (hnames : (components.map (·.name)).Nodup)
    (himport : ∀ c ∈ components, IsImportName c.name.toList)
    (hread : prior.scenes = scenes.map (·.asWritten components)) :
    IsSteady components prior (fun c => (live c).asWritten components)
      (orphans.map (·.asWritten components)) := by
  have htemplate : ∀ p ∈ orphans, p.template components = .verbatim p.scene.body := by
    intro p hp
    rw [PlacedScene.template, h.origins p hp]
    rfl
  refine ⟨hnames, ?_, fun c hc => ⟨(h.ids c hc).first, (h.ids c hc).other⟩, fun c hc => ?_,
    fun s hs => ?_, fun s hs => ?_⟩
  · -- what is read again are the live scenes and the orphans, in this order
    rw [hread, h.scenes, List.map_append, List.map_map]
    rfl
  · -- a live scene shows its component, since the template of the component does
    show Body.component? ((live c).template components).body = _
    rw [template_of_component? hnames hc (h.shows c hc), component?_ofComponent (himport c hc)]
  · obtain ⟨p, hp, rfl⟩ := List.mem_map.1 hs
    exact h.unowned p hp
  · obtain ⟨p, hp, rfl⟩ := List.mem_map.1 hs
    -- an orphan has the body of the application, which shows nothing
    show Body.component? (p.template components).body = none
    rw [htemplate p hp]
    show Body.component? p.scene.body = none
    rw [h.bodies p hp, Template.component?_app]

/-- The scenes of lost components and those that belong to nobody describe the application. -/
private theorem IsLayoutOf.body_of_left_over (h : IsLayoutOf components live orphans scenes)
    (hnames : (components.map (·.name)).Nodup) (htags : ∀ c ∈ components, c.HasTagName) {s : Scene}
    (hs : s ∈ ((components.filter fun c => c.IsLost components).map fun c =>
      (live c).asWritten components) ++ orphans.map (·.asWritten components)) :
    IsUnowned s ∧ s.body = Template.app.body := by
  rcases List.mem_append.1 hs with hs | hs
  · -- a live scene is lost only if it shows the application
    obtain ⟨c, hc, rfl⟩ := List.mem_map.1 hs
    obtain ⟨hc, hlost⟩ := List.mem_filter.1 hc
    have hlost : c.IsLost components := of_decide_eq_true hlost
    have hname : c.name = appName := by
      by_contra hname
      exact hlost.2 ⟨hname, htags c hc⟩
    refine ⟨(h.ids c hc).other hlost.1, ?_⟩
    show ((live c).template components).body = _
    rw [template_of_component? hnames hc (h.shows c hc), Template.ofComponent_of_app hname]
  · obtain ⟨p, hp, rfl⟩ := List.mem_map.1 hs
    refine ⟨h.unowned p hp, ?_⟩
    show (p.template components).body = _
    rw [PlacedScene.template, h.origins p hp]
    exact h.bodies p hp

end

/-! ## Runs -/

namespace Round

/-- The text before a run: none before the first one, and then what the run before wrote. -/
def textBefore (r : Round) : Nat → Option String
  | 0 => none
  | n + 1 => some (r.generate (r.textBefore n)).text

/-- A run that leaves each component with a scene, and `count` scenes that describe the application
and belong to nobody. -/
structure IsRegular (r : Round) (previous : Option String) (count : Nat) : Prop where
  layout : ∃ live orphans, IsLayoutOf r.components live orphans
    (r.generate previous).layout.scenes ∧ orphans.length = count
  legible : ∀ p ∈ (r.generate previous).layout.scenes, p.scene.IsLegible
  imports : keptImports r.components (Storyboard.ofPrevious previous) r.options = []

/-- The components that do not find their scenes again. -/
def lost (r : Round) : List Component :=
  r.components.filter fun c => c.IsLost r.components

section

variable {r : Round} {previous : Option String} {count n : Nat} (hlegible : r.IsLegible)

include hlegible

/-- The first run. -/
theorem isRegular_none : r.IsRegular none 0 := by
  have hretained : (reconcile r.components (Storyboard.ofPrevious none) r.options).retained = [] :=
    List.sublist_nil.1 retained_sublist
  refine ⟨?_, fun p hp => hlegible.isLegible (by simp [Storyboard.ofPrevious, Storyboard.empty]) hp,
    rfl⟩
  have hplan : (reconcile r.components (Storyboard.ofPrevious none) r.options).IsSplitBy
      r.components fun _ => none := isSplitBy_of_no_scenes rfl
  obtain ⟨live, orphans, hlayout, hlength⟩ :=
    exists_isLayoutOf r.settings hlegible.names hplan (by simp) (by simp [hretained])
  exact ⟨live, orphans, hlayout, by rw [hlength, hretained]; rfl⟩

/-- The scenes of such a run are read back. -/
theorem IsRegular.scenes_parse (h : r.IsRegular previous count)
    (hboxes : ∀ p ∈ (r.generate previous).layout.scenes, p.scene.box.InRange) :
    (parse (r.generate previous).text).scenes =
      (r.generate previous).layout.scenes.map (·.asWritten r.components) :=
  scenes_parse_text hlegible.names hlegible.components
    (fun p hp => ⟨(h.legible p hp).1, (h.legible p hp).2, hboxes p hp⟩) (by simp [h.imports])

variable (htags : ∀ c ∈ r.components, c.HasTagName)
  (hpreserve : r.options.preserveExisting)

include htags hpreserve

/-- A run on the text of the run before: the lost components leave one scene each. -/
theorem IsRegular.next (h : r.IsRegular previous count)
    (hboxes : ∀ p ∈ (r.generate previous).layout.scenes, p.scene.box.InRange) :
    r.IsRegular (some (r.generate previous).text) (count + r.lost.length) := by
  have himport : ∀ c ∈ r.components, IsImportName c.name.toList :=
    fun c hc => (hlegible.components c hc).name
  obtain ⟨live, orphans, hlayout, hlength⟩ := h.layout
  have hread := h.scenes_parse hlegible hboxes
  have hsteady := hlayout.isSteady hlegible.names himport hread
  have hretained := hsteady.retained_eq hpreserve
  -- what is left over after the next run
  have hnobody : ∀ s ∈ (reconcile r.components (parse (r.generate previous).text)
      r.options).retained, IsUnowned s ∧ s.body = Template.app.body := by
    intro s hs
    rw [hretained] at hs
    exact hlayout.body_of_left_over hlegible.names htags hs
  refine ⟨?_, ?_, ?_⟩
  · -- the next layout has the lost scenes among its orphans
    obtain ⟨live', orphans', hlayout', hlength'⟩ := exists_isLayoutOf r.settings
      hlegible.names (hsteady.isSplitBy hpreserve) (fun _ hc _ => hsteady.hasOwnId_of_kept? hc)
      hnobody
    refine ⟨live', orphans', hlayout', ?_⟩
    rw [hlength', hretained, List.length_append, List.length_map, List.length_map, hlength,
      Nat.add_comm]
    rfl
  · -- what was legible in this run is legible in the next
    refine fun p hp => hlegible.isLegible (fun s hs => ?_) hp
    obtain ⟨p, hp, rfl⟩ := List.mem_map.1 (hread ▸ hs)
    exact h.legible p hp
  · apply keptImports_eq_nil
    intro s hs
    rw [(hnobody s hs).2, Template.references_app]

/-- What each of the runs leaves. -/
theorem isRegular_textBefore (hboxes : ∀ m < n, ∀ p ∈ (r.generate (r.textBefore m)).layout.scenes,
    p.scene.box.InRange) : r.IsRegular (r.textBefore n) (n * r.lost.length) := by
  -- every run before this one added the scenes that are lost
  induction n with
  | zero =>
    rw [Nat.zero_mul]
    exact isRegular_none hlegible
  | succ n ih =>
    have hbefore := ih fun m hm => hboxes m (by omega)
    rw [Nat.succ_mul]
    exact hbefore.next hlegible htags hpreserve (hboxes n (by omega))

/-- After any number of runs each component has one scene, and every lost component has left one
scene in each run but the first. -/
theorem components_layout (hboxes : ∀ m < n, ∀ p ∈ (r.generate (r.textBefore m)).layout.scenes,
    p.scene.box.InRange) : (r.generate (r.textBefore n)).layout.scenes.map (·.origin.component?) =
      r.components.map (some ·.name) ++ List.replicate (n * r.lost.length) none := by
  obtain ⟨live, orphans, h, hlength⟩ :=
    (isRegular_textBefore hlegible htags hpreserve hboxes).layout
  rw [h.scenes, List.map_append, List.map_map]
  congr 1
  · -- the live scenes are those of the components, the orphans are of none
    exact List.map_congr_left h.shows
  · rw [List.eq_replicate_iff, List.length_map, hlength]
    refine ⟨rfl, fun component hcomponent => ?_⟩
    obtain ⟨p, hp, rfl⟩ := List.mem_map.1 hcomponent
    exact h.origins p hp

end

/-- Two cards whose names differ in case only keep one scene each. -/
theorem components_layout_cards :
    let card : Component := ⟨"Card", "components/Card.tsx", .component, true, false, none⟩
    let r : Round := ⟨[card, { card with name := "CARD" }], {}, {}, "../src"⟩
    (r.generate (r.textBefore 1)).layout.scenes.map (·.origin.component?) =
      [some "Card", some "CARD"] := by
  intro card r
  have hlegible : r.IsLegible := ⟨by decide, by decide +kernel, by decide, by decide⟩
  have hboxes : ∀ m < 1, ∀ p ∈ (r.generate (r.textBefore m)).layout.scenes,
      p.scene.box.InRange := by
    intro m hm
    obtain rfl : m = 0 := by omega
    decide +kernel
  have hlost : r.lost = [] := by decide +kernel
  have hlayout := components_layout hlegible (by decide) rfl hboxes
  rw [hlost] at hlayout
  exact hlayout

/-- An application behind a component whose name differs from its own in case only. -/
private def twins : List Component :=
  [⟨"APP", "components/App.tsx", .component, true, false, none⟩,
    ⟨"App", "components/App.tsx", .component, true, false, none⟩]

/-- What they have after their first run, as it is read again. -/
private def scenesOfTwins : List Scene :=
  [⟨"app-scene", ⟨⟨700, 700⟩, 212, 1584⟩, "APP", some "APP", (Template.styled "APP").body⟩,
    ⟨"app-scene-2", ⟨⟨744, 1133⟩, 212, 128⟩, "My App", none, Template.app.body⟩]

/-- Their second layout is on the canvas. -/
private theorem inRange_layoutOf_twins : ∀ p ∈ (layoutOf twins ⟨scenesOfTwins, []⟩ {} {}).scenes,
    p.scene.box.InRange := by
  have hrow : (placed twins ⟨scenesOfTwins, []⟩ {} {}).row twins {} =
      [⟨.live "App", .app, 212, 1⟩, ⟨.orphan 0, .app, 212, 2⟩] :=
    row_eq_of_entries rfl (by decide)
  have hmoved (slot : Slot) : (placed twins ⟨scenesOfTwins, []⟩ {} {}).moved twins {} slot =
      fun p => moveTo p (((targets {} [⟨.live "App", .app, 212, 1⟩,
        ⟨.orphan 0, .app, 212, 2⟩]).lookup slot).getD p.scene.box.left) := by
    funext p
    rw [moved_eq, goals, hrow]
  rw [scenes_layoutOf, liveScenes, orphanScenes, orphans_compact]
  simp only [funext scene?_compact, hmoved]
  decide +kernel

/-- An application behind a component whose name differs from its own in case only is lost in the
second run: its old scene stays, and it gets a new one. -/
theorem not_components_layout_of_lost : ¬ ∀ (components : List Component) (importPrefix : String)
    (n : Nat), let r : Round := ⟨components, {}, {}, importPrefix⟩
    r.IsLegible → (∀ c ∈ components, c.HasTagName) →
    (∀ m ≤ n, ∀ p ∈ (r.generate (r.textBefore m)).layout.scenes, p.scene.box.InRange) →
    (r.generate (r.textBefore n)).layout.scenes.map (·.origin.component?) =
      components.map (some ·.name) := by
  intro h
  let r : Round := ⟨twins, {}, {}, "../src"⟩
  have hlegible : r.IsLegible := ⟨by decide, by decide +kernel, by decide, by decide⟩
  have htags : ∀ c ∈ twins, c.HasTagName := by decide
  -- the first run places both, and only one has an id of its own
  have hfirst : (r.generate (r.textBefore 0)).layout.scenes =
      [⟨⟨"app-scene", ⟨⟨700, 700⟩, 212, 1584⟩, "APP", some "APP", ""⟩, .placed "APP"⟩,
        ⟨⟨"app-scene-2", ⟨⟨744, 1133⟩, 212, 128⟩, "My App", some "App", ""⟩, .placed "App"⟩] := by
    decide +kernel
  have hboxes : ∀ p ∈ (r.generate (r.textBefore 0)).layout.scenes, p.scene.box.InRange := by
    rw [hfirst]
    decide
  have hregular := isRegular_none hlegible
  have hread : (parse (r.generate (r.textBefore 0)).text).scenes = scenesOfTwins := by
    have hshown : Body.component? (Template.styled "APP").body = some "APP" :=
      @component?_ofComponent ⟨"APP", "components/App.tsx", .component, true, false, none⟩
        (by decide)
    refine (hregular.scenes_parse hlegible hboxes).trans (hfirst ▸ ?_)
    show [(⟨"app-scene", _, "APP", Body.component? (Template.styled "APP").body, _⟩ : Scene),
      ⟨"app-scene-2", _, "My App", Body.component? Template.app.body, _⟩] = scenesOfTwins
    rw [hshown, Template.component?_app]
    rfl
  -- so the second run is regular, with one more orphan
  have hnext := hregular.next hlegible htags rfl hboxes
  obtain ⟨live, orphans, hlayout, hlength⟩ := hnext.layout
  have hall : ∀ m ≤ 1, ∀ p ∈ (r.generate (r.textBefore m)).layout.scenes, p.scene.box.InRange := by
    intro m hm
    rcases (by omega : m = 0 ∨ m = 1) with rfl | rfl
    · exact hboxes
    · have hsame : (r.generate (r.textBefore 1)).layout =
          layoutOf twins ⟨scenesOfTwins, []⟩ {} {} := layoutOf_congr twins {} {} hread
      rw [hsame]
      exact inRange_layoutOf_twins
  -- the second run has three scenes for two components
  have hcount := congrArg List.length (h twins "../src" 1 hlegible htags hall)
  have hscenes := congrArg List.length hlayout.scenes
  have hlost : r.lost.length = 1 := by decide +kernel
  rw [List.length_append, List.length_map, hlength, hlost] at hscenes
  rw [List.length_map, List.length_map] at hcount
  exact absurd (hcount.symm.trans hscenes) (by decide)

end Round

end SceneBoard
