import SceneBoard.Proofs.CanvasRange
import SceneBoard.Proofs.Columns
import SceneBoard.Proofs.Pruning

/-!
# When components are gone that share an id

A storyboard is generated for some components, and then again for some of these. No component is
new then, and none is moved, as the columns are not closed up. But a scene is bound by its id first,
so if the component that owned an id is gone, the first one left with this id takes over its scene,
and its own scene is dropped: each component gets the box of its predecessor
(`Component.predecessor`), which is itself unless the first component with its id is gone
(`Component.predecessor_eq_self`).

## Key results

- `columnTop_le_of_mem_layout`: in the first layout no scene stands in the top row
- `map_box_layoutOf`: the boxes of a layout of fewer components
- `Round.boxes_generate_remaining`: both runs together
-/

namespace SceneBoard

open Plan Draft Storyboard

/-- Making ids distinct changes neither origins nor boxes. -/
private theorem map_origin_box_layoutOf (components : List Component) (prior : Storyboard)
    (options : ReconcileOptions) (settings : LayoutSettings) :
    (layoutOf components prior options settings).scenes.map (fun p => (p.origin, p.scene.box)) =
      (liveScenes components prior options settings ++
        orphanScenes components prior options settings).map fun p => (p.origin, p.scene.box) := by
  have hsame : List.Forall₂
      (fun p q : PlacedScene => (p.origin, p.scene.box) = (q.origin, q.scene.box))
      (liveScenes components prior options settings ++
        orphanScenes components prior options settings)
      (layoutOf components prior options settings).scenes :=
    (forall₂_distinctIds _).imp fun p q hpq => by rw [show q = _ from hpq]
  have hmapped := List.forall₂_map_right_iff.2 (List.forall₂_map_left_iff.2 hsame)
  rw [List.forall₂_eq_eq_eq] at hmapped
  exact hmapped.symm

/-! ## The first layout -/

section

variable {components : List Component} {prior : Storyboard} {options : ReconcileOptions}
  {settings : LayoutSettings} {c : Component} {p : PlacedScene}
  (hnames : (components.map (·.name)).Nodup) (hscenes : prior.scenes = [])
  (hplain : ∀ c ∈ components, ¬ c.IsAnchor ∧ c.category ≠ .page)

include hnames hscenes hplain

/-- The scene of a component has its size. -/
private theorem size_liveScene (hc : c ∈ components) :
    (liveScene components prior options settings c).scene.box.size = c.sceneSize settings := by
  have hplan := @isSplitBy_of_no_scenes components prior options hscenes
  -- the component has no scene of before, so it was placed with the size of the settings
  obtain ⟨box, label, -, hplaced⟩ := scene?_placed_of_none settings hnames hplan hc rfl
  obtain ⟨c', hc', horigin, hsize⟩ :=
    size_of_mem_placed hscenes hplain (mem_scenes_of_scene? hplaced)
  have hname : c.name = c'.name := Origin.placed.inj horigin
  obtain rfl : c = c' := List.inj_on_of_nodup_map hnames hc hc' hname
  -- closing up the row changes left edges only
  obtain ⟨left, hmoved⟩ := @exists_moved_eq (placed components prior options settings) components
    settings (.live c.name) (newScene c box label)
  rw [liveScene, scene?_compact, hplaced, Option.map_some, Option.getD_some, hmoved]
  exact hsize

/-- If the boxes of the layout are in range, no scene stands above the columns. -/
theorem columnTop_le_of_mem_layout (hvalid : settings.IsValid)
    (hboxes : ∀ p ∈ (layoutOf components prior options settings).scenes, p.scene.box.InRange)
    (hp : p ∈ (layoutOf components prior options settings).scenes) :
    settings.componentColumnTop ≤ p.scene.box.top := by
  have hsame := forall₂_distinctIds (liveScenes components prior options settings ++
    orphanScenes components prior options settings)
  -- the sizes of the components are those of their scenes, which are on the canvas
  have hheights : ∀ c ∈ components, 0 ≤ (c.sceneSize settings).height := by
    intro c hc
    have hlive : liveScene components prior options settings c ∈
        liveScenes components prior options settings ++
          orphanScenes components prior options settings := by
      rw [liveScenes_eq hnames (isSplitBy_of_no_scenes hscenes)]
      exact List.mem_append_left _ (List.mem_map_of_mem hc)
    obtain ⟨q, hq, hpq⟩ := exists_of_mem_forall₂ hsame.flip hlive
    have hbox : q.scene.box = (liveScene components prior options settings c).scene.box := by
      rw [show q = _ from hpq]
    have hrange := (hboxes q hq).1.2.1
    rw [hbox, size_liveScene hnames hscenes hplain hc] at hrange
    omega
  obtain ⟨slot, q, hq, hbox⟩ := exists_of_mem_layout hp
  rw [hbox]
  exact columnTop_le_of_mem_placed hscenes hplain hvalid hheights hq

end

/-! ## A layout of fewer components -/

section

variable {components remaining : List Component} {prior : Storyboard} {options : ReconcileOptions}
  {settings : LayoutSettings} {live : Component → Scene}

/-- With pruning, nothing is retained if all scenes are known to show components. -/
private theorem retained_eq_nil (hprune : options.prune)
    (hshows : ∀ s ∈ prior.scenes, s.component ≠ none) :
    (reconcile remaining prior options).retained = [] := by
  rw [List.eq_nil_iff_forall_not_mem]
  intro s hs
  have hnone := hshows s (retained_sublist.subset hs)
  obtain ⟨name, hname⟩ := Option.ne_none_iff_exists'.1 hnone
  have hfate := (List.mem_filter.1 hs).2
  -- the component that it shows is there or gone
  by_cases hlive : (remaining.map (·.name)).contains name
  · simp only [fate, hname, if_pos hlive, Bool.false_eq_true] at hfate
  · simp only [fate, hname, if_neg hlive, if_pos hprune, Bool.false_eq_true] at hfate

/-- Each of the components that are left has the box of its predecessor, and it had that before. -/
theorem map_box_layoutOf (h : IsSteady components prior live [])
    (hsub : remaining.Sublist components) (hpreserve : options.preserveExisting)
    (hprune : options.prune) (hshown : ∀ c ∈ components, c.IsShown)
    (hrow : ∀ c ∈ components, ∀ c' ∈ components, ¬ IsRowScene settings c (live c')) :
    (layoutOf remaining prior options settings).scenes.map (fun p => (p.origin, p.scene.box)) =
      remaining.map fun c =>
        (.kept c.name (live (c.predecessor components remaining)).box,
          (live (c.predecessor components remaining)).box) := by
  have hplan := @h.isSplitBy_of_sublist _ _ _ options _ _ hsub hpreserve
  have hnames := h.names.sublist (hsub.map _)
  -- every scene shows a component, so that none outlives it
  have horphans : orphanScenes remaining prior options settings = [] := by
    have hshows : ∀ s ∈ prior.scenes, s.component ≠ none := by
      intro s hs
      rw [h.scenes, List.append_nil] at hs
      obtain ⟨c, hc, rfl⟩ := List.mem_map.1 hs
      rw [h.shown c hc, if_pos (hshown c hc)]
      simp
    rw [orphanScenes, orphans_compact, orphans_placed, retained_eq_nil hprune hshows]
    rfl
  have hlive : ∀ c ∈ remaining,
      ((liveScene remaining prior options settings c).origin,
        (liveScene remaining prior options settings c).scene.box) =
          (.kept c.name (live (c.predecessor components remaining)).box,
            (live (c.predecessor components remaining)).box) := by
    intro c hc
    -- a component that is shown keeps the scene of its predecessor
    have hkept : IsSteady.kept? remaining (fun c => live (c.predecessor components remaining)) c =
        some { live (c.predecessor components remaining) with component := some c.name } :=
      if_neg fun hlost => hlost.2 (hshown c (hsub.subset hc))
    obtain ⟨left, heq, hleft⟩ :=
      @liveScene_of_some remaining prior options settings c _ hnames hplan _ hc hkept
    have hstays := hleft (hrow c (hsub.subset hc) _ (Component.predecessor_mem hsub hc))
    rw [heq, hstays]
    rfl
  rw [map_origin_box_layoutOf, horphans, List.append_nil, liveScenes_eq hnames hplan, List.map_map]
  exact List.map_congr_left hlive

end

/-! ## Two rounds -/

namespace Round

/-- The round with some of its components only. -/
def withOnly (r : Round) (remaining : List Component) : Round :=
  { r with components := remaining }

section

variable {r : Round} {remaining : List Component} (hlegible : r.IsLegible)
  (htags : ∀ c ∈ r.components, c.HasTagName)
  (hplain : ∀ c ∈ r.components, ¬ c.IsAnchor ∧ c.category ≠ .page)
  (hpreserve : r.options.preserveExisting) (hprune : r.options.prune) (hsettings : r.settings = {})
  (hboxes : ∀ p ∈ (r.generate none).layout.scenes, p.scene.box.InRange)
  (hsub : remaining.Sublist r.components)

include hlegible htags hplain hpreserve hprune hsettings hboxes hsub

/-- What the second text has: each component that is left keeps the scene of its predecessor. -/
private theorem exists_box_generate : ∃ box : Component → Box,
    (parse (r.generate none).text).scenes.map (fun s => (s.component, s.box)) =
      r.components.map (fun c => (some c.name, box c)) ∧
    ((r.withOnly remaining).generate (some (r.generate none).text)).plan.pending = [] ∧
    ((r.withOnly remaining).generate (some (r.generate none).text)).layout.scenes.map
        (fun p => (p.origin, p.scene.box)) =
      remaining.map fun c => (.kept c.name (box (c.predecessor r.components remaining)),
        box (c.predecessor r.components remaining)) := by
  obtain ⟨live, hlayout, hsteady, -⟩ := exists_isSteady_first hlegible hboxes
  have hshown : ∀ c ∈ r.components, c.IsShown :=
    fun c hc => ⟨fun happ => (hplain c hc).1 (.inr happ), htags c hc⟩
  refine ⟨fun c => (live c).scene.box, ?_, ?_, ?_⟩
  · -- the first text has the boxes of the live scenes
    rw [hsteady.scenes, List.append_nil, List.map_map]
    refine List.map_congr_left fun c hc => ?_
    have hcomponent := hsteady.shown c hc
    rw [if_pos (hshown c hc)] at hcomponent
    rw [Function.comp_apply, hcomponent]
    rfl
  · -- every component that remains has one of them
    refine (hsteady.isSplitBy_of_sublist hsub hpreserve).pending.trans ?_
    rw [List.map_eq_nil_iff, List.filter_eq_nil_iff]
    intro c hc
    rw [IsSteady.kept?, if_neg fun hlost => hlost.2 (hshown c (hsub.subset hc))]
    simp
  · -- and stays in it, as it does not stand in the row
    refine map_box_layoutOf hsteady hsub hpreserve hprune hshown fun c hc c' hc' hrow => ?_
    have hvalid : r.settings.IsValid := by
      rw [hsettings]
      exact LayoutSettings.isValid_of_problem? (by decide)
    have hmem : live c' ∈ (r.generate none).layout.scenes := by
      rw [hlayout.scenes, List.append_nil]
      exact List.mem_map_of_mem hc'
    have htop := columnTop_le_of_mem_layout hlegible.names rfl hplain hvalid hboxes hmem
    -- the columns begin below the top row
    have hlow : r.settings.topRow < r.settings.componentColumnTop := by
      rw [hsettings]
      decide
    rcases hrow with hrow | hpage
    · have hrow' : (live c').scene.box.top = r.settings.topRow := hrow
      omega
    · exact (hplain c hc).2 hpage

/-- If some of the components are gone, the others keep their boxes and none is new; where the first
component with an id is gone, the first one left with this id gets its box. -/
theorem boxes_generate_remaining :
    let first := r.generate none
    let again := (r.withOnly remaining).generate (some first.text)
    ∃ box : Component → Box,
      (parse first.text).scenes.map (fun s => (s.component, s.box)) =
        r.components.map (fun c => (some c.name, box c)) ∧
      again.plan.pending = [] ∧
      again.layout.scenes.map (fun p => (p.origin, p.scene.box)) =
        remaining.map (fun c => (.kept c.name (box (c.predecessor r.components remaining)),
          box (c.predecessor r.components remaining))) ∧
      ∀ c ∈ remaining, c.forerunner r.components ∈ remaining ∨ ¬ c.IsFirst remaining →
        c.predecessor r.components remaining = c := by
  intro first again
  obtain ⟨box, hread, hpending, hagain⟩ := exists_box_generate hlegible htags hplain hpreserve
    hprune hsettings hboxes hsub
  refine ⟨box, hread, hpending, hagain, fun c hc hleft => ?_⟩
  rcases hleft with hleft | hlater
  · exact Component.predecessor_eq_self hsub (List.Nodup.of_map _ hlegible.names) hc hleft
  · exact if_neg hlater

end

/-- A card is gone, and the one whose name differs in case only gets its box; a note keeps its. -/
theorem boxes_generate_remaining_cards :
    let card : Component := ⟨"Card", "components/Card.tsx", .component, true, false, none⟩
    let note : Component := ⟨"Note", "components/Note.tsx", .component, false, true, none⟩
    let other : Component := { card with name := "CARD" }
    let r : Round := ⟨[card, other, note], {}, {}, "../src"⟩
    let first := r.generate none
    let again := (r.withOnly [other, note]).generate (some first.text)
    ∃ box : Component → Box,
      (parse first.text).scenes.map (fun s => (s.component, s.box)) =
        [(some "Card", box card), (some "CARD", box other), (some "Note", box note)] ∧
      again.plan.pending = [] ∧
      again.layout.scenes.map (fun p => (p.origin, p.scene.box)) =
        [(.kept "CARD" (box card), box card), (.kept "Note" (box note), box note)] := by
  intro card note other r first again
  -- CARD is the first of the two that share an id, once Card is gone
  have hlegible : r.IsLegible := ⟨by decide, by decide +kernel, by decide, by decide⟩
  have hplain : ∀ c ∈ r.components, ¬ c.IsAnchor ∧ c.category ≠ .page := by decide
  have hboxes : ∀ p ∈ (r.generate none).layout.scenes, p.scene.box.InRange := by decide +kernel
  have hsub : [other, note].Sublist r.components := by decide
  obtain ⟨box, hread, hpending, hagain, -⟩ :=
    boxes_generate_remaining hlegible (by decide) hplain rfl rfl rfl hboxes hsub
  have hother : other.predecessor r.components [other, note] = card := by decide +kernel
  have hnote : note.predecessor r.components [other, note] = note := by decide +kernel
  refine ⟨box, hread, hpending, ?_⟩
  simpa only [List.map_cons, List.map_nil, hother, hnote] using hagain

/-- If a card is gone, the one whose name differs in case only does not keep its own box. -/
theorem not_boxes_generate_remaining : ¬ ∀ (components remaining : List Component)
    (importPrefix : String), let r : Round := ⟨components, {}, {}, importPrefix⟩
    r.IsLegible → (∀ c ∈ components, c.HasTagName) →
    (∀ c ∈ components, ¬ c.IsAnchor ∧ c.category ≠ .page) →
    (∀ p ∈ (r.generate none).layout.scenes, p.scene.box.InRange) →
    remaining.Sublist components →
    ∃ box : Component → Box,
      (parse (r.generate none).text).scenes.map (fun s => (s.component, s.box)) =
        components.map (fun c => (some c.name, box c)) ∧
      ((r.withOnly remaining).generate (some (r.generate none).text)).layout.scenes.map
        (·.scene.box) = remaining.map box := by
  intro h
  let card : Component := ⟨"Card", "components/Card.tsx", .component, true, false, none⟩
  let other : Component := { card with name := "CARD" }
  let r : Round := ⟨[card, other], {}, {}, "../src"⟩
  have hlegible : r.IsLegible := ⟨by decide, by decide +kernel, by decide, by decide⟩
  have htags : ∀ c ∈ r.components, c.HasTagName := by decide
  have hplain : ∀ c ∈ r.components, ¬ c.IsAnchor ∧ c.category ≠ .page := by decide
  have hboxes : ∀ p ∈ (r.generate none).layout.scenes, p.scene.box.InRange := by decide +kernel
  have hsub : [other].Sublist r.components := by decide
  obtain ⟨box, hread, -, hagain⟩ :=
    exists_box_generate hlegible htags hplain rfl rfl rfl hboxes hsub
  obtain ⟨box', hread', hagain'⟩ := h _ _ "../src" hlegible htags hplain hboxes hsub
  have hfirst : (parse (r.generate none).text).scenes.map (·.box) =
      [⟨⟨700, 700⟩, 212, 1584⟩, ⟨⟨700, 700⟩, 212, 2504⟩] := by
    have hlayout : (r.generate none).layout.scenes.map (·.scene.box) =
        [⟨⟨700, 700⟩, 212, 1584⟩, ⟨⟨700, 700⟩, 212, 2504⟩] := by decide +kernel
    rw [(isRegular_none hlegible).scenes_parse hlegible hboxes, List.map_map]
    exact hlayout
  -- in the first text the two have different boxes, and in the second one CARD has that of Card
  have hbox := congrArg (List.map Prod.snd) hread
  have hbox' := congrArg (List.map Prod.snd) hread'
  have hnext := congrArg (List.map Prod.snd) hagain
  have hother : other.predecessor r.components [other] = card := by decide +kernel
  simp only [List.map_map, Function.comp_def] at hbox hbox' hnext
  rw [hfirst] at hbox hbox'
  rw [hagain'] at hnext
  simp only [r, List.map_cons, List.map_nil, hother, List.cons.injEq] at hbox hbox' hnext
  have hsame := hbox'.2.1.trans (hnext.1.trans hbox.1.symm)
  exact absurd hsame (by decide)

end Round

end SceneBoard
