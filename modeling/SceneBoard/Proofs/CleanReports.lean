import Mathlib.Data.List.Perm.Basic
import Mathlib.Data.List.Perm.Subperm
import SceneBoard.Proofs.Conservation

/-!
# Clean reports

A report is clean if nothing was pruned, superseded or relocated. Where the previous scenes are
preserved, that says all there is to say: the scenes of a layout that were there before are those
that the plan keeps or retains (`exists_former_scenes`), so the report is clean exactly if each
previous scene still stands where it stood. Where they are not preserved, the plan does not look at
them and none of the three lists tells that they are gone: the report is clean whatever was lost.

## Key results

- `exists_former_scenes`: what a layout has of the previous scenes, and how many it has lost
- `isClean_generate`: what a clean report says
- `not_matches_of_isClean`: it says nothing if the previous scenes are not preserved
-/

namespace SceneBoard

open Plan

/-! ## Scenes at positions -/

/-- The scenes at positions. -/
def scenesAt (scenes : List Scene) (positions : List Nat) : List Scene :=
  positions.filterMap (scenes[·]?)

section

variable {scenes : List Scene} {positions : List Nat}

/-- What is said of positions, one by one, is said of the scenes that stand there. -/
theorem forall₂_scenesAt {α : Type} {R : Scene → α → Prop} {as : List α}
    (h : List.Forall₂ (fun i a => ∃ s, scenes[i]? = some s ∧ R s a) positions as) :
    List.Forall₂ R (scenesAt scenes positions) as := by
  -- by induction on the positions, at each of which there is a scene
  induction h with
  | nil => exact .nil
  | cons hi _ ih =>
    obtain ⟨s, hs, hR⟩ := hi
    rw [scenesAt, List.filterMap_cons, hs]
    exact .cons hR ih

/-- At all positions stand all scenes. -/
theorem scenesAt_range (scenes : List Scene) :
    scenesAt scenes (List.range scenes.length) = scenes := by
  apply List.forall₂_eq_eq_eq ▸ forall₂_scenesAt (R := Eq) _
  apply List.forall₂_iff_get.2 ⟨List.length_range, fun i h₁ h₂ => ?_⟩
  exact ⟨scenes[i], by simp [h₂], by simp⟩

/-- Positions that have every scene once have all scenes. -/
theorem perm_scenesAt (h : positions.Perm (List.range scenes.length)) :
    (scenesAt scenes positions).Perm scenes := by
  have hperm := h.filterMap (scenes[·]?)
  exact hperm.trans (.of_eq (scenesAt_range scenes))

theorem scenesAt_append (is js : List Nat) :
    scenesAt scenes (is ++ js) = scenesAt scenes is ++ scenesAt scenes js :=
  List.filterMap_append

end

/-! ## Former scenes of a layout -/

namespace PlacedScene

/-- It was there before. -/
def wasThere (p : PlacedScene) : Bool :=
  p.origin.previous?.isSome

/-- It is a scene of before: only its id, its left edge and what it is said to show may be new. -/
def IsFormer (s : Scene) (p : PlacedScene) : Prop :=
  p.origin.previous? = some s.box ∧
    ∃ id component left, p.scene = { s with id, component, box := { s.box with left } }

/-- It is a scene of before that stands where it stood, with its label and its body. -/
def IsStill (s : Scene) (p : PlacedScene) : Prop :=
  p.origin.previous? = some s.box ∧ ∃ id component, p.scene = { s with id, component }

/-- It has the box of the scene. -/
def HasBox (s : Scene) (p : PlacedScene) : Prop :=
  p.scene.box = s.box

variable {s : Scene} {p : PlacedScene}

theorem IsStill.wasThere (h : IsStill s p) : p.wasThere := by
  rw [PlacedScene.wasThere, h.1, Option.isSome_some]

theorem IsStill.hasBox (h : IsStill s p) : HasBox s p := by
  obtain ⟨-, id, component, hscene⟩ := h
  rw [HasBox, hscene]

/-- A scene of before that did not move stands still. -/
theorem IsFormer.isStill (h : IsFormer s p) (hmove : p.relocation? = none) : IsStill s p := by
  obtain ⟨hprevious, id, component, left, hscene⟩ := h
  have hleft : s.box.left = left := by
    rw [relocation?, hprevious, hscene] at hmove
    simpa using hmove
  refine ⟨hprevious, id, component, ?_⟩
  rw [hscene, ← hleft]

/-- A scene that stands still did not move. -/
theorem IsStill.relocation?_eq (h : IsStill s p) : p.relocation? = none := by
  obtain ⟨hprevious, id, component, hscene⟩ := h
  simp [relocation?, hprevious, hscene]

/-- Nor did a scene that is new. -/
theorem relocation?_of_not_wasThere (h : ¬ p.wasThere) : p.relocation? = none := by
  have hprevious : p.origin.previous? = none := by simpa [wasThere] using h
  rw [relocation?, hprevious, Option.bind_none]

end PlacedScene

section

variable {components : List Component} {prior : Storyboard} {options : ReconcileOptions}
  {settings : LayoutSettings} {plan : Plan}

/-- The scenes of components that were there before are those that the plan keeps. -/
private theorem forall₂_kept_live {f : Component → Option Scene}
    (hnames : (components.map (·.name)).Nodup) (hf : plan.IsSplitBy components f)
    {cs : List Component} {live : List PlacedScene} (hcs : cs ⊆ components)
    (h : List.Forall₂ (IsSceneOf plan) cs live) :
    List.Forall₂ (fun k p => p.IsFormer k.scene)
      (cs.filterMap fun c => (f c).map fun s => (⟨c.name, s⟩ : BoundScene))
      (live.filter (·.wasThere)) := by
  -- by induction on the components: what is kept was there, and what is placed was not
  induction h with
  | nil => exact .nil
  | @cons c p cs live hscene _ ih =>
    obtain ⟨hc, hcs⟩ := List.cons_subset.1 hcs
    cases hscene with
    | @kept b hb hcomponent hpending id left =>
      have hs : f c = some b.scene := by
        rw [hf.kept] at hb
        obtain ⟨c', hc', hb⟩ := List.mem_filterMap.1 hb
        obtain ⟨s, hs, rfl⟩ := Option.map_eq_some_iff.1 hb
        rwa [List.inj_on_of_nodup_map hnames hc' hc hcomponent] at hs
      rw [List.filterMap_cons, hs]
      exact .cons ⟨rfl, id, b.scene.component, left, rfl⟩ (ih hcs)
    | placed hpending hkept id box label =>
      rw [List.filterMap_cons, (hf.mem_pending_iff hnames hc).1 hpending]
      exact ih hcs

/-- Retained scenes were there before. -/
private theorem forall₂_retained {scenes : List Scene} {retained : List PlacedScene}
    (h : List.Forall₂ IsRetainedAs scenes retained) :
    List.Forall₂ PlacedScene.IsFormer scenes (retained.filter (·.wasThere)) := by
  induction h with
  | nil => exact .nil
  | @cons s p scenes retained hp _ ih =>
    obtain ⟨id, left, rfl⟩ := hp
    exact .cons ⟨rfl, id, s.component, left, rfl⟩ ih

/-- The scenes of a layout that were there before. -/
private theorem forall₂_wasThere (hnames : (components.map (·.name)).Nodup) :
    List.Forall₂ PlacedScene.IsFormer
      ((reconcile components prior options).kept.map (·.scene) ++
        (reconcile components prior options).retained)
      ((layoutOf components prior options settings).scenes.filter (·.wasThere)) := by
  -- the components come first, then what is retained
  obtain ⟨live, retained, hscenes, hlive, hretained⟩ :=
    @exists_scenes_layoutOf components prior options settings hnames
  obtain ⟨f, hf⟩ := @exists_isSplitBy components prior options (.of_map _ hnames)
  have hkept := forall₂_kept_live hnames hf (List.Subset.refl _) hlive
  rw [← hf.kept] at hkept
  rw [hscenes, List.filter_append]
  exact List.rel_append (List.forall₂_map_left_iff.2 hkept) (forall₂_retained hretained)

/-- The scenes that components keep, one by one. -/
private theorem forall₂_scenesAt_boundScenes {scenes : List Scene} {bs : List Binding}
    {ks : List BoundScene} (h : List.Forall₂ (fun b k => ∃ i s, b.scene = some i ∧
      scenes[i]? = some s ∧ IsKeptFrom b.component s k) (bs.filter (·.scene.isSome)) ks) :
    List.Forall₂ (fun s k => ∃ c, IsKeptFrom c s k) (scenesAt scenes (boundScenes bs)) ks := by
  have hbound : boundScenes bs = boundScenes (bs.filter (·.scene.isSome)) := by
    rw [boundScenes, boundScenes, List.filterMap_filter]
    refine List.filterMap_congr fun b _ => ?_
    cases b.scene <;> rfl
  apply forall₂_scenesAt
  rw [hbound]
  generalize bs.filter (·.scene.isSome) = bs at h
  -- only the bindings that have a scene count
  induction h with
  | nil => exact .nil
  | @cons b k bs ks hb _ ih =>
    obtain ⟨i, s, hi, hs, hk⟩ := hb
    rw [boundScenes_cons, hi]
    exact .cons ⟨s, hs, b.component, hk⟩ ih

/-- Where the previous scenes are preserved, those that a layout has lost are the ones that the plan
tells as superseded or pruned, and it has all the others: the scenes of the layout that were there
before are these, one by one. -/
theorem exists_former_scenes (hnames : (components.map (·.name)).Nodup)
    (hpreserve : options.preserveExisting) :
    ∃ former lost, (former ++ lost).Perm prior.scenes ∧
      lost.length = (reconcile components prior options).superseded.length +
        (reconcile components prior options).pruned.length ∧
      List.Forall₂ PlacedScene.IsFormer former
        ((layoutOf components prior options settings).scenes.filter (·.wasThere)) := by
  obtain ⟨a, ha⟩ := exists_account components prior options hpreserve
  have hperm := perm_scenesAt ha.every_scene
  simp only [scenesAt_append, List.append_assoc] at hperm
  -- each list of positions has the scenes of which the plan tells
  have hkept := forall₂_scenesAt_boundScenes ha.kept
  have hretained : scenesAt prior.scenes a.retained = (reconcile components prior options).retained :=
    List.forall₂_eq_eq_eq ▸ forall₂_scenesAt (ha.retained.imp fun i s hs => ⟨s, hs, rfl⟩)
  have hsuperseded := (forall₂_scenesAt ha.superseded).length_eq
  have hpruned := (forall₂_scenesAt (R := fun s x => s.id = x.id ∧ s.component = some x.component)
    (ha.pruned.imp fun i x ⟨s, hs, hid, hshown⟩ => ⟨s, hs, hid, hshown⟩)).length_eq
  refine ⟨scenesAt prior.scenes (boundScenes a.bindings) ++ scenesAt prior.scenes a.retained,
    scenesAt prior.scenes a.superseded ++ scenesAt prior.scenes a.pruned, ?_, ?_, ?_⟩
  · rwa [List.append_assoc]
  · rw [List.length_append, hsuperseded, hpruned]
  · have hsource : List.Forall₂ (fun s k => ∃ component id, k = { s with id, component })
        (scenesAt prior.scenes (boundScenes a.bindings) ++ scenesAt prior.scenes a.retained)
        ((reconcile components prior options).kept.map (·.scene) ++
          (reconcile components prior options).retained) := by
      apply List.rel_append
      · apply List.forall₂_map_right_iff.2
        exact hkept.imp fun s k ⟨c, _, id, hk⟩ => ⟨some c.name, id, hk⟩
      · rw [hretained]
        exact List.forall₂_same.2 fun s _ => ⟨s.component, s.id, rfl⟩
    -- between the former scenes and the layout stands the plan, which has only changed ids
    refine forall₂_trans hsource (forall₂_wasThere hnames) fun s k p hk hp => ?_
    obtain ⟨component, id, rfl⟩ := hk
    exact hp

end

/-! ## Reports -/

/-- Every scene of a storyboard is matched with a scene of the layout, no two with the same one. -/
def Layout.Matches (l : Layout) (prior : Storyboard) (R : Scene → PlacedScene → Prop) : Prop :=
  ∃ ps, ps.Subperm l.scenes ∧ List.Forall₂ R prior.scenes ps

section

variable {components : List Component} {prior : Storyboard} {options : ReconcileOptions}
  {settings : LayoutSettings}

/-- If nothing was pruned, superseded or relocated, all scenes of before stand still. -/
private theorem matches_of_nil (hnames : (components.map (·.name)).Nodup)
    (hpreserve : options.preserveExisting)
    (hpruned : (reconcile components prior options).pruned = [])
    (hsuperseded : (reconcile components prior options).superseded = [])
    (hrelocated : (layoutOf components prior options settings).relocations = []) :
    (layoutOf components prior options settings).Matches prior PlacedScene.IsStill := by
  obtain ⟨former, lost, hperm, hlost, hformer⟩ :=
    @exists_former_scenes components prior options settings hnames hpreserve
  rw [hpruned, hsuperseded] at hlost
  rw [List.length_eq_zero_iff.1 hlost, List.append_nil] at hperm
  have hmove : ∀ p ∈ (layoutOf components prior options settings).scenes, p.relocation? = none :=
    List.filterMap_eq_nil_iff.1 hrelocated
  have hstill : List.Forall₂ PlacedScene.IsStill former
      ((layoutOf components prior options settings).scenes.filter (·.wasThere)) := by
    -- a former scene that is not relocated is still where it was
    refine forall₂_trans hformer (S := fun p q => p = q ∧ p.relocation? = none) ?_ ?_
    · exact List.forall₂_same.2 fun p hp => ⟨rfl, hmove p (List.mem_filter.1 hp).1⟩
    · rintro s p _ hp ⟨rfl, hp'⟩
      exact hp.isStill hp'
  obtain ⟨ps, hps, hscenes⟩ := List.perm_comp_forall₂ hperm.symm hstill
  exact ⟨ps, hscenes.subperm.trans List.filter_sublist.subperm, hps⟩

/-- If all scenes of before stand still, none of them was lost and none was moved. -/
private theorem nil_of_matches (hnames : (components.map (·.name)).Nodup)
    (hpreserve : options.preserveExisting)
    (h : (layoutOf components prior options settings).Matches prior PlacedScene.IsStill) :
    (reconcile components prior options).pruned = [] ∧
      (reconcile components prior options).superseded = [] ∧
      (layoutOf components prior options settings).relocations = [] := by
  obtain ⟨ps, hsub, hstill⟩ := h
  obtain ⟨former, lost, hperm, hlost, hformer⟩ :=
    @exists_former_scenes components prior options settings hnames hpreserve
  have hthere : ∀ p ∈ ps, p.wasThere := by
    intro p hp
    obtain ⟨s, -, hs⟩ := exists_of_mem_forall₂ hstill hp
    exact hs.wasThere
  -- the layout has as many scenes of before as there were, so it has no others than these
  have hfilter := hsub.filter (·.wasThere)
  rw [List.filter_eq_self.2 hthere] at hfilter
  have hle := hfilter.length_le
  have hcount := hperm.length_eq
  rw [List.length_append, hlost] at hcount
  have hscenes := hfilter.perm_of_length_le (by
    rw [← hformer.length_eq, ← hstill.length_eq]
    omega)
  have hlengths := hscenes.length_eq
  rw [← hformer.length_eq, ← hstill.length_eq] at hlengths
  -- nothing was pruned or superseded, and nothing that was there has moved
  refine ⟨List.length_eq_zero_iff.1 (by omega), List.length_eq_zero_iff.1 (by omega), ?_⟩
  refine List.filterMap_eq_nil_iff.2 fun p hp => ?_
  by_cases hwas : p.wasThere
  · have hmem : p ∈ ps := hscenes.symm.subset (List.mem_filter.2 ⟨hp, hwas⟩)
    obtain ⟨s, -, hs⟩ := exists_of_mem_forall₂ hstill hmem
    exact hs.relocation?_eq
  · exact PlacedScene.relocation?_of_not_wasThere hwas

/-- Without previous scenes there is nothing to be moved. -/
private theorem relocations_layoutOf_empty (hnames : (components.map (·.name)).Nodup) :
    (layoutOf components .empty options settings).relocations = [] := by
  have hkept : (reconcile components .empty options).kept = [] := by
    rw [(isSplitBy_of_no_scenes rfl).kept]
    simp
  have hretained : (reconcile components .empty options).retained = [] :=
    List.sublist_nil.1 retained_sublist
  -- without former scenes the layout has none that were there
  have hformer := @forall₂_wasThere components .empty options settings hnames
  rw [hkept, hretained, List.map_nil, List.nil_append, List.forall₂_nil_left_iff] at hformer
  refine List.filterMap_eq_nil_iff.2 fun p hp => ?_
  exact PlacedScene.relocation?_of_not_wasThere (List.filter_eq_nil_iff.1 hformer p hp)

/-- Where the previous scenes are not preserved, the plan is the same as without any, but for what
it tells as missing. -/
private theorem reconcile_of_not_preserve (hpreserve : options.preserveExisting = false) :
    reconcile components prior options =
      { reconcile components .empty options with
        missing := (reconcile components prior options).missing } := by
  simp [reconcile, hpreserve]

end

/-- A report is clean if nothing was pruned, superseded or relocated. -/
theorem isClean_ofGeneration_iff {sourceRoot output : Path} {discovered : Nat} {dryRun : Bool}
    {g : Generation} : (Report.ofGeneration sourceRoot output discovered dryRun g).isClean ↔
      g.plan.pruned = [] ∧ g.plan.superseded = [] ∧ g.layout.relocations = [] := by
  simp [Report.isClean, Report.ofGeneration, and_assoc]

/-- Where the previous scenes are preserved, the report is clean exactly if every one of them is
still there and stands where it stood; its box is then that of a scene of the layout, and no two of
them share one. Where they are not preserved, the report is always clean, and the layout is the one
for no previous text. -/
theorem isClean_generate (components : List Component) (previous : Option String)
    (options : ReconcileOptions) (settings : LayoutSettings) (importPrefix : String)
    (sourceRoot output : Path) (dryRun : Bool) (hnames : (components.map (·.name)).Nodup) :
    let g := generate components previous options settings importPrefix
    let prior := Storyboard.ofPrevious previous
    let report := Report.ofGeneration sourceRoot output components.length dryRun g
    (options.preserveExisting = true →
      (report.isClean ↔ g.layout.Matches prior PlacedScene.IsStill) ∧
      (report.isClean → g.layout.Matches prior PlacedScene.HasBox)) ∧
    (options.preserveExisting = false → report.isClean ∧
      g.layout = (generate components none options settings importPrefix).layout) := by
  intro g prior report
  refine ⟨fun hpreserve => ?_, fun hpreserve => ?_⟩
  · -- the three lists are empty exactly if the layout has all scenes of before as they were
    have hiff : report.isClean ↔ g.layout.Matches prior PlacedScene.IsStill := by
      rw [isClean_ofGeneration_iff]
      constructor
      · rintro ⟨hpruned, hsuperseded, hrelocated⟩
        exact matches_of_nil hnames hpreserve hpruned hsuperseded hrelocated
      · exact nil_of_matches hnames hpreserve
    refine ⟨hiff, fun hclean => ?_⟩
    obtain ⟨ps, hsub, hstill⟩ := hiff.1 hclean
    exact ⟨ps, hsub, hstill.imp fun s p h => h.hasBox⟩
  · -- of scenes that are not preserved the plan only tells which components they miss
    have hplan : g.plan = { reconcile components .empty options with missing := g.plan.missing } :=
      reconcile_of_not_preserve hpreserve
    have hlayout : g.layout = layoutOf components .empty options settings := by
      show Layout.place g.plan components settings = _
      rw [hplan]
      rfl
    refine ⟨isClean_ofGeneration_iff.2 ⟨?_, ?_, ?_⟩, hlayout⟩
    · rw [hplan]
      simp [reconcile, Storyboard.empty]
    · rw [hplan]
      simp [reconcile, Storyboard.empty]
    · rw [hlayout]
      exact relocations_layoutOf_empty hnames

/-- A card and a note, both below the top row, stay where they are, and a badge is new; if the
scenes are not preserved the report is as clean, with the note gone. -/
theorem isClean_generate_card_and_note :
    let components : List Component :=
      [⟨"Card", "components/Card.tsx", .component, true, false, none⟩,
       ⟨"Badge", "components/Badge.tsx", .component, false, true, some ⟨20, 20⟩⟩]
    let text := "<Scene id='card-scene' commentId='c' style=\x7b\x7bwidth:9,height:9,left:5,top:60" ++
      "\x7d\x7d data-label='Card'><Card /></Scene><Scene id='n' commentId='n' style=\x7b\x7b" ++
      "width:9,height:9,left:5,top:40\x7d\x7d data-label='Note'>text</Scene>"
    let g (options : ReconcileOptions) := generate components (some text) options {} "../src"
    let report (options : ReconcileOptions) :=
      Report.ofGeneration ⟨"src"⟩ ⟨"Board.tsx"⟩ components.length false (g options)
    (components.map (·.name)).Nodup ∧ (Storyboard.ofPrevious (some text)).scenes.length = 2 ∧
      (report {}).isClean ∧
      (g {}).layout.Matches (Storyboard.ofPrevious (some text)) PlacedScene.IsStill ∧
      (report { preserveExisting := false }).isClean := by
  intro components text g report
  have hnames : (components.map (·.name)).Nodup := by decide
  have hread : Storyboard.ofPrevious (some text) =
      ⟨[⟨"card-scene", ⟨⟨9, 9⟩, 5, 60⟩, "Card", some "Card", "<Card />"⟩,
        ⟨"n", ⟨⟨9, 9⟩, 5, 40⟩, "Note", none, "text"⟩], []⟩ := by decide +kernel
  have hclean : (report {}).isClean := by
    simp only [report, g, generate, hread]
    decide +kernel
  refine ⟨hnames, by rw [hread]; rfl, hclean, ?_, ?_⟩
  · exact ((isClean_generate components (some text) {} {} "../src" ⟨"src"⟩ ⟨"Board.tsx"⟩ false
      hnames).1 rfl).1.1 hclean
  · exact ((isClean_generate components (some text) { preserveExisting := false } {} "../src"
      ⟨"src"⟩ ⟨"Board.tsx"⟩ false hnames).2 rfl).1

/-- Of a note that is dropped because the scenes of before are not preserved, a clean report does
not tell. -/
theorem not_matches_of_isClean : ¬ ∀ (components : List Component) (previous : Option String)
    (options : ReconcileOptions) (settings : LayoutSettings) (importPrefix : String)
    (sourceRoot output : Path) (dryRun : Bool), (components.map (·.name)).Nodup →
    let g := generate components previous options settings importPrefix
    (Report.ofGeneration sourceRoot output components.length dryRun g).isClean →
      g.layout.Matches (Storyboard.ofPrevious previous) PlacedScene.HasBox := by
  intro h
  let text := "<Scene id='note' commentId='note' style=\x7b\x7bwidth: 9, height: 9, left: 5, " ++
    "top: 40\x7d\x7d data-label='Note'>text</Scene>"
  let options : ReconcileOptions := { preserveExisting := false }
  -- the note is read, it is gone afterwards, and the report is clean
  have hread : (Storyboard.ofPrevious (some text)).scenes.length = 1 := by decide +kernel
  have hscenes : (generate [] (some text) options {} "").layout.scenes = [] := by decide +kernel
  have hclean : (Report.ofGeneration ⟨"src"⟩ ⟨"Board.tsx"⟩ 0 false
      (generate [] (some text) options {} "")).isClean := by decide +kernel
  obtain ⟨ps, hsub, hps⟩ :=
    h [] (some text) options {} "" ⟨"src"⟩ ⟨"Board.tsx"⟩ false .nil hclean
  rw [hscenes, List.subperm_nil] at hsub
  have hlength := hps.length_eq
  rw [hread, hsub] at hlength
  simp at hlength

end SceneBoard
