import SceneBoard.Proofs.Rereading
import SceneBoard.Proofs.Settled

/-!
# Generating again

A storyboard that was generated is settled, and its top row is closed. So when it is generated again
from the same components every scene stays as it is (`layout_again`), and the text can differ only
in its import lines. Those are the same too, unless the text of some scene reads as the import of a
component that a retained scene refers to (`text_again_eq_iff`).

## Key results

- `exists_isSettled`: what a round writes is read as a settled storyboard
- `isClosed_again`: and its top row is closed
- `layout_again`: the layout of the next round has the same scenes, and none of them moves
- `text_again_eq_iff`: when the text of the next round is the same
-/

namespace SceneBoard

open Plan Draft Storyboard

/-! ## Scenes of the next round -/

/-- A scene of a layout as it is in the layout of the next round. -/
def PlacedScene.again (components : List Component) (p : PlacedScene) : PlacedScene :=
  match p.origin.component? with
  | some name => ⟨{ p.asWritten components with component := some name }, .kept name p.scene.box⟩
  | none => ⟨p.asWritten components, .retained p.scene.box⟩

namespace PlacedScene

variable {components : List Component} {p : PlacedScene}

/-- Without a component the scene is retained where it is. -/
theorem again_of_none (hp : p.origin.component? = none) :
    p.again components = ⟨p.asWritten components, .retained p.scene.box⟩ := by
  rw [again, hp]

/-- With one it is kept where it is. -/
theorem again_of_some {name : String} (hp : p.origin.component? = some name) :
    p.again components =
      ⟨{ p.asWritten components with component := some name }, .kept name p.scene.box⟩ := by
  rw [again, hp]

/-- The body is written in the same way. -/
private theorem body_template_again :
    ((p.again components).template components).body = (p.template components).body := by
  cases hp : p.origin.component? with
  | none =>
    rw [again_of_none hp]
    rfl
  | some name =>
    rw [again_of_some hp]
    -- the template depends on the component of that name, and there may be none any more
    cases hname : Component.named? components name with
    | none =>
      simp only [template, Origin.component?, Option.bind_some, hname, asWritten, Template.body]
    | some c =>
      have htemplate : p.template components = .ofComponent c := by
        rw [template, hp, Option.bind_some, hname]
      rw [htemplate]
      simp only [template, Origin.component?, Option.bind_some, hname]

/-- It is written in the same way. -/
theorem text_again : (p.again components).text components = p.text components := by
  have hid : (p.again components).scene.id = p.scene.id := by
    unfold again
    split <;> rfl
  have hbox : (p.again components).scene.box = p.scene.box := by
    unfold again
    split <;> rfl
  have hlabel : (p.again components).scene.label = p.scene.label := by
    unfold again
    split <;> rfl
  -- the text is made of these and of the body of the template
  unfold text
  extract_lets s s'
  rw [show s.id = s'.id from hid, show s.box = s'.box from hbox,
    show s.label = s'.label from hlabel, body_template_again]

end PlacedScene

namespace Plan

/-- What becomes of a scene depends only on the component that it shows. -/
private theorem fate_congr {s s' : Scene} {live : List String} {prune : Bool}
    (h : s.component = s'.component) : fate live prune s = fate live prune s' := by
  rw [fate, fate, h]

/-- A retained scene has that fate. -/
private theorem fate_of_mem_retained {components : List Component} {prior : Storyboard}
    {options : ReconcileOptions} {s : Scene}
    (h : s ∈ (reconcile components prior options).retained) :
    fate (components.map (·.name)) options.prune s = .retained := by
  simp only [reconcile] at h
  have hfate := (List.mem_filter.1 h).2
  split at hfate
  · assumption
  · simp at hfate

end Plan

/-! ## What a round writes is settled -/

namespace Round

variable {r : Round} {previous : Option String}

/-- The scene of a component in a round, before ids are made distinct. -/
private def live (r : Round) (previous : Option String) (c : Component) : PlacedScene :=
  liveScene r.components (Storyboard.ofPrevious previous) r.options r.settings c

/-- The retained scenes of a round, before ids are made distinct. -/
private def others (r : Round) (previous : Option String) : List PlacedScene :=
  orphanScenes r.components (Storyboard.ofPrevious previous) r.options r.settings

/-- The other scenes are of no component. -/
private theorem component?_of_mem_others {p : PlacedScene} (hp : p ∈ r.others previous) :
    p.origin.component? = none := by
  obtain ⟨s, -, left, rfl⟩ := exists_of_mem_orphanScenes hp
  rfl

/-- A retained scene is retained again. -/
private theorem fate_asWritten {p q : PlacedScene} (hp : p ∈ r.others previous)
    (hpq : p.SameButId q) :
    fate (r.components.map (·.name)) r.options.prune (q.asWritten r.components) = .retained := by
  obtain ⟨s, hs, left, rfl⟩ := exists_of_mem_orphanScenes hp
  rw [← fate_of_mem_retained hs]
  refine fate_congr ?_
  rw [component_of_mem (retained_sublist.subset hs), hpq]
  rfl

/-- A round writes a settled storyboard. -/
theorem exists_isSettled (hsound : r.IsSound previous) (hpreserve : r.options.preserveExisting)
    (hids : (r.components.map (·.sceneId)).Nodup) :
    ∃ orphans, (r.generate previous).layout.scenes = r.components.map (r.live previous) ++ orphans ∧
      List.Forall₂ PlacedScene.SameButId (r.others previous) orphans ∧
      IsSettled r.components r.options (parse (r.generate previous).text)
        (fun c => (r.live previous c).asWritten r.components)
        (orphans.map (·.asWritten r.components)) := by
  have hscenes := nodup_scenes_ofPrevious previous
  obtain ⟨orphans, hlayout, horphans⟩ :=
    @exists_layout_scenes r.components _ r.options r.settings hpreserve hids hscenes
  refine ⟨orphans, hlayout, horphans, ?_, nodup_id_ofPrevious (some _), fun c hc => ?_,
    fun s hs => ?_⟩
  · -- what is read is what was written, the scenes of components first
    rw [hsound.scenes_parse, layout_generate, hlayout, List.map_append, List.map_map]
    rfl
  -- the components own the ids of their scenes, and the retained scenes have the same fate again
  · exact id_liveScene hpreserve hids hscenes hc
  · obtain ⟨q, hq, rfl⟩ := List.mem_map.1 hs
    obtain ⟨p, hp, hpq⟩ := exists_of_mem_forall₂ horphans hq
    exact fate_asWritten hp hpq

/-! ## The top row stays closed -/

/-- At most one scene of the top row is a playground, and at most one is an application. -/
def HasOneOfEach (r : Round) (previous : Option String) : Prop :=
  ∀ kind ∈ [RowKind.playground, .app],
    (rowScenes r.components r.settings kind (r.generate previous).layout.scenes).length ≤ 1

/-- The draft of a round in which every component has a scene. -/
private def draft (r : Round) (previous : Option String) : Draft :=
  placed r.components (Storyboard.ofPrevious previous) r.options r.settings

section

variable (hpreserve : r.options.preserveExisting) (hids : (r.components.map (·.sceneId)).Nodup)

include hpreserve hids

/-- When the row of the draft is closed up, the components have their scenes in the layout. -/
private theorem perm_assigned_compact :
    ((r.draft previous).compact r.components r.settings).assigned.Perm
      (r.components.map fun c => (c.name, r.live previous c)) := by
  have hscenes := nodup_scenes_ofPrevious previous
  have hplan := isSplitBy_reconcile hpreserve hids hscenes
  refine perm_assigned ?_ (nodup_names hids)
    (fun c hc => scene?_liveScene (nodup_names hids) hplan hc) fun name hname => ?_
  · -- moving does not change which names are assigned
    have hkeys : ((r.draft previous).compact r.components r.settings).assigned.map (·.1) =
        (r.draft previous).assigned.map (·.1) := by
      simp only [compact, List.map_map, Function.comp_def]
    exact hkeys ▸ nodup_placed r.settings
  · rw [scene?_compact, draft, scene?_placed_of_forall_ne r.settings hname]
    rfl

/-- The draft has one of each anchor at most as well. -/
private theorem hasOneOfEach_draft (hone : r.HasOneOfEach previous) :
    Draft.HasOneOfEach ((r.draft previous).row r.components r.settings) := by
  refine hasOneOfEach_row fun kind hkind => ?_
  have hlength := hone kind hkind
  obtain ⟨orphans, hlayout, horphans⟩ := @exists_layout_scenes r.components _ r.options r.settings
    hpreserve hids (nodup_scenes_ofPrevious previous)
  -- the scenes of the draft are those of the layout, in another order and with other ids
  have hlive : (rowScenes r.components r.settings kind
      (((r.draft previous).compact r.components r.settings).assigned.map (·.2))).length =
        (rowScenes r.components r.settings kind (r.components.map (r.live previous))).length := by
    have hperm := ((@perm_assigned_compact r previous hpreserve hids).map (·.2)).filter
      fun p => inTopRow r.components r.settings p && rowKind r.settings p == kind
    rw [List.map_map] at hperm
    exact hperm.length_eq
  have hothers : (rowScenes r.components r.settings kind (r.others previous)).length =
      (rowScenes r.components r.settings kind orphans).length := by
    refine length_rowScenes_of_forall₂ kind (horphans.imp fun p q hpq => ?_)
    rw [hpq]
    exact ⟨rfl, rfl, rfl⟩
  rw [layout_generate, hlayout, rowScenes_append, List.length_append, ← hothers] at hlength
  rw [Draft.scenes, rowScenes_append, List.length_append, hlive]
  exact hlength

/-- The draft of the next round has a closed row. -/
theorem isClosed_again (hsound : r.IsSound previous) (hspacing : 1 ≤ r.settings.spacing)
    (hone : r.HasOneOfEach previous) : IsClosed r.settings
      ((placed r.components (parse (r.generate previous).text) r.options r.settings).row r.components
        r.settings) := by
  obtain ⟨orphans, -, horphans, hsettled⟩ := exists_isSettled hsound hpreserve hids
  refine isClosed_row hspacing (nodup_placed r.settings)
    (hasOneOfEach_draft hpreserve hids hone) ?_
  have hassigned := perm_assigned (nodup_placed r.settings) (nodup_names hids)
    (fun c hc => hsettled.scene?_placed hpreserve hc) fun name hname =>
      scene?_placed_of_forall_ne r.settings hname
  -- what was read again looks to the row like what was written
  refine perm_entries hassigned (perm_assigned_compact hpreserve hids) ?_ ?_
  · -- the scene of a component has the box and the label it had, and the component itself
    intro c hc
    refine ⟨rfl, rfl, ?_⟩
    exact (origin_liveScene (nodup_names hids)
      (isSplitBy_reconcile hpreserve hids (nodup_scenes_ofPrevious previous)) hc).symm
  · -- the others are of no component, before and after
    have hothers : List.Forall₂ (fun p q => p.origin.component? = none ∧ PlacedScene.SameButId p q)
        (r.others previous) orphans :=
      (List.forall₂_and_left ..).2 ⟨fun p hp => component?_of_mem_others hp, horphans⟩
    rw [hsettled.orphans_placed_eq hpreserve, List.map_map, List.forall₂_map_left_iff]
    refine (List.Forall₂.flip hothers).imp fun q p hpq => ?_
    obtain ⟨hnone, hsame⟩ := hpq
    rw [hsame]
    exact ⟨rfl, rfl, hnone.symm⟩

/-- In the next round all scenes stay as they are. -/
theorem layout_again (hsound : r.IsSound previous) (hspacing : 1 ≤ r.settings.spacing)
    (hone : r.HasOneOfEach previous) : (r.generate (some (r.generate previous).text)).layout =
      ⟨(r.generate previous).layout.scenes.map (·.again r.components), [], 0⟩ := by
  obtain ⟨orphans, hlayout, horphans, hsettled⟩ := exists_isSettled hsound hpreserve hids
  refine (hsettled.layoutOf_eq hpreserve
    (isClosed_again hpreserve hids hsound hspacing hone)).trans ?_
  congr 1
  rw [hlayout, List.map_append, List.map_map, List.map_map]
  -- scenes of components first, then the retained ones
  congr 1
  · refine List.map_congr_left fun c hc => ?_
    have hname : (r.live previous c).origin.component? = some c.name :=
      origin_liveScene (nodup_names hids)
        (isSplitBy_reconcile hpreserve hids (nodup_scenes_ofPrevious previous)) hc
    exact (PlacedScene.again_of_some hname).symm
  · refine List.map_congr_left fun q hq => ?_
    obtain ⟨p, hp, hsame⟩ := exists_of_mem_forall₂ horphans hq
    have hnone : q.origin.component? = none := by
      rw [hsame]
      exact @component?_of_mem_others r previous p hp
    exact (PlacedScene.again_of_none hnone).symm

end

/-! ## The imports of the next round -/

/-- Whatever the text of a round is read to import and its retained scenes refer to is a component
or was imported before. -/
def ImportsNothingNew (r : Round) (previous : Option String) : Prop :=
  ∀ i ∈ (parse (r.generate previous).text).imports,
    (∃ s ∈ (r.generate previous).plan.retained, i.name ∈ Body.references s.body) →
      i.name ∈ r.components.map (·.name) ∨
        i.name ∈ (Storyboard.ofPrevious previous).imports.map (·.name)

/-- The import of a name is kept: a retained scene refers to it, and it is no component. -/
private def keeps (r : Round) (previous : Option String) (name : String) : Bool :=
  ((r.generate previous).plan.retained.flatMap fun s => Body.references s.body).contains name &&
    !(r.components.map (·.name)).contains name

/-- An import is kept if a retained scene refers to it and no component has its name. -/
private theorem keeps_iff {name : String} : r.keeps previous name ↔
    (∃ s ∈ (r.generate previous).plan.retained, name ∈ Body.references s.body) ∧
      name ∉ r.components.map (·.name) := by
  simp only [keeps, Bool.and_eq_true, List.contains_iff_mem, List.mem_flatMap, Bool.not_eq_true',
    ← Bool.not_eq_true]

/-- The imports kept, as a filter. -/
private theorem keptImports_eq :
    keptImports r.components (Storyboard.ofPrevious previous) r.options =
      (Storyboard.ofPrevious previous).imports.filter fun i => r.keeps previous i.name :=
  rfl

/-- New ids leave the bodies alone of scenes that no component has. -/
private theorem map_body_asWritten {ps qs : List PlacedScene} (components : List Component)
    (h : List.Forall₂ PlacedScene.SameButId ps qs) (hps : ∀ p ∈ ps, p.origin.component? = none) :
    qs.map (fun q => (q.asWritten components).body) = ps.map (·.scene.body) := by
  induction h with
  | nil => rfl
  | @cons p q ps qs hpq _ ih =>
    have hbody : (q.asWritten components).body = p.scene.body := by
      have hnone := hps p (by simp)
      rw [hpq]
      simp only [PlacedScene.asWritten, PlacedScene.template, hnone, Option.bind_none,
        Template.body]
    rw [List.map_cons, List.map_cons, hbody, ih fun p hp => hps p (by simp [hp])]

/-- The retained scenes keep their bodies, so they refer to the same names again. -/
private theorem keeps_again (hsound : r.IsSound previous) (hpreserve : r.options.preserveExisting)
    (hids : (r.components.map (·.sceneId)).Nodup) (name : String) :
    r.keeps (some (r.generate previous).text) name = r.keeps previous name := by
  obtain ⟨orphans, -, horphans, hsettled⟩ := exists_isSettled hsound hpreserve hids
  -- both runs retain scenes of the same bodies
  have hothers : (r.others previous).map (·.scene.body) =
      (r.generate previous).plan.retained.map (·.body) := by
    rw [others, orphanScenes, orphans_compact, map_moved (fun _ _ => rfl), orphans_placed,
      List.map_map]
    rfl
  have hretained : (r.generate (some (r.generate previous).text)).plan.retained.map (·.body) =
      (r.generate previous).plan.retained.map (·.body) := by
    rw [← hothers, ← map_body_asWritten r.components horphans fun p hp =>
      component?_of_mem_others hp]
    have heq : (r.generate (some (r.generate previous).text)).plan.retained =
      orphans.map (·.asWritten r.components) := hsettled.retained_eq hpreserve
    rw [heq, List.map_map]
    rfl
  have hreferences (scenes : List Scene) : (scenes.flatMap fun s => Body.references s.body) =
      (scenes.map (·.body)).flatMap Body.references := (List.flatMap_map ..).symm
  rw [keeps, keeps, hreferences, hretained, ← hreferences]

/-- The names kept are the imported ones that are to be kept. -/
private theorem mem_map_name_keptImports {name : String} :
    name ∈ (keptImports r.components (Storyboard.ofPrevious previous) r.options).map (·.name) ↔
      name ∈ (Storyboard.ofPrevious previous).imports.map (·.name) ∧ r.keeps previous name := by
  simp only [keptImports_eq, List.mem_map, List.mem_filter]
  constructor
  · rintro ⟨i, ⟨hi, hkeeps⟩, rfl⟩
    exact ⟨⟨i, hi, rfl⟩, hkeeps⟩
  · rintro ⟨⟨i, hi, rfl⟩, hkeeps⟩
    exact ⟨i, ⟨hi, hkeeps⟩, rfl⟩

/-- What is new can only be among the imports that the round did not write as such. -/
private theorem importsNothingNew_iff {others : List ImportLine}
    (himports : (parse (r.generate previous).text).imports =
      distinctBy ImportLine.name (r.components.map (·.asImport r.importPrefix) ++
        keptImports r.components (Storyboard.ofPrevious previous) r.options ++ others)) :
    r.ImportsNothingNew previous ↔ ∀ i ∈ others, r.keeps previous i.name → i.name ∈
      (keptImports r.components (Storyboard.ofPrevious previous) r.options).map (·.name) := by
  constructor
  · intro h i hi hkeeps
    obtain ⟨hreferenced, hname⟩ := keeps_iff.1 hkeeps
    -- some import of that name is read, though perhaps not this one
    have hmem : i.name ∈ (parse (r.generate previous).text).imports.map (·.name) := by
      rw [himports, mem_map_distinctBy]
      exact List.mem_map.2 ⟨i, List.mem_append_right _ hi, rfl⟩
    obtain ⟨j, hj, hji⟩ := List.mem_map.1 hmem
    rcases h j hj (hji ▸ hreferenced) with hcomponent | hbefore
    · exact absurd (hji ▸ hcomponent) hname
    · exact mem_map_name_keptImports.2 ⟨hji ▸ hbefore, hkeeps⟩
  · intro h i hi hreferenced
    by_cases hname : i.name ∈ r.components.map (·.name)
    · exact .inl hname
    have hkeeps := keeps_iff.2 ⟨hreferenced, hname⟩
    rw [himports] at hi
    -- the line is one of a component, one kept before, or another one
    rcases List.mem_append.1 ((distinctBy_sublist _).subset hi) with hi | hi
    · rcases List.mem_append.1 hi with hi | hi
      · obtain ⟨c, hc, rfl⟩ := List.mem_map.1 hi
        exact absurd (List.mem_map.2 ⟨c, hc, rfl⟩) hname
      · exact .inr (mem_map_name_keptImports.1 (List.mem_map.2 ⟨i, hi, rfl⟩)).1
    · exact .inr (mem_map_name_keptImports.1 (h i hi hkeeps)).1

/-- The next round keeps the same imports, and behind them those that are new. -/
private theorem exists_keptImports_again (hsound : r.IsSound previous)
    (hpreserve : r.options.preserveExisting) (hids : (r.components.map (·.sceneId)).Nodup) :
    ∃ extra, keptImports r.components (parse (r.generate previous).text) r.options =
        keptImports r.components (Storyboard.ofPrevious previous) r.options ++ extra ∧
      (extra = [] ↔ r.ImportsNothingNew previous) := by
  obtain ⟨others, himports, -⟩ := hsound.exists_imports_parse
  have hkept : keptImports r.components (parse (r.generate previous).text) r.options =
      (parse (r.generate previous).text).imports.filter fun i => r.keeps previous i.name := by
    simp only [← keeps_again hsound hpreserve hids]
    rfl
  -- the filter takes out the imports of components and lets those through that were kept before
  have hcomponents : (r.components.map (·.asImport r.importPrefix)).filter
      (fun i => r.keeps previous i.name) = [] := by
    rw [List.filter_eq_nil_iff]
    intro i hi hkeeps
    obtain ⟨c, hc, rfl⟩ := List.mem_map.1 hi
    exact (keeps_iff.1 hkeeps).2 (List.mem_map.2 ⟨c, hc, rfl⟩)
  have hagain : (keptImports r.components (Storyboard.ofPrevious previous) r.options).filter
      (fun i => r.keeps previous i.name) =
        keptImports r.components (Storyboard.ofPrevious previous) r.options := by
    rw [keptImports_eq, List.filter_filter]
    simp
  rw [hkept, himports, filter_distinctBy (r.keeps previous), List.filter_append, List.filter_append,
    hcomponents, hagain, List.nil_append, distinctBy_append,
    distinctBy_eq_self (nodup_name_keptImports ..)]
  refine ⟨_, rfl, ?_⟩
  rw [importsNothingNew_iff himports]
  simp only [List.filter_eq_nil_iff, decide_eq_true_eq, not_not]
  constructor
  · intro h i hi hkeeps
    have hmem : i.name ∈ (distinctBy ImportLine.name
        (others.filter fun i => r.keeps previous i.name)).map (·.name) :=
      mem_map_distinctBy.2 (List.mem_map.2 ⟨i, List.mem_filter.2 ⟨hi, hkeeps⟩, rfl⟩)
    obtain ⟨j, hj, hji⟩ := List.mem_map.1 hmem
    exact hji ▸ h j hj
  · intro h i hi
    obtain ⟨hi, hkeeps⟩ := List.mem_filter.1 ((distinctBy_sublist _).subset hi)
    exact h i hi hkeeps

/-! ## The text of the next round -/

/-- Further lines change the text unless there are none. -/
private theorem render_append_eq_iff {scenes : List PlacedScene} {components : List Component}
    {importPrefix : String} {lines lines' : List String} :
    render scenes components importPrefix (lines ++ lines') =
      render scenes components importPrefix lines ↔ lines' = [] := by
  constructor
  · intro h
    -- a further line makes the text longer
    have hlength := congrArg (fun text => text.toList.length) h
    simp only [render, String.toList_append, String.toList_join, List.map_append,
      List.flatMap_append, List.length_append] at hlength
    cases lines' with
    | nil => rfl
    | cons line lines' =>
      have hline : (line ++ "\n").toList.length = line.toList.length + 1 := by
        rw [String.toList_append, List.length_append]
        rfl
      rw [List.map_cons, List.flatMap_cons, List.length_append, hline] at hlength
      omega
  · rintro rfl
    rw [List.append_nil]

/-- A second run gives the same text unless it imports something new. -/
private theorem text_again_of_preserve (hsound : r.IsSound previous)
    (hpreserve : r.options.preserveExisting) (hids : (r.components.map (·.sceneId)).Nodup)
    (hspacing : 1 ≤ r.settings.spacing) (hone : r.HasOneOfEach previous) :
    (r.generate (some (r.generate previous).text)).text = (r.generate previous).text ↔
      r.ImportsNothingNew previous := by
  obtain ⟨extra, hkept, hextra⟩ := exists_keptImports_again hsound hpreserve hids
  -- the scenes are written in the same way, so only the imports can differ
  have hscenes : ((r.generate previous).layout.scenes.map (·.again r.components)).map
      (·.text r.components) = (r.generate previous).layout.scenes.map (·.text r.components) := by
    rw [List.map_map]
    exact List.map_congr_left fun p _ => PlacedScene.text_again
  have hnext : (r.generate (some (r.generate previous).text)).text =
      render (r.generate previous).layout.scenes r.components r.importPrefix
        ((keptImports r.components (Storyboard.ofPrevious previous) r.options).map (·.line) ++
          extra.map (·.line)) := by
    rw [text_generate, layout_again hpreserve hids hsound hspacing hone, render, hscenes, render,
      ← List.map_append, ← hkept]
    rfl
  rw [hnext, text_generate, render_append_eq_iff, List.map_eq_nil_iff, hextra]

/-- Where scenes are not preserved the previous text does not matter. -/
private theorem text_eq_of_not_preserve (hpreserve : r.options.preserveExisting = false)
    (previous' : Option String) : (r.generate previous').text = (r.generate previous).text := by
  -- without preserving nothing of the previous text is used
  have hdraft : Draft.ofPlan (reconcile r.components (Storyboard.ofPrevious previous') r.options)
      r.components =
        Draft.ofPlan (reconcile r.components (Storyboard.ofPrevious previous) r.options)
          r.components := by
    simp only [Draft.ofPlan, reconcile, hpreserve, Bool.false_eq_true, if_false]
  have hkept (previous : Option String) :
      keptImports r.components (Storyboard.ofPrevious previous) r.options = [] := by
    simp [keptImports, reconcile, hpreserve, Storyboard.empty]
  rw [text_generate, text_generate, layout_generate, layout_generate, layoutOf, layoutOf,
    Layout.place, Layout.place, hdraft, hkept, hkept]

/-- The text of the next round is the same exactly if the text of no scene reads as an import that
is new and that a retained scene refers to. -/
theorem text_again_eq_iff (hsound : r.IsSound previous)
    (hids : (r.components.map (·.sceneId)).Nodup) (hspacing : 1 ≤ r.settings.spacing)
    (hone : r.HasOneOfEach previous) :
    (r.generate (some (r.generate previous).text)).text = (r.generate previous).text ↔
      r.ImportsNothingNew previous := by
  cases hpreserve : r.options.preserveExisting with
  | true => exact text_again_of_preserve hsound hpreserve hids hspacing hone
  | false =>
    -- nothing is retained, so there is nothing to import for
    have hretained : (r.generate previous).plan.retained = [] := by
      simp [generate, SceneBoard.generate, reconcile, hpreserve, Storyboard.empty]
    have hnothing : r.ImportsNothingNew previous := by
      intro i _ hrefers
      obtain ⟨s, hs, _⟩ := hrefers
      rw [hretained] at hs
      simp at hs
    exact ⟨fun _ => hnothing, fun _ => text_eq_of_not_preserve hpreserve _⟩

/-- A text in which no scene has a line that can be taken for an import imports nothing new. -/
theorem importsNothingNew_of_isImportFree (hsound : r.IsSound previous)
    (hfree : ∀ p ∈ (r.generate previous).layout.scenes, IsImportFree r.components p) :
    r.ImportsNothingNew previous := by
  intro i hi _
  obtain ⟨others, himports, hnone⟩ := hsound.exists_imports_parse
  rw [himports, hnone hfree, List.append_nil] at hi
  rcases List.mem_append.1 ((distinctBy_sublist _).subset hi) with hi | hi
  · obtain ⟨c, hc, rfl⟩ := List.mem_map.1 hi
    exact .inl (List.mem_map.2 ⟨c, hc, rfl⟩)
  · exact .inr (mem_map_name_keptImports.1 (List.mem_map.2 ⟨i, hi, rfl⟩)).1

/-- A round on the text of the same round before finds nothing to do: no component is without a
scene, no scene goes or moves, and the text is the same unless it imports something new. -/
theorem generate_again (hsound : r.IsSound previous) (hids : (r.components.map (·.sceneId)).Nodup)
    (hspacing : 1 ≤ r.settings.spacing) (hone : r.HasOneOfEach previous) :
    ((r.generate (some (r.generate previous).text)).text = (r.generate previous).text ↔
      r.ImportsNothingNew previous) ∧
    (r.options.preserveExisting →
      (r.generate (some (r.generate previous).text)).plan.pending = [] ∧
      (r.generate (some (r.generate previous).text)).plan.pruned = [] ∧
      (r.generate (some (r.generate previous).text)).plan.superseded = [] ∧
      (r.generate (some (r.generate previous).text)).layout.relocations = [] ∧
      (r.generate (some (r.generate previous).text)).layout.repositioned = 0) := by
  refine ⟨text_again_eq_iff hsound hids hspacing hone, fun hpreserve => ?_⟩
  -- the second plan is settled, and its layout has no relocation
  obtain ⟨orphans, -, -, hsettled⟩ := exists_isSettled hsound hpreserve hids
  have hlayout := layout_again hpreserve hids hsound hspacing hone
  exact ⟨hsettled.pending_eq hpreserve, hsettled.pruned_eq hpreserve,
    hsettled.superseded_eq hpreserve, congrArg Layout.relocations hlayout,
    congrArg Layout.repositioned hlayout⟩

/-- A note that the first round moves to the beginning of the top row, beside a new card. -/
theorem text_again_card_and_note :
    let text := "<Scene id='note' commentId='n' style=\x7b\x7bwidth: 9, height: 9, left: 5, " ++
      "top: 128\x7d\x7d data-label='My note'>text</Scene>"
    let card : Component := ⟨"Card", "components/Card.tsx", .component, true, false, none⟩
    let r : Round := ⟨[card], {}, {}, "../src"⟩
    (r.generate (some (r.generate (some text)).text)).text = (r.generate (some text)).text := by
  intro text card r
  have hread : Storyboard.ofPrevious (some text) =
      ⟨[⟨"note", ⟨⟨9, 9⟩, 5, 128⟩, "My note", none, "text"⟩], []⟩ := by decide +kernel
  have hlayout : (r.generate (some text)).layout.scenes =
      [⟨⟨"card-scene", ⟨⟨700, 700⟩, 212, 1584⟩, "Card", some "Card", ""⟩, .placed "Card"⟩,
        ⟨⟨"note", ⟨⟨9, 9⟩, 212, 128⟩, "My note", none, "text"⟩, .retained ⟨⟨9, 9⟩, 5, 128⟩⟩] := by
    rw [layout_generate, hread]
    decide +kernel
  have hsound : r.IsSound (some text) := by
    refine ⟨by decide, by decide +kernel, by simp [hread], ?_⟩
    rw [hlayout]
    decide +kernel
  have hone : r.HasOneOfEach (some text) := by
    rw [HasOneOfEach, hlayout]
    decide +kernel
  have hfree : ∀ p ∈ (r.generate (some text)).layout.scenes, IsImportFree r.components p := by
    rw [hlayout]
    decide +kernel
  exact (generate_again hsound (by decide +kernel) (by decide) hone).1.2
    (importsNothingNew_of_isImportFree hsound hfree)

/-- An id with a line feed can bring a new import into the text, which the next round keeps. -/
theorem not_text_again_of_line_feed : ¬ ∀ (r : Round) (previous : Option String),
    r.IsSound previous → (r.components.map (·.sceneId)).Nodup → 1 ≤ r.settings.spacing →
    r.HasOneOfEach previous →
    (r.generate (some (r.generate previous).text)).text = (r.generate previous).text := by
  intro h
  let r : Round := ⟨[], {}, {}, ""⟩
  let text := "<Scene id='\nimport Foo from ' commentId='a' style=\x7b\x7bwidth: 1, height: 1, " ++
    "left: 0, top: 0\x7d\x7d data-label='L'>component=\x7bFoo\x7d</Scene>"
  have hread : Storyboard.ofPrevious (some text) = ⟨[lineFeedScene.scene], []⟩ := by decide +kernel
  have hlayout : (r.generate (some text)).layout.scenes = [lineFeedScene] := by
    rw [layout_generate, hread]
    decide +kernel
  have hsound : r.IsSound (some text) := by
    refine ⟨by decide, by simp [r], by simp [hread], ?_⟩
    rw [hlayout]
    decide +kernel
  have hone : r.HasOneOfEach (some text) := by
    rw [HasOneOfEach, hlayout]
    decide +kernel
  have htext : (r.generate (some text)).text = render [lineFeedScene] [] "" [] := by
    rw [text_generate, hlayout, hread]
    rfl
  have hretained : (r.generate (some text)).plan.retained = [lineFeedScene.scene] := by
    have hplan : (r.generate (some text)).plan =
        reconcile r.components (Storyboard.ofPrevious (some text)) r.options := rfl
    rw [hplan, hread]
    decide +kernel
  -- `Foo` is no component and was not imported before, but the scene refers to it
  have hnothing := (text_again_eq_iff hsound (by simp [r]) (by decide) hone).1
    (h r (some text) hsound (by simp [r]) (by decide) hone)
  rw [ImportsNothingNew, htext, imports_lineFeedScene, hretained, hread] at hnothing
  have hfoo : "Foo" ∈ Body.references lineFeedScene.scene.body := by decide +kernel
  simpa [r] using hnothing _ (List.mem_singleton_self _) ⟨_, List.mem_singleton_self _, hfoo⟩

end Round

end SceneBoard
