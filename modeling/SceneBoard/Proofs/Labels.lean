import SceneBoard.Proofs.Conservation
import SceneBoard.Proofs.Readable

/-!
# Labels of new scenes

Where there was no storyboard before, every component gets a new scene, and its label is made of the
name of the component, the name of its folder and the settings (`Component.newLabel`). Labels are
written between quotes as they are. So one is read back unless it is empty or has a quote in it,
whatever else it holds (`Round.labels_parse_text_iff`); only a label that opens an attribute is a
matter of what follows it, and nothing is said of it here. The name of a folder may have a quote, so
labels are not always read back (`not_labels_parse_text`).

## Key results

- `IsNewLabel.eq_newLabel`: the label that a stage gives to a component
- `forall₂_layoutOf_empty`: the scenes of a first layout, one for each component
- `Round.labels_parse_text_iff`: which labels are read back
-/

namespace SceneBoard

open Plan Draft Storyboard Text

/-! ## The label of a component -/

/-- The label of a new scene of a component: that of the settings for the application, and otherwise
the name of the component, with its folder if it stands in the column of one. -/
def Component.newLabel (c : Component) (settings : LayoutSettings) : String :=
  if c.name = playgroundName then playgroundName
  else if c.name = appName then settings.appLabel
  else match c.category with
    | .folder f => c.name ++ " (" ++ f ++ ")"
    | .component | .page => c.name

section

variable {settings : LayoutSettings} {c : Component}

/-- There is one label that a new scene can have. -/
theorem Draft.IsNewLabel.eq_newLabel {label : String}
    (h : IsNewLabel settings c label) : label = c.newLabel settings := by
  unfold Component.newLabel
  -- an anchor, a component without a sub-folder, one with a sub-folder
  cases h with
  | playground h => rw [if_pos h]
  | app h =>
    rw [if_neg (by rw [h]; decide), if_pos h]
  | name h hfolder =>
    rw [Component.IsAnchor, not_or] at h
    rw [if_neg h.1, if_neg h.2]
    split
    · rename_i f hf
      exact absurd hf (hfolder f)
    · rfl
    · rfl
  | folder h hfolder =>
    rw [Component.IsAnchor, not_or] at h
    rw [if_neg h.1, if_neg h.2, hfolder]

end

/-! ## A first layout -/

/-- A new scene of a component, with the id that it owns or that id and a number. -/
structure IsNewSceneOf (settings : LayoutSettings) (c : Component) (p : PlacedScene) : Prop where
  origin : p.origin = .placed c.name
  label : p.scene.label = c.newLabel settings
  id : p.scene.id = c.sceneId ∨ ∃ n, p.scene.id = numberedId c.sceneId n

section

variable {components : List Component} {options : ReconcileOptions} {settings : LayoutSettings}

/-- Without scenes of before there is a new scene for each component, in their order, and nothing
else. -/
theorem forall₂_layoutOf_empty (hnames : (components.map (·.name)).Nodup) :
    List.Forall₂ (IsNewSceneOf settings) components
      (layoutOf components .empty options settings).scenes := by
  obtain ⟨f, hf⟩ := @exists_isSplitBy components .empty options (.of_map _ hnames)
  -- there is no scene that a component could have had, nor one that is left over
  have hnew : ∀ c ∈ components, f c = none := by
    intro c hc
    cases hs : f c with
    | none => rfl
    | some s =>
      obtain ⟨-, -, s, hs, -⟩ := exists_of_mem_kept (hf.mem_kept hc hs)
      simp [Storyboard.empty] at hs
  have horphans : orphanScenes components .empty options settings = [] := by
    rw [List.eq_nil_iff_forall_not_mem]
    intro p hp
    obtain ⟨s, hs, -⟩ := exists_of_mem_orphanScenes hp
    simpa [Storyboard.empty] using retained_sublist.subset hs
  have hsame := forall₂_numbered_distinctIds (liveScenes components .empty options settings ++
    orphanScenes components .empty options settings)
  rw [← scenes_layoutOf, horphans, List.append_nil, liveScenes_eq hnames hf,
    List.forall₂_map_left_iff] at hsame
  refine ((List.forall₂_and_left _ _).2 ⟨fun c hc => hc, hsame⟩).imp fun c p hrelated => ?_
  obtain ⟨hc, hp, hid⟩ := hrelated
  obtain ⟨box, label, hlabel, hlive⟩ :=
    @liveScene_of_none components .empty options settings c f hnames hf hc (hnew c hc)
  rw [hlive] at hp hid
  rw [hp]
  exact ⟨rfl, hlabel.eq_newLabel, hid⟩

end

/-! ## Labels that are read back -/

namespace Round

variable {r : Round}

/-- The text of a first storyboard, which has the imports of components only. -/
private theorem text_generate_none : (r.generate none).text =
    render (r.generate none).layout.scenes r.components r.importPrefix
      (([] : List ImportLine).map (·.line)) := by
  have hkept : keptImports r.components .empty r.options = [] := by
    simp [keptImports, Storyboard.empty]
  rw [text_generate, ← hkept]
  rfl

section

variable (hnames : (r.components.map (·.name)).Nodup)
  (hcomponents : ∀ c ∈ r.components, IsImportName c.name.toList)
  (hpaths : ∀ c ∈ r.components, ¬ "<Scene".toList <:+: (c.specifier r.importPrefix).toList)
  (hboxes : ∀ p ∈ (r.generate none).layout.scenes, p.scene.box.InRange)

include hnames

/-- Every scene of a first run is the new scene of a component. -/
theorem exists_isNewSceneOf {p : PlacedScene} (hp : p ∈ (r.generate none).layout.scenes) :
    ∃ c ∈ r.components, IsNewSceneOf r.settings c p :=
  exists_of_mem_forall₂ (forall₂_layoutOf_empty hnames) hp

include hcomponents hpaths hboxes

/-- The scenes of a first storyboard are read back if all labels can be written. -/
theorem scenes_parse_text_of_isLabel
    (hlabels : ∀ c ∈ r.components, IsLabel (c.newLabel r.settings).toList) :
    (parse (r.generate none).text).scenes =
      (r.generate none).layout.scenes.map (·.asWritten r.components) := by
  rw [text_generate_none]
  refine scenes_parse_render_of_not_infix (nodup_distinctIds _) (fun p hp => ?_) ?_
  · obtain ⟨c, hc, hnew⟩ := exists_isNewSceneOf hnames hp
    -- a derived id, possibly with a number, is safe
    have hid : IsSafe p.scene.id.toList := by
      rcases hnew.id with hid | ⟨n, hid⟩
      · exact hid ▸ isSafe_sceneId (hcomponents c hc)
      · exact hid ▸ isSafe_numberedId n (isSafe_sceneId (hcomponents c hc))
    refine ⟨hid, hnew.label ▸ hlabels c hc, hboxes p hp, ?_⟩
    rw [template_of_component? hnames hc (by rw [hnew.origin]; rfl)]
    exact Template.not_infix_ofComponent (hcomponents c hc)
  · intro i hi
    rw [List.append_nil] at hi
    obtain ⟨c, hc, rfl⟩ := List.mem_map.1 hi
    exact not_infix_asImport (hcomponents c hc) (hpaths c hc)

end

/-- Every scene of a first storyboard is read back under its id and with its label if and only if no
label is empty or has a quote. This holds whatever else is in the labels, as long as none of them
opens an attribute. -/
theorem labels_parse_text_iff (r : Round) (hnames : (r.components.map (·.name)).Nodup)
    (hcomponents : ∀ c ∈ r.components, IsImportName c.name.toList)
    (hpaths : ∀ c ∈ r.components, ¬ "<Scene".toList <:+: (c.specifier r.importPrefix).toList)
    (hboxes : ∀ p ∈ (r.generate none).layout.scenes, p.scene.box.InRange)
    (hclosed : ∀ c ∈ r.components, ¬ OpensAttribute (c.newLabel r.settings).toList) :
    (∀ p ∈ (r.generate none).layout.scenes, ∃ s ∈ (parse (r.generate none).text).scenes,
        s.id = p.scene.id ∧ s.label = p.scene.label) ↔
      ∀ c ∈ r.components, c.newLabel r.settings ≠ "" ∧ '\x27' ∉ (c.newLabel r.settings).toList := by
  constructor
  · -- whatever is read as a label has a character and no quote
    intro h c hc
    obtain ⟨p, hp, hnew⟩ := exists_of_mem_forall₂
      (@forall₂_layoutOf_empty r.components r.options r.settings hnames).flip hc
    obtain ⟨s, hs, -, hlabel⟩ := h p hp
    have hread := @label_of_mem (some (r.generate none).text) s hs
    rw [hlabel, hnew.label] at hread
    exact ⟨fun hempty => hread.1 (by rw [hempty]; rfl), hread.2⟩
  · -- a label without a quote is read back whole
    intro h p hp
    have hlabels : ∀ c ∈ r.components, IsLabel (c.newLabel r.settings).toList := fun c hc =>
      ⟨fun hempty => (h c hc).1 (String.toList_eq_nil_iff.1 hempty), (h c hc).2, hclosed c hc⟩
    refine ⟨p.asWritten r.components, ?_, rfl, rfl⟩
    rw [scenes_parse_text_of_isLabel hnames hcomponents hpaths hboxes hlabels]
    exact List.mem_map_of_mem hp

/-- A folder and an application whose labels hold the signs of tags and attributes. -/
theorem labels_parse_text_signs :
    let r : Round :=
      ⟨[⟨"Card", "components/a=b <c>/Card.tsx", .folder "a=b <c>", true, false, none⟩,
        ⟨"App", "App.tsx", .page, true, false, none⟩], {}, { appLabel := "1 > 0" }, "../src"⟩
    (r.components.map (·.name)).Nodup ∧ (∀ c ∈ r.components, IsImportName c.name.toList) ∧
      (∀ c ∈ r.components, ¬ "<Scene".toList <:+: (c.specifier r.importPrefix).toList) ∧
      (∀ p ∈ (r.generate none).layout.scenes, p.scene.box.InRange) ∧
      (∀ c ∈ r.components, ¬ OpensAttribute (c.newLabel r.settings).toList) ∧
      ∀ p ∈ (r.generate none).layout.scenes, ∃ s ∈ (parse (r.generate none).text).scenes,
        s.id = p.scene.id ∧ s.label = p.scene.label := by
  intro r
  have hnames : (r.components.map (·.name)).Nodup := by decide
  have hcomponents : ∀ c ∈ r.components, IsImportName c.name.toList := by decide +kernel
  have hpaths : ∀ c ∈ r.components, ¬ "<Scene".toList <:+: (c.specifier r.importPrefix).toList := by
    decide +kernel
  have hboxes : ∀ p ∈ (r.generate none).layout.scenes, p.scene.box.InRange := by decide +kernel
  have hclosed : ∀ c ∈ r.components, ¬ OpensAttribute (c.newLabel r.settings).toList := by
    decide +kernel
  exact ⟨hnames, hcomponents, hpaths, hboxes, hclosed,
    (labels_parse_text_iff r hnames hcomponents hpaths hboxes hclosed).2 (by decide +kernel)⟩

/-- A folder can have a quote in its name, and then the labels of its components are not read
back. -/
theorem not_labels_parse_text : ¬ ∀ r : Round, (r.components.map (·.name)).Nodup →
    (∀ c ∈ r.components, IsImportName c.name.toList) →
    (∀ c ∈ r.components, ∀ f, c.category = .folder f → f ≠ "" ∧ '/' ∉ f.toList) →
    r.settings.problem? = none →
    (∀ p ∈ (r.generate none).layout.scenes, p.scene.box.InRange) →
    ∀ p ∈ (r.generate none).layout.scenes, ∃ s ∈ (parse (r.generate none).text).scenes,
      s.id = p.scene.id ∧ s.label = p.scene.label := by
  intro h
  let r : Round :=
    ⟨[⟨"Card", "components/it's/Card.tsx", .folder "it's", true, false, none⟩], {}, {}, "../src"⟩
  have hfolder : ∀ c ∈ r.components, ∀ f, c.category = .folder f → f ≠ "" ∧ '/' ∉ f.toList := by
    rintro c hc f hf
    obtain rfl := List.mem_singleton.1 hc
    obtain rfl := Category.folder.inj hf
    decide
  obtain ⟨p, hp, hlabel⟩ : ∃ p ∈ (r.generate none).layout.scenes,
      p.scene.label = "Card (it's)" := by
    decide +kernel
  obtain ⟨s, hs, -, hsame⟩ := h r (by decide) (by decide +kernel) hfolder (by decide)
    (by decide +kernel) p hp
  -- no label that was read has a quote
  have hquote := (@label_of_mem (some (r.generate none).text) s hs).2
  rw [hsame, hlabel] at hquote
  exact absurd hquote (by decide)

end Round

end SceneBoard
