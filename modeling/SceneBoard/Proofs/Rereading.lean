import SceneBoard.Proofs.ImportSearch
import SceneBoard.Proofs.LayoutScenes
import SceneBoard.Proofs.PreviousScenes
import SceneBoard.Proofs.RoundTrip

/-!
# Reading a generated storyboard

What a generation writes can be read again. The bodies that it writes never hold a closing tag of a
scene: the templates of components do not (`not_infix_ofComponent`), and a body that was read ends
before the first one. So the scenes of the layout are read back as they were written
(`Round.IsSound.scenes_parse`), provided that their ids, labels and boxes can be read at all.

## Key results

- `template_of_mem_layout`: a scene has the template of a component or the body of a retained scene
- `Round.isWritable_of_mem_layout`: the scenes of a layout can be written so that they are read back
- `Round.IsSound.scenes_parse`: the scenes that a generation writes are read back
- `Round.IsSound.exists_imports_parse`: so are its imports, before whatever else reads as an import
-/

namespace SceneBoard

open Plan Draft Storyboard Text

/-! ## Bodies of templates -/

namespace Template

/-- The body of a template are its lines, each indented and ended by a line feed. -/
theorem toList_body {t : Template} (h : ∀ body, t ≠ .verbatim body) :
    t.body.toList = "\n".toList ++ ((t.lines.flatMap fun line =>
      "      ".toList ++ (line.toList ++ "\n".toList)) ++ "    ".toList) := by
  have hbody : t.body = "\n" ++ String.join (t.lines.map fun line => "      " ++ line ++ "\n") ++
      "    " := by
    unfold body
    split
    · exact absurd rfl (h _)
    · rfl
  rw [hbody, String.toList_append, String.toList_append, String.toList_join, List.flatMap_map]
  simp only [String.toList_append, List.append_assoc]

/-- A text without a closing tag, if none of its lines has one. -/
private theorem clear_lines {lines : List String} {v : List Char}
    (h : ∀ line ∈ lines, ¬ "</Scene>".toList <:+: line.toList) :
    Clear "</Scene>".toList (lines.flatMap fun line =>
      "      ".toList ++ (line.toList ++ "\n".toList)) v := by
  -- by induction on the lines: a closing tag would stand in the first or behind it
  induction lines with
  | nil => exact clear_nil _ _
  | cons line lines ih =>
    rw [List.flatMap_cons, clear_append]
    refine ⟨?_, ih fun l hl => h l (by simp [hl])⟩
    -- the line feed behind a line does not continue a tag
    have hend : ∀ x ∈ ("\n".toList ++ ((lines.flatMap fun line =>
        "      ".toList ++ (line.toList ++ "\n".toList)) ++ v)).head?, x ∉ "</Scene>".toList := by
      intro x hx
      obtain rfl : '\n' = x := Option.some.inj hx
      decide
    refine clear_append.2 ⟨clear_of_apart (by decide), clear_append.2 ⟨?_, ?_⟩⟩
    · exact clear_of_not_infix_of_head (h line (by simp)) hend
    · exact clear_of_apart (by decide)

/-- A body has no closing tag when none of its lines has one. -/
private theorem not_infix_body {t : Template} (ht : ∀ body, t ≠ .verbatim body)
    (h : ∀ line ∈ t.lines, ¬ "</Scene>".toList <:+: line.toList) :
    ¬ "</Scene>".toList <:+: t.body.toList := by
  have hclear : Clear "</Scene>".toList t.body.toList [] := by
    rw [toList_body ht]
    refine clear_append.2 ⟨clear_of_apart (by decide), clear_append.2 ⟨clear_lines h, ?_⟩⟩
    exact clear_of_apart (by decide)
  exact not_infix_of_clear (by decide) hclear

/-- A tag that closes itself is no closing tag of a scene. -/
private theorem not_infix_tag {name : String} {rest : List Char} (hname : IsImportName name.toList)
    (hrest : '<' ∉ rest) : ¬ "</Scene>".toList <:+: '<' :: (name.toList ++ rest) := by
  have hless : '<' ∉ name.toList ++ rest := by
    rw [List.mem_append, not_or]
    exact ⟨not_mem_of_isImportName hname (by decide), hrest⟩
  have hslash : '/' ∉ name.toList := not_mem_of_isImportName hname (by decide)
  rw [List.infix_cons_iff]
  -- a closing tag at the beginning needs a slash behind the sign, and elsewhere another such sign
  rintro (h | h)
  · cases hlist : name.toList with
    | nil => exact absurd (hlist ▸ hname) (by simp [IsImportName])
    | cons x xs =>
      rw [hlist] at h
      obtain rfl : '/' = x := (List.cons_prefix_cons.1 (List.cons_prefix_cons.1 h).2).1
      simp [hlist] at hslash
  · exact hless (h.subset (by decide))

/-- The template of a component does not hold a closing tag of a scene. -/
theorem not_infix_ofComponent {c : Component} (hname : IsImportName c.name.toList) :
    ¬ "</Scene>".toList <:+: (ofComponent c).body.toList := by
  have hfixed {t : Template} (ht : t ∈ [app, pageLayout, tag, button, caseStudyDetail, playground]) :
      ∀ line ∈ t.lines, ¬ "</Scene>".toList <:+: line.toList := by
    have hall : ∀ t ∈ [app, pageLayout, tag, button, caseStudyDetail, playground],
        ∀ line ∈ t.lines, contains "</Scene>".toList line.toList = false := by decide +kernel
    intro line hline h
    rw [← contains_iff, hall t ht line hline] at h
    simp at h
  -- the fixed templates are looked through; the others have one line with the name in a tag
  refine not_infix_body (fun body => ?_) ?_
  · unfold ofComponent
    split_ifs <;> simp
  · unfold ofComponent
    split_ifs
    iterate 6 exact hfixed (by simp)
    · intro line hline
      obtain rfl := List.mem_singleton.1 hline
      rw [String.toList_append, String.toList_append]
      exact not_infix_tag hname (by decide)
    · intro line hline
      obtain rfl := List.mem_singleton.1 hline
      rw [String.toList_append, String.toList_append]
      exact not_infix_tag hname (by decide)

end Template

/-! ## Bodies that are written -/

section

variable {components : List Component} {prior : Storyboard} {options : ReconcileOptions}
  {settings : LayoutSettings} {p : PlacedScene}

/-- The template of a scene of a live component is that of the component. -/
theorem template_of_component? {c : Component} (hnames : (components.map (·.name)).Nodup)
    (hc : c ∈ components) (hp : p.origin.component? = some c.name) :
    p.template components = .ofComponent c := by
  rw [PlacedScene.template, hp, Option.bind_some, named?_eq hnames hc]

/-- A scene of a layout has the template of a component or the body of a retained scene. -/
theorem template_of_mem_layout (hnames : (components.map (·.name)).Nodup)
    (h : p ∈ (layoutOf components prior options settings).scenes) :
    (∃ c ∈ components, p.template components = .ofComponent c) ∨
      ∃ s ∈ (reconcile components prior options).retained,
        p.template components = .verbatim s.body := by
  obtain ⟨q, hq, hpq⟩ := exists_of_mem_forall₂ (forall₂_distinctIds _) h
  -- of a live component, kept or new, or of a retained scene
  rcases List.mem_append.1 hq with hq | hq
  · obtain ⟨left, ⟨b, hb, rfl⟩ | ⟨c, hc, box, label, -, rfl⟩⟩ := exists_of_mem_liveScenes hq
    · obtain ⟨c, hc, s, -, -, hname, -⟩ := exists_of_mem_kept hb
      refine .inl ⟨c, hc, template_of_component? hnames hc ?_⟩
      rw [hpq, ← hname]
      rfl
    · refine .inl ⟨c, hc, template_of_component? hnames hc ?_⟩
      rw [hpq]
      rfl
  · obtain ⟨s, hs, left, rfl⟩ := exists_of_mem_orphanScenes hq
    refine .inr ⟨s, hs, ?_⟩
    rw [hpq]
    rfl

end

/-! ## Imports that are kept -/

section

variable (components : List Component) (prior : Storyboard) (options : ReconcileOptions)

/-- The imports of before that retained scenes still need. -/
def keptImports : List ImportLine :=
  prior.imports.filter fun i =>
    ((reconcile components prior options).retained.flatMap fun s => Body.references s.body).contains
      i.name && !(components.map (·.name)).contains i.name

variable {components prior options} in
/-- An import is kept if a retained scene refers to its name and no component has it. -/
theorem mem_keptImports_iff {i : ImportLine} : i ∈ keptImports components prior options ↔
    i ∈ prior.imports ∧
      (∃ s ∈ (reconcile components prior options).retained, i.name ∈ Body.references s.body) ∧
      i.name ∉ components.map (·.name) := by
  simp only [keptImports, List.mem_filter, Bool.and_eq_true, List.contains_iff_mem,
    List.mem_flatMap, Bool.not_eq_true', Bool.eq_false_iff, Ne]

/-- Scenes that refer to nothing need no imports. -/
theorem keptImports_eq_nil (h : ∀ s ∈ (reconcile components prior options).retained,
    Body.references s.body = []) : keptImports components prior options = [] := by
  rw [List.eq_nil_iff_forall_not_mem]
  intro i hi
  obtain ⟨-, ⟨s, hs, hrefers⟩, -⟩ := mem_keptImports_iff.1 hi
  rw [h s hs] at hrefers
  simp at hrefers

/-- The plan hands on the lines of the imports that are kept. -/
theorem retainedImports_reconcile : (reconcile components prior options).retainedImports =
    (keptImports components prior options).map (·.line) := by
  by_cases hpreserve : options.preserveExisting
  · simp only [keptImports, reconcile, importsFor, hpreserve, if_true]
  · simp [keptImports, reconcile, importsFor, hpreserve, Storyboard.empty]

/-- No name is imported twice. -/
theorem nodup_name_keptImports {previous : Option String} :
    ((keptImports components (Storyboard.ofPrevious previous) options).map (·.name)).Nodup := by
  refine List.Nodup.sublist (List.filter_sublist.map _) ?_
  cases previous with
  | none => exact .nil
  | some text => exact nodup_map_distinctBy _

end

/-! ## What is read back -/

/-- A placed scene whose id, label and box can be read. -/
structure PlacedScene.IsReadable (p : PlacedScene) : Prop where
  id : IsSafe p.scene.id.toList
  label : IsSafe p.scene.label.toList
  box : p.scene.box.InRange

instance (p : PlacedScene) : Decidable p.IsReadable :=
  decidable_of_iff (IsSafe p.scene.id.toList ∧ IsSafe p.scene.label.toList ∧ p.scene.box.InRange)
    ⟨fun h => ⟨h.1, h.2.1, h.2.2⟩, fun h => ⟨h.id, h.label, h.box⟩⟩

/-- What goes into one generation besides the previous text. -/
structure Round where
  components : List Component
  options : ReconcileOptions
  settings : LayoutSettings
  importPrefix : String

namespace Round

/-- The generation of a round. -/
def generate (r : Round) (previous : Option String) : Generation :=
  SceneBoard.generate r.components previous r.options r.settings r.importPrefix

/-- A round whose text can be read again. -/
structure IsSound (r : Round) (previous : Option String) : Prop where
  names : (r.components.map (·.name)).Nodup
  components : ∀ c ∈ r.components, c.IsImportable r.importPrefix
  imports : ∀ i ∈ (Storyboard.ofPrevious previous).imports, '<' ∉ i.line.toList
  scenes : ∀ p ∈ (r.generate previous).layout.scenes, p.IsReadable

variable {r : Round} {previous : Option String}

/-- The layout of a round is that of the plan from the previous text. -/
theorem layout_generate : (r.generate previous).layout =
    layoutOf r.components (Storyboard.ofPrevious previous) r.options r.settings :=
  rfl

/-- The text of a round is its layout with the imports that are kept. -/
theorem text_generate : (r.generate previous).text =
    render (r.generate previous).layout.scenes r.components r.importPrefix
      ((keptImports r.components (Storyboard.ofPrevious previous) r.options).map (·.line)) := by
  rw [← retainedImports_reconcile]
  rfl

section

variable (hnames : (r.components.map (·.name)).Nodup)
  (hcomponents : ∀ c ∈ r.components, c.IsImportable r.importPrefix)
  (hscenes : ∀ p ∈ (r.generate previous).layout.scenes, p.IsReadable)

include hnames hcomponents hscenes

/-- Every scene of the layout can be written so that it is read back. -/
theorem isWritable_of_mem_layout {p : PlacedScene}
    (hp : p ∈ (r.generate previous).layout.scenes) : IsWritable r.components p := by
  have hreadable := hscenes p hp
  -- the template decides what the body is
  refine ⟨hreadable.id, hreadable.label, hreadable.box, ?_⟩
  rw [layout_generate] at hp
  rcases template_of_mem_layout hnames hp with ⟨c, hc, htemplate⟩ | ⟨s, hs, htemplate⟩
  · rw [htemplate]
    exact Template.not_infix_ofComponent (hcomponents c hc).name
  · rw [htemplate]
    exact not_infix_body_of_mem (retained_sublist.subset hs)

/-- The scenes that a round writes are read back if none of the imports that it keeps reads as a
scene. -/
theorem scenes_parse_text (himports : ∀ i ∈ keptImports r.components
    (Storyboard.ofPrevious previous) r.options, '<' ∉ i.line.toList) :
    (parse (r.generate previous).text).scenes =
      (r.generate previous).layout.scenes.map (·.asWritten r.components) := by
  rw [text_generate]
  exact scenes_parse_render (nodup_distinctIds _)
    (fun p hp => isWritable_of_mem_layout hnames hcomponents hscenes hp) hcomponents himports

end

/-- The scenes that a sound round writes are read back. -/
theorem IsSound.scenes_parse (h : r.IsSound previous) :
    (parse (r.generate previous).text).scenes =
      (r.generate previous).layout.scenes.map (·.asWritten r.components) :=
  scenes_parse_text h.names h.components h.scenes fun i hi => h.imports i (List.mem_filter.1 hi).1

/-- The imports that a round writes are read back before whatever else reads as an import. -/
theorem IsSound.exists_imports_parse (h : r.IsSound previous) :
    ∃ others, (parse (r.generate previous).text).imports =
        distinctBy ImportLine.name (r.components.map (·.asImport r.importPrefix) ++
          keptImports r.components (Storyboard.ofPrevious previous) r.options ++ others) ∧
      ((∀ p ∈ (r.generate previous).layout.scenes, IsImportFree r.components p) → others = []) := by
  rw [text_generate]
  -- the imports that are kept were read from the previous text
  refine exists_imports_parse_render _ h.components fun i hi => ?_
  have hmem := (List.mem_filter.1 hi).1
  cases previous with
  | none => simp [Storyboard.ofPrevious, Storyboard.empty] at hmem
  | some text => exact isWhole_of_mem_imports hmem

end Round

end SceneBoard
