import SceneBoard.Proofs.ImportLine
import SceneBoard.Proofs.SceneStyle
import SceneBoard.Storyboard.Printer

/-!
# Reading what was written

The text of a storyboard is a header, the import lines, an opening, the blocks of the scenes and a
closing (`toList_render`). Each of the two patterns of the parser passes over the parts that are not
meant for it. For the scenes this holds of any import lines in which no scene begins; for the
imports it needs that no scene has a line that begins with the keyword, be it in its id, its label
or its body (`IsImportFree`), since the pattern of import lines matches at every line of the text.

## Key results

- `scenes_parse_render_of_not_infix`: the scenes that were written are read back
- `exists_imports_parse_render`: so are the imports, before whatever else reads as an import
- `parse_render`: what is written is read back as a whole
- `imports_lineFeedScene`: an id with a line feed can bring an import into the text
-/

namespace SceneBoard

open Text Text.Pattern

/-! ## The text of a storyboard -/

/-- A scene as it is read from the text that is written for it. -/
def PlacedScene.asWritten (components : List Component) (p : PlacedScene) : Scene :=
  let body := (p.template components).body
  { p.scene with component := Body.component? body, body }

namespace Storyboard

/-- The text of a scene, as the parts that the pattern of blocks reads. -/
private theorem toList_text (components : List Component) (p : PlacedScene) :
    (p.text components).toList = "    ".toList ++ (blockChars p.scene.id.toList
      (boxChars p.scene.box) p.scene.label.toList (p.template components).body.toList ++ ['\n']) := by
  have hdecimal (n : Int) : (decimalString n).toList = decimal n := String.toList_ofList
  -- each piece of the template, cut where the pattern has a part of its own
  have hid : "    <Scene\n      id='".toList = "    ".toList ++ ("<Scene".toList ++
      ("\n      ".toList ++ ("id" ++ "=\x27").toList)) := by decide
  have hcomment : "'\n      commentId='".toList = '\x27' :: ("\n      ".toList ++
      ("commentId" ++ "=\x27").toList) := by decide
  have hwidth : "'\n      style=\x7b\x7b\n        width: ".toList = '\x27' :: ("\n      ".toList ++
      ("style=\x7b\x7b".toList ++ ("\n        ".toList ++ (("width" ++ ":").toList ++ [' '])))) := by
    decide
  have hheight : ",\n        height: ".toList = ',' :: ("\n        ".toList ++
      (("height" ++ ":").toList ++ [' '])) := by decide
  have hleft : ",\n        position: 'absolute',\n        left: ".toList =
      ',' :: ("\n        position: 'absolute',".toList ++ ("\n        ".toList ++
        (("left" ++ ":").toList ++ [' ']))) := by decide
  have htop : ",\n        top: ".toList = ',' :: ("\n        ".toList ++
      (("top" ++ ":").toList ++ [' '])) := by decide
  have hlabel : ",\n      \x7d\x7d\n      data-label='".toList = ',' :: ("\n      ".toList ++
      (['\x7d', '\x7d'] ++ ("\n      ".toList ++ ("data-label" ++ "=\x27").toList))) := by decide
  have hbody : "'\n    >".toList = '\x27' :: ("\n    ".toList ++ ">".toList) := by decide
  have hclose : "</Scene>\n".toList = "</Scene>".toList ++ ['\n'] := by decide
  unfold blockChars attributeChars styleChars boxChars propertyChars PlacedScene.text
  extract_lets scene
  generalize hX : "    ".toList ++ (_ ++ ['\n']) = X
  simp -zeta only [String.toList_append, hdecimal]
  rw [hid, hcomment, hwidth, hheight, hleft, htop, hlabel, hbody, hclose, ← hX]
  -- the pieces of the text are the same, only put together in another order
  generalize "    ".toList = t₁, "<Scene".toList = t₂, "\n      ".toList = t₃,
    ("id" ++ "=\x27").toList = t₄, ("commentId" ++ "=\x27").toList = t₅, "style=\x7b\x7b".toList = t₆,
    "\n        ".toList = t₇, ("width" ++ ":").toList = t₈, ("height" ++ ":").toList = t₉,
    "\n        position: 'absolute',".toList = t₁₀, ("left" ++ ":").toList = t₁₁,
    ("top" ++ ":").toList = t₁₂, ("data-label" ++ "=\x27").toList = t₁₃, "\n    ".toList = t₁₄,
    ">".toList = t₁₅, "</Scene>".toList = t₁₆
  simp [scene]

/-- What stands between the imports and the scenes. -/
private def opening : List Char :=
  "\nexport var storyboard = (\n  <Storyboard>\n".toList

/-- What stands behind the scenes. -/
private def closing : List Char :=
  "  </Storyboard>\n)\n".toList

end Storyboard

/-! ## Imports of components -/

/-- The place from which a component is imported. -/
def Component.specifier (c : Component) (importPrefix : String) : String :=
  String.ofList (importPrefix.toList.reverse.dropWhile (· == '/')).reverse ++ "/" ++ c.modulePath

/-- The import of a component. -/
def Component.asImport (c : Component) (importPrefix : String) : ImportLine :=
  ⟨c.name, c.importLine importPrefix⟩

/-- A component that can be imported. -/
structure Component.IsImportable (c : Component) (importPrefix : String) : Prop where
  name : Storyboard.IsImportName c.name.toList
  quote : '\x27' ∉ (c.specifier importPrefix).toList
  less : '<' ∉ (c.specifier importPrefix).toList

instance (c : Component) (importPrefix : String) : Decidable (c.IsImportable importPrefix) :=
  decidable_of_iff
    (Storyboard.IsImportName c.name.toList ∧ '\x27' ∉ (c.specifier importPrefix).toList ∧
      '<' ∉ (c.specifier importPrefix).toList)
    ⟨fun h => ⟨h.1, h.2.1, h.2.2⟩, fun h => ⟨h.name, h.quote, h.less⟩⟩

namespace Storyboard

/-- The import of a component, as the parts that the pattern of imports reads. -/
private theorem toList_importLine (c : Component) (importPrefix : String) :
    ∃ part, IsNamePart c.name.toList part ∧ (c.importLine importPrefix).toList =
      "import".toList ++ ([' '] ++ (part ++ ([' '] ++ ("from".toList ++ ([' '] ++
        ('\x27' :: ((c.specifier importPrefix).toList ++ '\x27' :: []))))))) := by
  have hfrom : " from '".toList = [' '] ++ ("from".toList ++ ([' '] ++ ['\x27'])) := by decide
  have hquote : "'".toList = ['\x27'] := by decide
  -- a default export is imported by its name, any other in braces
  by_cases hdefault : c.defaultExport
  · refine ⟨_, .default, ?_⟩
    have hline : c.importLine importPrefix =
        "import " ++ c.name ++ " from '" ++ c.specifier importPrefix ++ "'" := if_pos hdefault
    have himport : "import ".toList = "import".toList ++ [' '] := by decide
    rw [hline]
    generalize c.specifier importPrefix = specifier
    simp only [String.toList_append]
    rw [himport, hfrom, hquote]
    generalize "import".toList = t, "from".toList = t'
    simp
  · refine ⟨_, @IsNamePart.named _ [' '] [' '] (by simp [isBlank_space])
      (by simp [isBlank_space]), ?_⟩
    have hline : c.importLine importPrefix =
        "import \x7b " ++ c.name ++ " \x7d from '" ++ c.specifier importPrefix ++ "'" :=
      if_neg hdefault
    have himport : "import \x7b ".toList = "import".toList ++ ([' '] ++ ['\x7b', ' ']) := by decide
    have hclose : " \x7d from '".toList = [' ', '\x7d'] ++ " from '".toList := by decide
    rw [hline]
    generalize c.specifier importPrefix = specifier
    simp only [String.toList_append]
    rw [himport, hclose, hfrom, hquote]
    generalize "import".toList = t, "from".toList = t'
    simp

/-- A text without quotes stands in quotes. -/
private theorem inQuotes_of_not_mem {s : List Char} (h : '\x27' ∉ s) : ∀ x ∈ s, inQuotes x := by
  intro x hx
  simp only [inQuotes, bne_iff_ne]
  rintro rfl
  exact h hx

/-- The import line of a component is of the grammar. -/
theorem isWhole_asImport {c : Component} {importPrefix : String} (h : c.IsImportable importPrefix) :
    IsWhole (c.asImport importPrefix) := by
  obtain ⟨part, hpart, hline⟩ := toList_importLine c importPrefix
  have hgap : IsGap [' '] := ⟨by simp, by simp [isBlank_space]⟩
  have htail : IsLineTail [] := .plain (by simp)
  have hgrammar : IsImportLine c.name.toList (c.importLine importPrefix).toList := by
    rw [hline]
    exact .mk h.name hgap hpart (.mk hgap hgap (inQuotes_of_not_mem h.quote) htail)
  refine ⟨hgrammar, ?_⟩
  -- the line ends with a quote, so there is nothing to trim
  have hend : (c.asImport importPrefix).line.toList =
      ("import".toList ++ ([' '] ++ (part ++ ([' '] ++ ("from".toList ++ ([' '] ++
        ('\x27' :: (c.specifier importPrefix).toList))))))) ++ ['\x27'] := by
    rw [Component.asImport, hline]
    simp only [List.append_assoc, List.cons_append]
  rw [hend]
  exact trimRight_append (by decide) (by simp)

/-- No name between the keywords has a less-than sign. -/
private theorem less_not_mem_namePart {name part : List Char} (hname : IsImportName name)
    (h : IsNamePart name part) : '<' ∉ part := by
  have hless : '<' ∉ name := not_mem_of_isImportName hname (by decide)
  cases h with
  | named hb hb' =>
    simp only [List.mem_cons, List.mem_append, List.not_mem_nil, or_false, not_or]
    refine ⟨by decide, fun hmem => ?_, hless, fun hmem => ?_, by decide⟩
    · exact absurd (hb _ hmem) (by decide)
    · exact absurd (hb' _ hmem) (by decide)
  | default => exact hless

/-- The import line of a component does not hold a less-than sign. -/
theorem less_not_mem_asImport {c : Component} {importPrefix : String}
    (h : c.IsImportable importPrefix) : '<' ∉ (c.asImport importPrefix).line.toList := by
  obtain ⟨part, hpart, hline⟩ := toList_importLine c importPrefix
  have hpart' := less_not_mem_namePart h.name hpart
  rw [Component.asImport, hline]
  simp only [List.mem_cons, List.mem_append, List.not_mem_nil, or_false, not_or]
  exact ⟨by decide, by decide, hpart', by decide, by decide, by decide, by decide, h.less,
    by decide⟩

/-- No scene begins in the import line of a component if none begins in the place from which it is
imported. -/
theorem not_infix_asImport {c : Component} {importPrefix : String}
    (hname : IsImportName c.name.toList)
    (h : ¬ "<Scene".toList <:+: (c.specifier importPrefix).toList) :
    ¬ "<Scene".toList <:+: (c.asImport importPrefix).line.toList := by
  obtain ⟨part, hpart, hline⟩ := toList_importLine c importPrefix
  have hpart' := less_not_mem_namePart hname hpart
  have hspecifier : Clear "<Scene".toList (c.specifier importPrefix).toList ['\x27'] :=
    clear_of_not_infix_of_not_mem h (by decide)
  -- apart from the specifier no part of the line has the beginning of a block
  have hclear : Clear "<Scene".toList (c.importLine importPrefix).toList [] := by
    rw [hline]
    refine clear_append.2 ⟨clear_of_apart (by decide), clear_append.2 ⟨clear_of_apart (by decide), ?_⟩⟩
    refine clear_append.2 ⟨clear_of_head_not_mem hpart', ?_⟩
    refine clear_append.2 ⟨clear_of_apart (by decide), clear_append.2 ⟨clear_of_apart (by decide), ?_⟩⟩
    refine clear_append.2 ⟨clear_of_apart (by decide), ?_⟩
    refine clear_cons.2 ⟨fun hp => absurd (List.cons_prefix_cons.1 hp).1 (by decide), ?_⟩
    exact clear_append.2 ⟨hspecifier, clear_of_apart (by decide)⟩
  exact not_infix_of_clear (by decide) hclear

/-! ## The scenes are read back -/

/-- A placed scene that can be written so that it is read back. -/
structure IsWritable (components : List Component) (p : PlacedScene) : Prop where
  id : IsSafe p.scene.id.toList
  label : IsSafe p.scene.label.toList
  box : p.scene.box.InRange
  body : ¬ "</Scene>".toList <:+: (p.template components).body.toList

instance (components : List Component) (p : PlacedScene) : Decidable (IsWritable components p) :=
  decidable_of_iff
    (IsSafe p.scene.id.toList ∧ IsSafe p.scene.label.toList ∧ p.scene.box.InRange ∧
      ¬ contains "</Scene>".toList (p.template components).body.toList)
    ⟨fun h => ⟨h.1, h.2.1, h.2.2.1, fun hin => h.2.2.2 (contains_iff.2 hin)⟩,
      fun h => ⟨h.id, h.label, h.box, fun hin => h.body (contains_iff.1 hin)⟩⟩

/-- A placed scene whose block is found as a whole. Its label may hold signs that others may not. -/
structure IsReadBack (components : List Component) (p : PlacedScene) : Prop where
  id : IsSafe p.scene.id.toList
  label : IsLabel p.scene.label.toList
  box : p.scene.box.InRange
  body : ¬ "</Scene>".toList <:+: (p.template components).body.toList

/-- What is writable is read back. -/
theorem IsWritable.isReadBack {components : List Component} {p : PlacedScene}
    (h : IsWritable components p) : IsReadBack components p :=
  ⟨h.id, h.label.isLabel, h.box, h.body⟩

private theorem ways_sceneBlock_eq_nil {c : Cursor} (h : ¬ "<Scene".toList <+: c.rest) :
    sceneBlock.ways c = [] := by
  rw [sceneBlock, ways_all_cons (by simp), ways_seq_eq_nil (ways_text_eq_nil h)]

/-- The blocks of the scenes are found one after another, each as its scene. -/
private theorem scan_scenes {components : List Component} {scenes : List PlacedScene} {c d : Cursor}
    (h : c.Reads (scenes.flatMap fun p => (p.text components).toList) d)
    (hscenes : ∀ p ∈ scenes, IsReadBack components p) :
    (sceneBlock.scan c).filterMap scene? =
      scenes.map (·.asWritten components) ++ (sceneBlock.scan d).filterMap scene? := by
  induction scenes generalizing c with
  | nil =>
    obtain rfl := h.eq (.nil c)
    rfl
  | cons p scenes ih =>
    rw [List.flatMap_cons, toList_text] at h
    obtain ⟨c₃, h, hlater⟩ := h.split
    obtain ⟨c₁, h₁, h⟩ := h.split
    obtain ⟨c₂, h₂, h₃⟩ := h.split
    have hp := hscenes p (by simp)
    -- the indentation is passed over, the block is taken, and the line feed is passed over
    obtain ⟨ms, hms, hgroups⟩ :=
      head?_ways_sceneBlock h₂ hp.id (isStyle_boxChars p.scene.box) hp.label hp.body
    obtain ⟨hid, hstyle, hlabel, hbody⟩ := hgroups c₁ c₂
    have hscene : scene? ⟨c₁, c₂, ms⟩ = some (p.asWritten components) := by
      simp [scene?, hid, hstyle, hlabel, hbody, box?_boxChars hp.box, PlacedScene.asWritten]
    have hscan : sceneBlock.scan c = ⟨c₁, c₂, ms⟩ :: sceneBlock.scan c₃ := by
      rw [scan_of_clear (fun e => ways_sceneBlock_eq_nil) h₁ (clear_of_apart (by decide)),
        scan_of_some hms h₂ (List.append_ne_nil_of_left_ne_nil (by decide) _),
        scan_of_clear (fun e => ways_sceneBlock_eq_nil) h₃ (clear_of_apart (by decide))]
    rw [hscan, List.filterMap_cons, hscene, ih hlater fun p hp => hscenes p (by simp [hp])]
    rfl

end Storyboard

/-! ## Whole texts -/

namespace Storyboard

/-- No scene begins in lines if none begins in one of them. -/
private theorem clear_importLines {imports : List ImportLine} {v : List Char}
    (h : ∀ i ∈ imports, ¬ "<Scene".toList <:+: i.line.toList) :
    Clear "<Scene".toList (imports.flatMap fun i => i.line.toList ++ ['\n']) v := by
  induction imports with
  | nil => exact clear_nil _ _
  | cons i imports ih =>
    rw [List.flatMap_cons, clear_append, clear_append]
    exact ⟨⟨clear_of_not_infix_of_not_mem (h i (by simp)) (by decide), clear_of_apart (by decide)⟩,
      ih fun j hj => h j (by simp [hj])⟩

/-- A rendered file is the header, the imports, the opening, the scenes and the closing. -/
private theorem toList_render (scenes : List PlacedScene) (components : List Component)
    (importPrefix : String) (retained : List ImportLine) :
    (render scenes components importPrefix (retained.map (·.line))).toList =
      header.toList ++ (((components.map (·.asImport importPrefix) ++ retained).flatMap
        fun i => i.line.toList ++ ['\n']) ++ (opening ++
          (scenes.flatMap (fun p => (p.text components).toList) ++ closing))) := by
  unfold render opening closing
  have hnewline : "\n".toList = ['\n'] := by decide
  rw [String.toList_append, String.toList_append, String.toList_append, String.toList_append,
    String.toList_append, String.toList_join, String.toList_join, String.toList_join]
  generalize header.toList = t₁, "\nexport var storyboard = (\n  <Storyboard>\n".toList = t₂,
    "  </Storyboard>\n)\n".toList = t₃
  simp [List.flatMap_map, String.toList_append, hnewline, Component.asImport]

/-- What is written is read from its beginning to its end, part by part. -/
private theorem exists_reads_render (scenes : List PlacedScene) (components : List Component)
    (importPrefix : String) (retained : List ImportLine) : ∃ d : Cursor, d.rest = [] ∧
      Cursor.Reads
        ⟨0, none, (render scenes components importPrefix (retained.map (·.line))).toList⟩
        (header.toList ++ (((components.map (·.asImport importPrefix) ++ retained).flatMap
          fun i => i.line.toList ++ ['\n']) ++ (opening ++
            (scenes.flatMap (fun p => (p.text components).toList) ++ closing)))) d := by
  have hlist := toList_render scenes components importPrefix retained
  generalize (render scenes components importPrefix (retained.map (·.line))) = text at hlist ⊢
  obtain ⟨d, h, hd⟩ := Cursor.Reads.ofRest (c := ⟨0, none, text.toList⟩) (v := [])
    (hlist.trans (List.append_nil _).symm)
  exact ⟨d, hd, h⟩

section

variable {scenes : List PlacedScene} {components : List Component} {importPrefix : String}
  {retained : List ImportLine}

/-- The scenes that were written are read back, each with the body that was written for it, if no
scene begins in the imports. -/
theorem scenes_parse_render_of_not_infix (hids : (scenes.map (·.scene.id)).Nodup)
    (hscenes : ∀ p ∈ scenes, IsReadBack components p)
    (himports : ∀ i ∈ components.map (·.asImport importPrefix) ++ retained,
      ¬ "<Scene".toList <:+: i.line.toList) :
    (parse (render scenes components importPrefix (retained.map (·.line)))).scenes =
      scenes.map (·.asWritten components) := by
  obtain ⟨d, hd, h⟩ := exists_reads_render scenes components importPrefix retained
  generalize (render scenes components importPrefix (retained.map (·.line))) = text at h
  -- the header, the imports, the opening and the scenes, each up to where the next one begins
  obtain ⟨c₁, h₁, h⟩ := h.split
  obtain ⟨c₂, h₂, h⟩ := h.split
  obtain ⟨c₃, h₃, h⟩ := h.split
  obtain ⟨c₄, h₄, h₅⟩ := h.split
  -- before the scenes no block begins
  have hscan : sceneBlock.scan ⟨0, none, text.toList⟩ = sceneBlock.scan c₃ := by
    rw [scan_of_clear (fun e => ways_sceneBlock_eq_nil) h₁ (clear_of_head_not_mem (by decide)),
      scan_of_clear (fun e => ways_sceneBlock_eq_nil) h₂ (clear_importLines himports),
      scan_of_clear (fun e => ways_sceneBlock_eq_nil) h₃ (clear_of_apart (by decide))]
  -- behind them none does
  have hend : sceneBlock.scan c₄ = [] := by
    rw [scan_of_clear (fun e => ways_sceneBlock_eq_nil) h₅ (clear_of_apart (by decide))]
    exact scan_of_rest_nil hd (ways_sceneBlock_eq_nil (by rw [hd]; decide))
  rw [parse, findAll_eq_scan, hscan, scan_scenes h₄ hscenes, hend, List.filterMap_nil,
    List.append_nil]
  exact distinctBy_eq_self (by simpa [Function.comp_def, PlacedScene.asWritten] using hids)

/-- No scene begins in the imports if they have no less-than sign. -/
theorem scenes_parse_render (hids : (scenes.map (·.scene.id)).Nodup)
    (hscenes : ∀ p ∈ scenes, IsWritable components p)
    (hcomponents : ∀ c ∈ components, c.IsImportable importPrefix)
    (hretained : ∀ i ∈ retained, '<' ∉ i.line.toList) :
    (parse (render scenes components importPrefix (retained.map (·.line)))).scenes =
      scenes.map (·.asWritten components) := by
  refine scenes_parse_render_of_not_infix hids (fun p hp => (hscenes p hp).isReadBack) ?_
  intro i hi hcontains
  have hless : '<' ∉ i.line.toList := by
    rcases List.mem_append.1 hi with hi | hi
    · obtain ⟨c, hc, rfl⟩ := List.mem_map.1 hi
      exact less_not_mem_asImport (hcomponents c hc)
    · exact hretained i hi
  exact hless (hcontains.subset (by decide))

end

/-! ## The imports are read back -/

/-- A placed scene in whose text no line can be taken for an import. -/
structure IsImportFree (components : List Component) (p : PlacedScene) : Prop where
  id : ¬ "\nimport".toList <:+: p.scene.id.toList
  label : ¬ "\nimport".toList <:+: p.scene.label.toList
  body : ¬ "\nimport".toList <:+: (p.template components).body.toList

instance (components : List Component) (p : PlacedScene) : Decidable (IsImportFree components p) :=
  decidable_of_iff
    (¬ contains "\nimport".toList p.scene.id.toList ∧
      ¬ contains "\nimport".toList p.scene.label.toList ∧
      ¬ contains "\nimport".toList (p.template components).body.toList)
    (by
      simp only [contains_iff]
      exact ⟨fun h => ⟨h.1, h.2.1, h.2.2⟩, fun h => ⟨h.id, h.label, h.body⟩⟩)

/-- No import begins in an attribute whose value has none. -/
private theorem clear_import_attributeChars {name : String} {value v : List Char}
    (hname : apart "\nimport".toList (name ++ "=\x27").toList)
    (hvalue : ¬ "\nimport".toList <:+: value) :
    Clear "\nimport".toList (attributeChars name value) v := by
  unfold attributeChars
  refine clear_append.2 ⟨clear_of_apart (by decide), clear_append.2 ⟨clear_of_apart hname, ?_⟩⟩
  exact clear_append.2 ⟨clear_of_not_infix_of_not_mem hvalue (by decide), clear_of_apart (by decide)⟩

/-- No import begins in the style. -/
private theorem clear_import_boxChars (b : Box) (v : List Char) :
    Clear "\nimport".toList (boxChars b) v := by
  have hproperty {name : String} {n : Int} {v : List Char}
      (hname : apart "\nimport".toList (name ++ ":").toList) :
      Clear "\nimport".toList (propertyChars name (decimal n)) v :=
    clear_propertyChars (by decide) (by decide) (by decide) (by decide) hname (by decide)
  unfold boxChars
  refine clear_append.2 ⟨hproperty (by decide), clear_append.2 ⟨hproperty (by decide), ?_⟩⟩
  refine clear_append.2 ⟨clear_of_apart (by decide), clear_append.2 ⟨hproperty (by decide), ?_⟩⟩
  exact clear_append.2 ⟨hproperty (by decide), clear_of_apart (by decide)⟩

/-- No import begins in a scene that is free of imports. -/
private theorem clear_import_text {components : List Component} {p : PlacedScene} {v : List Char}
    (h : IsImportFree components p) (hv : v.head? = some ' ') :
    Clear "\nimport".toList (p.text components).toList v := by
  have hstyle {v : List Char} : Clear "\nimport".toList (styleChars (boxChars p.scene.box)) v := by
    unfold styleChars
    refine clear_append.2 ⟨clear_of_apart (by decide), ?_⟩
    refine clear_append.2 ⟨clear_of_apart (by decide), ?_⟩
    exact clear_append.2 ⟨clear_import_boxChars _ _, clear_of_apart (by decide)⟩
  -- what follows the body begins with a less-than sign, what follows the block with a space
  have hbody {v : List Char} :
      Clear "\nimport".toList ((p.template components).body.toList ++ "</Scene>".toList) v := by
    refine clear_append.2 ⟨clear_of_not_infix_of_head h.body ?_, clear_of_apart (by decide)⟩
    intro x hx
    obtain rfl : '<' = x := Option.some.inj hx
    decide
  -- the line feed at the end is followed by the indentation
  have hend : Clear "\nimport".toList ['\n'] v := by
    refine clear_of_not_infix_of_head (fun h => absurd (contains_iff.2 h) (by decide)) ?_
    simp only [hv, Option.mem_some_iff, forall_eq']
    decide
  rw [toList_text]
  unfold blockChars
  -- the parts of the block one after another
  refine clear_append.2 ⟨clear_of_apart (by decide), clear_append.2 ⟨?_, hend⟩⟩
  refine clear_append.2 ⟨clear_of_apart (by decide), clear_append.2
    ⟨clear_import_attributeChars (by decide) h.id, clear_append.2
      ⟨clear_import_attributeChars (by decide) h.id, clear_append.2 ⟨hstyle, clear_append.2
        ⟨clear_import_attributeChars (by decide) h.label, ?_⟩⟩⟩⟩⟩
  refine clear_append.2 ⟨clear_of_apart (by decide), ?_⟩
  exact clear_append.2 ⟨clear_of_apart (by decide), hbody⟩

/-- Behind the opening the text goes on with a space. -/
private theorem head?_scenes (components : List Component) (scenes : List PlacedScene) :
    (scenes.flatMap (fun p => (p.text components).toList) ++ closing).head? = some ' ' := by
  cases scenes with
  | nil => rfl
  | cons p scenes =>
    rw [List.flatMap_cons, toList_text]
    rfl

/-- No import begins in scenes that are free of imports. -/
private theorem clear_import_scenes {components : List Component} {scenes : List PlacedScene}
    (h : ∀ p ∈ scenes, IsImportFree components p) :
    Clear "\nimport".toList (scenes.flatMap fun p => (p.text components).toList) closing := by
  induction scenes with
  | nil => exact clear_nil _ _
  | cons p scenes ih =>
    rw [List.flatMap_cons]
    refine clear_append.2 ⟨clear_import_text (h p (by simp)) (head?_scenes components scenes), ?_⟩
    exact ih fun p hp => h p (by simp [hp])

section

variable {scenes : List PlacedScene} {components : List Component} {importPrefix : String}
  {retained : List ImportLine}

/-- The imports that were written are read back before all others; and there are others only where
the text of a scene has a line that can be taken for an import. -/
theorem exists_imports_parse_render (scenes : List PlacedScene)
    (hcomponents : ∀ c ∈ components, c.IsImportable importPrefix)
    (hretained : ∀ i ∈ retained, IsWhole i) :
    ∃ others, (parse (render scenes components importPrefix (retained.map (·.line)))).imports =
        distinctBy ImportLine.name
          (components.map (·.asImport importPrefix) ++ retained ++ others) ∧
      ((∀ p ∈ scenes, IsImportFree components p) → others = []) := by
  obtain ⟨d, hd, h⟩ := exists_reads_render scenes components importPrefix retained
  generalize (render scenes components importPrefix (retained.map (·.line))) = text at h
  obtain ⟨c₁, h₁, h⟩ := h.split
  obtain ⟨c₂, h₂, h⟩ := h.split
  -- the lines written behind the header are whole ones
  have hwhole : ∀ i ∈ components.map (·.asImport importPrefix) ++ retained, IsWhole i := by
    intro i hi
    rcases List.mem_append.1 hi with hi | hi
    · obtain ⟨c, hc, rfl⟩ := List.mem_map.1 hi
      exact isWhole_asImport (hcomponents c hc)
    · exact hretained i hi
  -- the header has none, and then the lines are read one by one
  obtain ⟨hheader, hstart⟩ := scan_componentImport_header h₁
  obtain ⟨hlines, -⟩ := scan_importLines h₂ hstart hwhole
  refine ⟨(componentImport.scan c₂).filterMap importLine?, ?_, fun hfree => ?_⟩
  · rw [parse, findAll_eq_scan componentImport, hheader, hlines]
  · -- with the scenes free of imports no line behind begins one
    have hclear : Clear "\nimport".toList
        (opening ++ (scenes.flatMap (fun p => (p.text components).toList) ++ closing)) [] := by
      have hopening : ¬ "\nimport".toList <:+: opening :=
        fun h => absurd (contains_iff.2 h) (by decide)
      have hclosing : ¬ "\nimport".toList <:+: closing :=
        fun h => absurd (contains_iff.2 h) (by decide)
      refine clear_append.2 ⟨clear_of_not_infix_of_head hopening ?_, clear_append.2 ⟨?_, ?_⟩⟩
      · rw [List.append_nil, head?_scenes]
        simp only [Option.mem_some_iff, forall_eq']
        decide
      · rw [List.append_nil]
        exact clear_import_scenes hfree
      · exact clear_of_not_infix_of_head hclosing (by simp)
    -- behind the imports a line begins as well, with the line feed of the opening
    have hfirst : componentImport.ways c₂ = [] := by
      refine ways_componentImport_eq_nil ?_
      rw [h.rest]
      exact fun hp => absurd (List.cons_prefix_cons.1 hp).1 (by decide)
    rw [scan_componentImport_of_clear h hfirst (hd ▸ hclear),
      scan_of_rest_nil hd (ways_componentImport_eq_nil (by rw [hd]; decide)), List.filterMap_nil]

end

/-! ## Both together -/

/-- The pattern of import lines matches the line of an import in full and finds its name there, and
the line does not end with white space. -/
structure IsReadInFull (i : ImportLine) : Prop where
  way : ∃ w ∈ componentImport.ways ⟨0, none, i.line.toList⟩, w.stop.rest = [] ∧
    ((Match.mk ⟨0, none, i.line.toList⟩ w.stop w.marks).group? 1 <|>
      (Match.mk ⟨0, none, i.line.toList⟩ w.stop w.marks).group? 2) = some i.name.toList
  trimmed : trimRight i.line.toList = i.line.toList

instance (i : ImportLine) : Decidable (IsReadInFull i) :=
  decidable_of_iff (_ ∧ _) ⟨fun h => ⟨h.1, h.2⟩, fun h => ⟨h.way, h.trimmed⟩⟩

/-- A line that is read in full is a whole import. -/
theorem IsReadInFull.isWhole {i : ImportLine} (h : IsReadInFull i) : IsWhole i := by
  obtain ⟨w, hw, hend, hgroup⟩ := h.way
  obtain ⟨name, line, hline, hread, -, -, hname⟩ := exists_of_mem_ways_componentImport hw
  have hrest : i.line.toList = line := by simpa [hend] using hread.rest
  have hsame : name = i.name.toList := Option.some.inj ((hname _ rfl).symm.trans hgroup)
  exact ⟨hsame ▸ hrest ▸ hline, h.trimmed⟩

/-- What is written is read back: the scenes in their order, and the imports of the components
before the retained ones. -/
theorem parse_render {scenes : List PlacedScene} {components : List Component}
    {importPrefix : String} {retained : List ImportLine}
    (hids : (scenes.map (·.scene.id)).Nodup) (hscenes : ∀ p ∈ scenes, IsWritable components p)
    (hfree : ∀ p ∈ scenes, IsImportFree components p)
    (hnames : (components.map (·.name)).Nodup)
    (hcomponents : ∀ c ∈ components, c.IsImportable importPrefix)
    (hretained : ∀ i ∈ retained, IsReadInFull i) (hless : ∀ i ∈ retained, '<' ∉ i.line.toList)
    (hothers : ∀ i ∈ retained, i.name ∉ components.map (·.name))
    (hdistinct : (retained.map (·.name)).Nodup) :
    parse (render scenes components importPrefix (retained.map (·.line))) =
      ⟨scenes.map (·.asWritten components), components.map (·.asImport importPrefix) ++ retained⟩ := by
  have hread := scenes_parse_render hids hscenes hcomponents hless
  obtain ⟨others, himports, hnone⟩ :=
    exists_imports_parse_render scenes hcomponents fun i hi => (hretained i hi).isWhole
  -- no name is imported twice, so no line is left out
  have hkeys : ((components.map (·.asImport importPrefix) ++ retained).map (·.name)).Nodup := by
    rw [List.map_append, List.map_map]
    refine List.nodup_append.2 ⟨hnames, hdistinct, ?_⟩
    rintro name hname _ hi rfl
    obtain ⟨i, hmem, rfl⟩ := List.mem_map.1 hi
    exact hothers i hmem hname
  rw [hnone hfree, List.append_nil, distinctBy_eq_self hkeys] at himports
  generalize parse (render scenes components importPrefix (retained.map (·.line))) = b at *
  cases b
  simp_all

/-- A card of a component beside a scene whose component is gone. -/
theorem parse_render_card_and_note :
    let card : Component := ⟨"Card", "components/Card.tsx", .component, true, false, none⟩
    let scenes : List PlacedScene :=
      [⟨⟨"card-scene", ⟨⟨320, 200⟩, 212, 1584⟩, "Card", some "Card", ""⟩, .placed "Card"⟩,
       ⟨⟨"note", ⟨⟨700, 700⟩, -40, 128⟩, "My note", some "Note", "\n<Note />\n"⟩,
        .retained ⟨⟨700, 700⟩, -40, 128⟩⟩]
    let note : ImportLine := ⟨"Note", "import Note from './Note';"⟩
    parse (render scenes [card] "../src/" [note.line]) =
      ⟨scenes.map (·.asWritten [card]), [card.asImport "../src/", note]⟩ := by
  intro card scenes note
  exact @parse_render scenes [card] "../src/" [note] (by decide) (by decide +kernel)
    (by decide +kernel) (by decide) (by decide +kernel) (by decide +kernel) (by decide) (by decide)
    (by decide)

/-! ## Line feeds in ids

An id may hold a line feed. What stands behind it then begins a line of the text, and it can read as
an import, whose quoted part goes on in the next attribute.
-/

/-- A scene with an id that brings an import into the text. -/
def lineFeedScene : PlacedScene :=
  ⟨⟨"\nimport Foo from ", ⟨⟨1, 1⟩, 0, 0⟩, "L", none, "component=\x7bFoo\x7d"⟩,
    .retained ⟨⟨1, 1⟩, 0, 0⟩⟩

/-- The id of this scene is read back as an import. -/
theorem imports_lineFeedScene : (parse (render [lineFeedScene] [] "" [])).imports =
    [⟨"Foo", "import Foo from '\n      commentId='"⟩] := by
  have hlist := toList_render [lineFeedScene] [] "" []
  rw [List.flatMap_cons, toList_text, List.map_nil] at hlist
  rw [parse, hlist]
  decide +kernel

/-- It is not enough that no line of a body begins with the keyword of imports. -/
theorem not_parse_render_of_line_feed : ¬ ∀ (scenes : List PlacedScene) (components : List Component)
    (importPrefix : String) (retained : List ImportLine),
    (scenes.map (·.scene.id)).Nodup → (∀ p ∈ scenes, IsWritable components p) →
    (∀ p ∈ scenes, ∀ line ∈ splitOn '\n' (p.template components).body.toList,
      ¬ "import".toList <+: line) →
    (components.map (·.name)).Nodup → (∀ c ∈ components, c.IsImportable importPrefix) →
    (∀ i ∈ retained, IsReadInFull i) → (∀ i ∈ retained, '<' ∉ i.line.toList) →
    (∀ i ∈ retained, i.name ∉ components.map (·.name)) → (retained.map (·.name)).Nodup →
    parse (render scenes components importPrefix (retained.map (·.line))) =
      ⟨scenes.map (·.asWritten components), components.map (·.asImport importPrefix) ++ retained⟩ := by
  intro h
  have hread := h [lineFeedScene] [] "" [] (by decide) (by decide +kernel) (by decide +kernel)
    (by decide) (by simp) (by simp) (by simp) (by simp) (by simp)
  have himports := congrArg Storyboard.imports hread
  rw [List.map_nil, imports_lineFeedScene] at himports
  simp at himports

end Storyboard

end SceneBoard
