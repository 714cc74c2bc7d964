import SceneBoard.Proofs.Rereading

/-!
# Ids and labels that can be read

A scene block can be read again if its id and its label are free of the marks that structure the
block. The ids and labels of new scenes come from the names of components, which have none of the
marks, and from the names of their folders; the others were there before. So the scenes of a layout
can be read if those before it could (`Round.IsLegible.isReadable`).
-/

namespace SceneBoard

open Plan Draft Storyboard

/-! ## Marks -/

/-- The characters that structure a scene block. -/
def marks : List Char :=
  ['\x27', '=', '<', '>']

/-- A text without the characters that structure a scene block. -/
def IsUnmarked (s : List Char) : Prop :=
  ∀ x ∈ marks, x ∉ s

instance (s : List Char) : Decidable (IsUnmarked s) :=
  decidable_of_iff (marks.all fun x => !s.contains x) (by simp [IsUnmarked])

/-- A category whose folder, if it has one, can stand in a label. -/
def Category.IsUnmarked : Category → Prop
  | .folder name => SceneBoard.IsUnmarked name.toList
  | _ => True

instance (k : Category) : Decidable k.IsUnmarked :=
  match k with
  | .folder _ => inferInstanceAs (Decidable (SceneBoard.IsUnmarked _))
  | .component => inferInstanceAs (Decidable True)
  | .page => inferInstanceAs (Decidable True)

section

variable {s t : List Char}

theorem isUnmarked_append : IsUnmarked (s ++ t) ↔ IsUnmarked s ∧ IsUnmarked t := by
  simp only [IsUnmarked, List.mem_append, not_or, ← forall_and]

/-- A text is safe if it is not empty and has no mark. -/
theorem isSafe_iff : IsSafe s ↔ s ≠ [] ∧ IsUnmarked s := by
  simp only [IsUnmarked, marks, List.mem_cons, List.not_mem_nil, or_false, forall_eq_or_imp,
    forall_eq]
  exact ⟨fun h => ⟨h.1, h.2, h.3, h.4, h.5⟩, fun h => ⟨h.1, h.2.1, h.2.2.1, h.2.2.2.1, h.2.2.2.2⟩⟩

/-- A safe text stays safe with one behind it that has no marks. -/
theorem isSafe_append (hs : IsSafe s) (ht : IsUnmarked t) : IsSafe (s ++ t) := by
  rw [isSafe_iff] at hs ⊢
  exact ⟨by simp [hs.1], isUnmarked_append.2 ⟨hs.2, ht⟩⟩

/-- The name of a component has no marks. -/
theorem isSafe_of_isImportName (h : IsImportName s) : IsSafe s := by
  refine isSafe_iff.2 ⟨?_, fun x hx => not_mem_of_isImportName h ?_⟩
  · rintro rfl
    exact h
  · have hall : marks.all fun x => !isImportChar x := by decide
    simpa using List.all_eq_true.1 hall x hx

end

/-! ## Ids and labels of new scenes -/

section

variable {c : Component} {settings : LayoutSettings}

/-- The id that a component owns can be read. -/
theorem isSafe_sceneId (h : IsImportName c.name.toList) : IsSafe c.sceneId.toList := by
  have hend : "-scene".toList ≠ [] ∧ IsUnmarked "-scene".toList := by decide
  -- the marks have no case, so they would be in the name itself
  have hlow : marks.all fun x => x.toNat < 65 := by decide
  have hname := (isSafe_iff.1 (isSafe_of_isImportName h)).2
  rw [Component.sceneId, sceneId, String.toList_append, isSafe_iff, isUnmarked_append]
  refine ⟨by simp, fun x hx hmem => hname x hx ?_, hend.2⟩
  rw [Text.lowercase, String.toList_ofList] at hmem
  exact Text.mem_of_mem_lower hmem (by simpa using List.all_eq_true.1 hlow x hx)

/-- A number behind an id does not matter. -/
theorem isSafe_numberedId {id : String} (n : Nat) (h : IsSafe id.toList) :
    IsSafe (numberedId id n).toList := by
  have hdash : IsUnmarked "-".toList := by decide
  have hall : marks.all fun x => !x.isDigit := by decide
  have hnumber : (String.ofList (Text.natDecimal n)).toList = Text.natDecimal n :=
    String.toList_ofList
  rw [numberedId, String.toList_append, String.toList_append, hnumber]
  refine isSafe_append (isSafe_append h hdash) fun x hx hmem => ?_
  -- a digit is no mark
  have hdigit := Text.isDigit_of_mem_natDecimal hmem
  have hnone := List.all_eq_true.1 hall x hx
  simp [hdigit] at hnone

/-- The label of a new scene is safe if the name, the folder and the App label are. -/
theorem isSafe_of_isNewLabel {label : String} (h : IsNewLabel settings c label)
    (hname : IsImportName c.name.toList) (hcategory : c.category.IsUnmarked)
    (happ : IsSafe settings.appLabel.toList) : IsSafe label.toList := by
  have hopen : IsUnmarked " (".toList := by decide
  have hclose : IsUnmarked ")".toList := by decide
  cases h with
  | playground hanchor => exact hanchor ▸ isSafe_of_isImportName hname
  | app _ => exact happ
  | name _ _ => exact isSafe_of_isImportName hname
  | folder _ hfolder =>
    rw [hfolder] at hcategory
    rw [String.toList_append, String.toList_append, String.toList_append]
    exact isSafe_append (isSafe_append (isSafe_append (isSafe_of_isImportName hname) hopen)
      hcategory) hclose

end

/-! ## Ids and labels of a layout -/

/-- A scene whose id and label can be read. -/
def Scene.IsLegible (s : Scene) : Prop :=
  IsSafe s.id.toList ∧ IsSafe s.label.toList

/-- A round whose components can be imported and have new scenes that can be read. -/
structure Round.IsLegible (r : Round) : Prop where
  names : (r.components.map (·.name)).Nodup
  components : ∀ c ∈ r.components, c.IsImportable r.importPrefix
  folders : ∀ c ∈ r.components, c.category.IsUnmarked
  appLabel : IsSafe r.settings.appLabel.toList

namespace Round.IsLegible

variable {r : Round} {previous : Option String} {p : PlacedScene} (h : r.IsLegible)
  (hprior : ∀ s ∈ (Storyboard.ofPrevious previous).scenes, s.IsLegible)

include h hprior

/-- The scenes of a layout have ids and labels that can be read if those of before had. -/
theorem isLegible (hp : p ∈ (r.generate previous).layout.scenes) : p.scene.IsLegible := by
  have hlegible : ∀ q ∈ liveScenes r.components (Storyboard.ofPrevious previous) r.options r.settings ++
      orphanScenes r.components (Storyboard.ofPrevious previous) r.options r.settings,
      q.scene.IsLegible := by
    intro q hq
    rcases List.mem_append.1 hq with hq | hq
    · obtain ⟨left, ⟨b, hb, rfl⟩ | ⟨c, hc, box, label, hlabel, rfl⟩⟩ := exists_of_mem_liveScenes hq
      -- a scene that was kept, with its label, and a new one
      · obtain ⟨c, hc, s, hs, -, -, hlabel, hid⟩ := exists_of_mem_kept hb
        have hlegible := hprior s hs
        refine ⟨?_, ?_⟩
        · show IsSafe b.scene.id.toList
          rcases hid with hid | hid
          · exact hid ▸ isSafe_sceneId (h.components c hc).name
          · exact hid ▸ hlegible.1
        · show IsSafe b.scene.label.toList
          exact hlabel ▸ hlegible.2
      · exact ⟨isSafe_sceneId (h.components c hc).name,
          isSafe_of_isNewLabel hlabel (h.components c hc).name (h.folders c hc) h.appLabel⟩
    · obtain ⟨s, hs, left, rfl⟩ := exists_of_mem_orphanScenes hq
      exact hprior s (retained_sublist.subset hs)
  rw [layout_generate, scenes_layoutOf] at hp
  obtain ⟨q, hq, hsame, hid⟩ := exists_of_mem_forall₂ (forall₂_numbered_distinctIds _) hp
  -- the id of a scene may get a number, its label stays
  refine ⟨?_, ?_⟩
  · rcases hid with hid | ⟨n, hid⟩
    · exact hid ▸ (hlegible q hq).1
    · exact hid ▸ isSafe_numberedId n (hlegible q hq).1
  · rw [hsame]
    exact (hlegible q hq).2

/-- So they can be read if their boxes can. -/
theorem isReadable (hp : p ∈ (r.generate previous).layout.scenes) (hbox : p.scene.box.InRange) :
    p.IsReadable :=
  ⟨(h.isLegible hprior hp).1, (h.isLegible hprior hp).2, hbox⟩

end Round.IsLegible

end SceneBoard
