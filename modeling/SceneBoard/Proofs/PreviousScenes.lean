import Mathlib.Data.List.Nodup
import SceneBoard.Generation
import SceneBoard.Proofs.BlockGrammar
import SceneBoard.Proofs.StyleGrammar

/-!
# Scenes of a previous text

What is known of every scene that was read from a text, whatever the text was: no other one has its
id, its id and its label can stand in quotes, its box is in range, its body ends before the first
closing tag, and what it shows is told by its body (`isWellFormed_of_readsScene`). A block is read
exactly if its style tells a box (`scene?_eq_some_iff`).
-/

namespace SceneBoard

open Storyboard

/-- A scene as a text can hold it. -/
structure Scene.IsWellFormed (s : Scene) : Prop where
  id : IsAttributeValue s.id.toList
  label : IsAttributeValue s.label.toList
  box : s.box.InRange
  body : ¬ "</Scene>".toList <:+: s.body.toList
  component : s.component = Body.component? s.body

/-- The scene of a block: its parts, and the box that its style tells. -/
structure ReadsScene (m : Text.Match) (s : Scene) : Prop where
  parts : ∃ style, HasParts m s.id.toList style s.label.toList s.body.toList ∧ TellsBox style s.box
  component : s.component = Body.component? s.body

/-- A block is read as a scene exactly if its style tells a box. -/
theorem scene?_eq_some_iff {m : Text.Match} {s : Scene} :
    Storyboard.scene? m = some s ↔ ReadsScene m s := by
  simp only [Storyboard.scene?, Option.bind_eq_bind, Option.bind_eq_some_iff, Option.pure_def,
    Option.some_inj, box?_eq_some_iff]
  -- the groups of the match are the parts of the scene, as texts and as characters
  constructor
  · rintro ⟨id, hid, style, hstyle, label, hlabel, body, hbody, box, hbox, rfl⟩
    refine ⟨⟨style, ⟨?_, hstyle, ?_, ?_⟩, hbox⟩, rfl⟩
    all_goals rwa [String.toList_ofList]
  · rintro ⟨⟨style, hparts, hbox⟩, hcomponent⟩
    refine ⟨_, hparts.id, style, hparts.style, _, hparts.label, _, hparts.body, _, hbox, ?_⟩
    simp only [String.ofList_toList, ← hcomponent]

/-- The scene of a block is well formed. -/
theorem isWellFormed_of_readsScene {m : Text.Match} {cs : List Char} {s : Scene}
    (hm : m ∈ sceneBlock.findAll cs) (h : ReadsScene m s) : s.IsWellFormed := by
  obtain ⟨⟨style, hparts, hbox⟩, hcomponent⟩ := h
  obtain ⟨id, style', label, body, hparts', hblock⟩ := exists_hasParts_of_mem_findAll hm
  -- a match has one list of groups
  obtain rfl := Option.some.inj (hparts.id.symm.trans hparts'.id)
  obtain rfl := Option.some.inj (hparts.label.symm.trans hparts'.label)
  obtain rfl := Option.some.inj (hparts.body.symm.trans hparts'.body)
  obtain ⟨hid, hlabel, hbody⟩ := hblock.parts
  exact ⟨hid, hlabel, hbox.inRange, hbody, hcomponent⟩

/-- Every scene of a text that was read is well-formed. -/
theorem isWellFormed_of_mem_parse {text : String} {s : Scene} (h : s ∈ (parse text).scenes) :
    s.IsWellFormed := by
  obtain ⟨m, hm, hs⟩ := List.mem_filterMap.1 ((distinctBy_sublist _).subset h)
  exact isWellFormed_of_readsScene hm (scene?_eq_some_iff.1 hs)

variable {previous : Option String} {s s' : Scene}

/-- No two scenes have the same id. -/
theorem nodup_id_ofPrevious (previous : Option String) :
    ((Storyboard.ofPrevious previous).scenes.map (·.id)).Nodup := by
  cases previous with
  | none => exact .nil
  | some text => exact nodup_map_distinctBy _

theorem nodup_scenes_ofPrevious (previous : Option String) :
    (Storyboard.ofPrevious previous).scenes.Nodup :=
  List.Nodup.of_map _ (nodup_id_ofPrevious previous)

/-- A scene is known by its id. -/
theorem eq_of_id_eq (hs : s ∈ (Storyboard.ofPrevious previous).scenes)
    (hs' : s' ∈ (Storyboard.ofPrevious previous).scenes) (hid : s'.id = s.id) : s' = s :=
  List.inj_on_of_nodup_map (nodup_id_ofPrevious previous) hs' hs hid

/-- A body that was read does not hold a closing tag of a scene. -/
theorem not_infix_body_of_mem (h : s ∈ (Storyboard.ofPrevious previous).scenes) :
    ¬ "</Scene>".toList <:+: s.body.toList := by
  cases previous with
  | none => simp [Storyboard.ofPrevious, Storyboard.empty] at h
  | some text => exact (isWellFormed_of_mem_parse h).body

/-- What a scene shows is told by its body. -/
theorem component_of_mem (h : s ∈ (Storyboard.ofPrevious previous).scenes) :
    s.component = Body.component? s.body := by
  cases previous with
  | none => simp [Storyboard.ofPrevious, Storyboard.empty] at h
  | some text => exact (isWellFormed_of_mem_parse h).component

/-- A scene with a box out of range is not read. -/
theorem inRange_box_of_mem (h : s ∈ (Storyboard.ofPrevious previous).scenes) : s.box.InRange := by
  cases previous with
  | none => simp [Storyboard.ofPrevious, Storyboard.empty] at h
  | some text => exact (isWellFormed_of_mem_parse h).box

/-- A label that was read is not empty and has no quote. -/
theorem label_of_mem (h : s ∈ (Storyboard.ofPrevious previous).scenes) :
    s.label.toList ≠ [] ∧ '\x27' ∉ s.label.toList := by
  cases previous with
  | none => simp [Storyboard.ofPrevious, Storyboard.empty] at h
  | some text =>
    have hlabel := (isWellFormed_of_mem_parse h).label
    exact ⟨hlabel.ne_nil, hlabel.quote⟩

end SceneBoard
