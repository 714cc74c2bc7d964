import SceneBoard.Proofs.LayoutScenes
import SceneBoard.Proofs.PreviousScenes

/-!
# Manual positions

A scene that was moved, resized or relabelled by hand stays as it is when the storyboard is
generated again, as long as a component gets it (`generate_keeps_former`), whatever else was added,
removed or renamed. Only the left edge of scenes in the top row is not the user's.
-/

namespace SceneBoard

open Plan

/-! ## One scene for each component -/

section

variable {components : List Component} {prior : Storyboard} {options : ReconcileOptions}
  {settings : LayoutSettings} {c : Component}

/-- Of images of different elements the filter leaves one, if only one element passes. -/
private theorem filter_map_eq_singleton {α β : Type} {l : List α} {a : α} {f : α → β} {p : β → Bool}
    (hl : l.Nodup) (ha : a ∈ l) (hp : ∀ b ∈ l, p (f b) ↔ b = a) : (l.map f).filter p = [f a] := by
  induction l with
  | nil => simp at ha
  | cons b l ih =>
    rw [List.nodup_cons] at hl
    rw [List.map_cons, List.filter_cons]
    -- the element stands at one place, so the rest of the list has none that passes
    by_cases hab : b = a
    · subst hab
      have hnone : (l.map f).filter p = [] := by
        simp only [List.filter_eq_nil_iff, List.mem_map]
        rintro _ ⟨b', hb', rfl⟩ hpb
        exact hl.1 ((hp b' (by simp [hb'])).1 hpb ▸ hb')
      rw [if_pos ((hp b (by simp)).2 rfl), hnone]
    · rw [if_neg fun h => hab ((hp b (by simp)).1 h)]
      exact ih hl.2 (by simpa [Ne.symm hab] using ha) fun b' hb' => hp b' (by simp [hb'])

/-- A layout has exactly one scene for each component. -/
theorem filter_layout_scenes (hpreserve : options.preserveExisting)
    (hids : (components.map (·.sceneId)).Nodup) (hscenes : prior.scenes.Nodup)
    (hc : c ∈ components) :
    (layoutOf components prior options settings).scenes.filter
        (fun p => p.origin.component? = some c.name) =
      [liveScene components prior options settings c] := by
  obtain ⟨orphans, hlayout, horphans⟩ :=
    @exists_layout_scenes components prior options settings hpreserve hids hscenes
  -- no retained scene shows the component, and of the others exactly its own does
  have hnone : orphans.filter (fun p => p.origin.component? = some c.name) = [] := by
    rw [List.filter_eq_nil_iff]
    intro q hq
    obtain ⟨p, hp, hqp⟩ := exists_of_mem_forall₂ horphans hq
    obtain ⟨s, -, left, rfl⟩ := exists_of_mem_orphanScenes hp
    rw [hqp]
    simp [Origin.component?]
  have hnames := nodup_names hids
  rw [hlayout, List.filter_append, hnone, List.append_nil]
  refine filter_map_eq_singleton (List.Nodup.of_map _ hnames) hc fun c' hc' => ?_
  rw [decide_eq_true_eq, origin_liveScene hnames (isSplitBy_reconcile hpreserve hids hscenes) hc',
    Option.some_inj]
  exact ⟨fun h => List.inj_on_of_nodup_map hnames hc' hc h, fun h => by rw [h]⟩

end

/-! ## What stays of a scene -/

/-- A component that had a scene has exactly one again, with the size, the top and the label of the
scene and, outside of the top row, its left edge; any other component has exactly one that is new.
-/
theorem generate_keeps_former (components : List Component) (previous : Option String)
    (options : ReconcileOptions) (settings : LayoutSettings) (importPrefix : String)
    (hpreserve : options.preserveExisting) (hids : (components.map (·.sceneId)).Nodup)
    {c : Component} (hc : c ∈ components) :
    ∃ p, (generate components previous options settings importPrefix).layout.scenes.filter
        (fun q => q.origin.component? = some c.name) = [p] ∧
      match formerScene? components (Storyboard.ofPrevious previous).scenes c with
      | some s => p.origin = .kept c.name s.box ∧ p.scene.id = c.sceneId ∧
          p.scene.box.size = s.box.size ∧ p.scene.box.top = s.box.top ∧ p.scene.label = s.label ∧
          (s.box.top ≠ settings.topRow → c.category ≠ .page → p.scene.box.left = s.box.left)
      | none => p.origin = .placed c.name := by
  have hscenes := nodup_scenes_ofPrevious previous
  refine ⟨liveScene components (Storyboard.ofPrevious previous) options settings c,
    filter_layout_scenes hpreserve hids hscenes hc, ?_⟩
  -- a former scene is moved in the row only, a new one has its own box
  cases hs : formerScene? components (Storyboard.ofPrevious previous).scenes c with
  | some s =>
    obtain ⟨left, hlive, hleft⟩ :=
      @liveScene_of_former _ _ options settings _ _ hpreserve hids hscenes hc hs
    rw [hlive]
    refine ⟨rfl, rfl, rfl, rfl, rfl, fun htop hpage => hleft ?_⟩
    rw [IsRowScene, not_or]
    exact ⟨htop, hpage⟩
  | none =>
    obtain ⟨box, label, -, hlive⟩ :=
      @liveScene_of_new _ _ options settings _ hpreserve hids hscenes hc hs
    rw [hlive]
    rfl

/-- A card that was moved, resized and renamed by hand, beside which a badge is new. -/
theorem generate_keeps_moved_card :
    let card : Component := ⟨"Card", "components/Card.tsx", .component, true, false, none⟩
    let badge : Component := ⟨"Badge", "components/Badge.tsx", .component, true, false, none⟩
    let previous := "<Scene id='Card-Scene' commentId='c' style=\x7b\x7bwidth: 320, height: 90, " ++
      "left: -7, top: 40\x7d\x7d data-label='Mine'></Scene>"
    ∃ p, (generate [badge, card] (some previous) ⟨true, false, true⟩ {} "../src").layout.scenes.filter
        (fun q => q.origin.component? = some "Card") = [p] ∧
      p.scene.id = "card-scene" ∧ p.scene.box = ⟨⟨320, 90⟩, -7, 40⟩ ∧ p.scene.label = "Mine" := by
  intro card badge previous
  have hformer : formerScene? [badge, card] (Storyboard.ofPrevious (some previous)).scenes card =
      some ⟨"Card-Scene", ⟨⟨320, 90⟩, -7, 40⟩, "Mine", none, ""⟩ := by decide +kernel
  have hkeeps := generate_keeps_former [badge, card] (some previous) ⟨true, false, true⟩ {}
    "../src" rfl (by decide +kernel) (c := card) (by simp)
  rw [hformer] at hkeeps
  obtain ⟨p, hp, -, hid, hsize, htop, hlabel, hleft⟩ := hkeeps
  -- size, top and left together are the box
  have hbox : p.scene.box = ⟨p.scene.box.size, p.scene.box.left, p.scene.box.top⟩ := rfl
  rw [hsize, htop, hleft (by decide) (by decide)] at hbox
  exact ⟨p, hp, hid.trans (by decide +kernel), hbox, hlabel⟩

end SceneBoard
