import SceneBoard.Proofs.Rereading

/-!
# Scenes of which it is not known what they show

A scene whose body tells no component, and whose id no component owns, is never lost: however often
the storyboard is generated again, and whatever components come and go meanwhile, it is still there
with its id, its label, its size, its top and its body (`exists_mem_parse_after`). One round keeps
it because no component gets it, and with its id because no scene before it has the same
(`exists_mem_layout_of_orphan`); a series of rounds keeps it by induction.
-/

namespace SceneBoard

open Plan Draft Storyboard

/-- A scene at another left edge. -/
def Scene.atLeft (s : Scene) (left : Int) : Scene :=
  { s with box := { s.box with left } }

/-- A scene that goes with no component: it is not known what it shows, and no component owns its
id. -/
structure Scene.IsOrphan (components : List Component) (s : Scene) : Prop where
  component : s.component = none
  id : ∀ c ∈ components, ¬ ownsId c s

instance (components : List Component) (s : Scene) : Decidable (s.IsOrphan components) :=
  decidable_of_iff (s.component = none ∧ ∀ c ∈ components, ¬ ownsId c s)
    ⟨fun h => ⟨h.1, h.2⟩, fun h => ⟨h.component, h.id⟩⟩

/-! ## One reconciliation -/

section

variable {components : List Component} {previous : Option String} {options : ReconcileOptions}
  {settings : LayoutSettings} {s : Scene}

/-- An orphan is not reported as pruned. -/
theorem id_not_mem_pruned (hs : s ∈ (Storyboard.ofPrevious previous).scenes)
    (horphan : s.IsOrphan components) :
    s.id ∉ (reconcile components (Storyboard.ofPrevious previous) options).pruned.map (·.id) := by
  intro h
  obtain ⟨x, hx, hid⟩ := List.mem_map.1 h
  obtain ⟨s', hs', hid', hcomponent⟩ := exists_of_mem_pruned hx
  exact hcomponent (eq_of_id_eq hs hs' (hid'.trans hid) ▸ horphan.component)

/-- Nor is it reported as superseded. -/
theorem id_not_mem_superseded (hs : s ∈ (Storyboard.ofPrevious previous).scenes)
    (horphan : s.IsOrphan components) :
    s.id ∉ (reconcile components (Storyboard.ofPrevious previous) options).superseded := by
  intro h
  obtain ⟨s', hs', hid, hcomponent⟩ := exists_of_mem_superseded h
  exact hcomponent (eq_of_id_eq hs hs' hid ▸ horphan.component)

/-- The scene of a component has another id: the one that the component owns, or that of the scene
that it keeps. -/
private theorem id_not_mem_liveScenes (hs : s ∈ (Storyboard.ofPrevious previous).scenes)
    (horphan : s.IsOrphan components) :
    s.id ∉ (liveScenes components (Storyboard.ofPrevious previous) options settings).map
      (·.scene.id) := by
  intro h
  obtain ⟨p, hp, hid⟩ := List.mem_map.1 h
  obtain ⟨left, ⟨b, hb, rfl⟩ | ⟨c, hc, box, label, -, rfl⟩⟩ := exists_of_mem_liveScenes hp
  · -- it got the id of its component, or it is the scene itself, which no component wants
    obtain ⟨c, hc, s', hs', hwants, -, -, hid' | hid'⟩ := exists_of_mem_kept hb
    · exact horphan.id c hc (ownsId_self (hid.symm.trans hid'))
    · obtain rfl : s' = s := eq_of_id_eq hs hs' (hid'.symm.trans hid)
      rcases hwants with h | h
      · exact horphan.id c hc h
      · simp [showsName, horphan.component] at h
  · -- a new one has the id of its component
    exact horphan.id c hc (ownsId_self hid.symm)

/-- An orphan is in the layout, and only its left edge may have changed. -/
theorem exists_mem_layout_of_orphan (hpreserve : options.preserveExisting)
    (hs : s ∈ (Storyboard.ofPrevious previous).scenes) (horphan : s.IsOrphan components) :
    ∃ left, ⟨s.atLeft left, .retained s.box⟩ ∈
        (layoutOf components (Storyboard.ofPrevious previous) options settings).scenes ∧
      (s.box.top ≠ settings.topRow → left = s.box.left) := by
  have hretained := mem_retained hpreserve hs horphan.component horphan.id
  obtain ⟨before, after, hsplit⟩ := List.append_of_mem hretained
  obtain ⟨ps, qs, left, horphans, hids, hleft⟩ :=
    @exists_orphanScenes_append components (Storyboard.ofPrevious previous) options settings _ _ _ hsplit
  refine ⟨left, ?_, hleft⟩
  rw [scenes_layoutOf, horphans, ← List.append_assoc]
  -- an id is changed only if a scene before it has the same
  refine mem_distinctIds ?_
  rw [List.map_append, List.mem_append, not_or]
  have hlive := @id_not_mem_liveScenes components previous options settings s hs horphan
  refine ⟨hlive, ?_⟩
  -- the retained scenes have distinct ids, as they were read from one text
  rw [hids]
  intro h
  obtain ⟨s', hs', hid⟩ := List.mem_map.1 h
  have hsub : (before ++ s :: after).Sublist (Storyboard.ofPrevious previous).scenes :=
    hsplit ▸ retained_sublist
  have hnodup : (before ++ s :: after).Nodup := (nodup_scenes_ofPrevious previous).sublist hsub
  obtain rfl : s' = s := eq_of_id_eq hs (hsub.subset (by simp [hs'])) hid
  exact (List.nodup_append.1 hnodup).2.2 s' hs' s' (by simp) rfl

end

/-! ## Rounds -/

namespace Round

/-- The text after a series of rounds. -/
def after (text : String) (rounds : List Round) : String :=
  rounds.foldl (fun text r => (r.generate (some text)).text) text

/-- One round keeps an orphan. -/
theorem exists_mem_parse_generate {r : Round} {text : String} {s : Scene}
    (hpreserve : r.options.preserveExisting) (hsound : r.IsSound (some text))
    (hs : s ∈ (parse text).scenes) (horphan : s.IsOrphan r.components) :
    ∃ left, s.atLeft left ∈ (parse (r.generate (some text)).text).scenes ∧
      (s.box.top ≠ r.settings.topRow → left = s.box.left) := by
  have hs' : s ∈ (Storyboard.ofPrevious (some text)).scenes := hs
  obtain ⟨left, hmem, hleft⟩ := @exists_mem_layout_of_orphan r.components (some text) r.options
    r.settings s hpreserve hs' horphan
  refine ⟨left, ?_, hleft⟩
  rw [hsound.scenes_parse]
  refine List.mem_map.2 ⟨_, hmem, ?_⟩
  -- what the scene shows is read off its body, which is the same
  have hcomponent : Body.component? s.body = s.component := (component_of_mem hs').symm
  rw [PlacedScene.asWritten]
  simp only [PlacedScene.template, Origin.component?, Option.bind_none, Template.body, Scene.atLeft,
    hcomponent]

/-- An orphan of every round of a series is there after each round with everything but its left
edge, which changes only in a round that has the scene in its top row; and no round reports it as
pruned or superseded. -/
theorem exists_mem_parse_after {text : String} {rounds : List Round} {s : Scene}
    (hpreserve : ∀ r ∈ rounds, r.options.preserveExisting)
    (hsound : ∀ (i : Nat) (hi : i < rounds.length),
      rounds[i].IsSound (some (after text (rounds.take i))))
    (hs : s ∈ (parse text).scenes) (horphan : ∀ r ∈ rounds, s.IsOrphan r.components) :
    ∃ lefts : Nat → Int, lefts 0 = s.box.left ∧
      (∀ i ≤ rounds.length, s.atLeft (lefts i) ∈ (parse (after text (rounds.take i))).scenes) ∧
      ∀ (i : Nat) (hi : i < rounds.length),
        (s.box.top ≠ rounds[i].settings.topRow → lefts (i + 1) = lefts i) ∧
        s.id ∉ (rounds[i].generate (some (after text (rounds.take i)))).plan.pruned.map (·.id) ∧
        s.id ∉ (rounds[i].generate (some (after text (rounds.take i)))).plan.superseded := by
  induction rounds generalizing text s with
  | nil =>
    refine ⟨fun _ => s.box.left, rfl, fun i hi => ?_, fun i hi => absurd hi (by simp)⟩
    obtain rfl : i = 0 := Nat.le_zero.1 hi
    exact hs
  | cons r rounds ih =>
    obtain ⟨left, hmem, hleft⟩ := exists_mem_parse_generate (hpreserve r (by simp))
      (hsound 0 (by simp)) hs (horphan r (by simp))
    -- the scene goes on from where the first round leaves it
    obtain ⟨lefts, hfirst, hlater, hrounds⟩ := @ih (r.generate (some text)).text (s.atLeft left)
      (fun r' hr' => hpreserve r' (by simp [hr']))
      (fun i hi => hsound (i + 1) (by simpa using hi)) hmem
      (fun r' hr' => ⟨(horphan r' (by simp [hr'])).component, (horphan r' (by simp [hr'])).id⟩)
    refine ⟨fun | 0 => s.box.left | i + 1 => lefts i, rfl, fun i hi => ?_, fun i hi => ?_⟩
    · -- the first text, and those of the later rounds
      cases i with
      | zero => exact hs
      | succ i => exact hlater i (by simpa using hi)
    · -- the first round, and the later ones
      cases i with
      | zero =>
        exact ⟨fun htop => hfirst.trans (hleft htop),
          @id_not_mem_pruned r.components (some text) r.options s hs (horphan r (by simp)),
          @id_not_mem_superseded r.components (some text) r.options s hs (horphan r (by simp))⟩
      | succ i => exact hrounds i (by simpa using hi)

/-- A note that was drawn by hand, in a round that finds a card and in one that finds nothing. -/
theorem note_mem_parse_after :
    let text := "<Scene id='note' commentId='n' style=\x7b\x7bwidth: 9, height: 9, left: 5, " ++
      "top: 40\x7d\x7d data-label='My note'>text</Scene>"
    let card : Component := ⟨"Card", "components/Card.tsx", .component, true, false, none⟩
    let rounds : List Round := [⟨[card], {}, {}, "../src"⟩, ⟨[], {}, {}, "../src"⟩]
    ⟨"note", ⟨⟨9, 9⟩, 5, 40⟩, "My note", none, "text"⟩ ∈ (parse (after text rounds)).scenes := by
  intro text card rounds
  let note : Scene := ⟨"note", ⟨⟨9, 9⟩, 5, 40⟩, "My note", none, "text"⟩
  have hread : parse text = ⟨[note], []⟩ := by decide +kernel
  have hlayout (r : Round) (text : String) : (r.generate (some text)).layout =
      Layout.place (reconcile r.components (parse text) r.options) r.components r.settings := rfl
  have hprevious : Storyboard.ofPrevious (some text) = ⟨[note], []⟩ := hread
  have hfirst : rounds[0].IsSound (some text) := by
    refine ⟨by decide, by decide +kernel, by simp [hprevious], ?_⟩
    rw [hlayout, hread]
    decide +kernel
  -- the text of the first round is known by what is read from it
  have hlayout₁ : (rounds[0].generate (some text)).layout.scenes =
      [⟨⟨"card-scene", ⟨⟨700, 700⟩, 212, 1584⟩, "Card", some "Card", ""⟩, .placed "Card"⟩,
        ⟨note, .retained note.box⟩] := by
    rw [hlayout, hread]
    decide +kernel
  have hscenes : (parse (rounds[0].generate (some text)).text).scenes =
      [⟨"card-scene", ⟨⟨700, 700⟩, 212, 1584⟩, "Card", some "Card",
        "\n      <Card style=\x7b\x7b\x7d\x7d />\n    "⟩, note] := by
    rw [hfirst.scenes_parse, hlayout₁]
    decide +kernel
  have himports :
      (parse (rounds[0].generate (some text)).text).imports = [card.asImport "../src"] := by
    obtain ⟨others, himports, hnone⟩ := hfirst.exists_imports_parse
    have hfree : ∀ p ∈ (rounds[0].generate (some text)).layout.scenes,
        IsImportFree rounds[0].components p := by
      rw [hlayout₁]
      decide +kernel
    rw [himports, hnone hfree, hprevious]
    decide +kernel
  have hboard (b : Storyboard) : b = ⟨b.scenes, b.imports⟩ := rfl
  have hsecond : rounds[1].IsSound (some (rounds[0].generate (some text)).text) := by
    refine ⟨by decide, by simp [rounds], ?_, ?_⟩
    · rw [Storyboard.ofPrevious, Option.map_some, Option.getD_some, himports]
      decide +kernel
    · rw [hlayout, hboard (parse _), hscenes, himports]
      decide +kernel
  have hsound : ∀ (i : Nat) (hi : i < rounds.length),
      rounds[i].IsSound (some (after text (rounds.take i))) := by
    intro i hi
    match i, hi with
    | 0, _ => exact hfirst
    | 1, _ => exact hsecond
  have hnote : note ∈ (parse text).scenes := by simp [hread]
  obtain ⟨lefts, hstart, hmem, hrounds⟩ :=
    exists_mem_parse_after (by decide) hsound hnote (by decide +kernel)
  have hleft : lefts 2 = 5 := ((hrounds 1 (by decide)).1 (by decide)).trans
    (((hrounds 0 (by decide)).1 (by decide)).trans hstart)
  have hlast := hmem 2 (by decide)
  rw [hleft] at hlast
  exact hlast

end Round

end SceneBoard
