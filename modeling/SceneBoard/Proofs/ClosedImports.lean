import SceneBoard.Proofs.Orphans
import SceneBoard.Proofs.ShownComponent

/-!
# What scenes refer to is imported

A storyboard is closed if every component to which one of its scenes refers is imported. A
generation keeps it so: the scene of a component refers to that component, which has its import line,
and a retained scene refers to components that are there, or else to imports of before, which are
kept for it. Nothing else is kept.

## Key results

- `Round.isImportClosed_parse_text`: one round keeps a storyboard closed
- `Round.isImportClosed_after`: so does a series of rounds
- `Round.isImportClosed_and_exists_imports`: one round, and which imports it keeps
-/

namespace SceneBoard

open Plan Draft Storyboard

/-- Every component to which a scene refers is imported. -/
def Storyboard.IsImportClosed (b : Storyboard) : Prop :=
  ∀ s ∈ b.scenes, ∀ name ∈ Body.references s.body, name ∈ b.imports.map (·.name)

instance (b : Storyboard) : Decidable b.IsImportClosed :=
  inferInstanceAs (Decidable (∀ s ∈ b.scenes, ∀ name ∈ Body.references s.body, _))

namespace Round

variable {r : Round} {previous : Option String}

/-- A scene of a layout refers to components that are there and to those of a retained scene. -/
theorem mem_names_or_exists_retained {p : PlacedScene} {name : String} (hsound : r.IsSound previous)
    (hp : p ∈ (r.generate previous).layout.scenes)
    (hname : name ∈ Body.references (p.template r.components).body) :
    name ∈ r.components.map (·.name) ∨
      ∃ s ∈ (r.generate previous).plan.retained, name ∈ Body.references s.body := by
  rw [layout_generate] at hp
  rcases template_of_mem_layout hsound.names hp with ⟨c, hc, htemplate⟩ | ⟨s, hs, htemplate⟩
  · -- the scene of a component refers to that component only
    rw [htemplate] at hname
    obtain rfl := eq_of_mem_references_ofComponent (hsound.components c hc).name hname
    exact .inl (List.mem_map_of_mem hc)
  · -- a retained scene has the body that it had
    rw [htemplate] at hname
    exact .inr ⟨s, hs, hname⟩

/-- One round keeps a storyboard closed. -/
theorem isImportClosed_parse_text (hsound : r.IsSound previous)
    (hclosed : (Storyboard.ofPrevious previous).IsImportClosed) :
    (parse (r.generate previous).text).IsImportClosed := by
  obtain ⟨others, himports, -⟩ := hsound.exists_imports_parse
  intro s hs name hname
  rw [hsound.scenes_parse] at hs
  obtain ⟨p, hp, rfl⟩ := List.mem_map.1 hs
  -- an import may stand behind another one of its name, but the name is imported all the same
  rw [himports, mem_map_distinctBy, List.map_append, List.map_append, List.map_map]
  refine List.mem_append_left _ (List.mem_append.2 ?_)
  by_cases hlive : name ∈ r.components.map (·.name)
  · -- of a component, or of before and kept, since a retained scene refers to it
    exact .inl hlive
  · obtain ⟨s, hs, hrefers⟩ := (mem_names_or_exists_retained hsound hp hname).resolve_left hlive
    obtain ⟨i, hi, rfl⟩ := List.mem_map.1 (hclosed s (retained_sublist.subset hs) name hrefers)
    exact .inr (List.mem_map_of_mem (mem_keptImports_iff.2 ⟨hi, ⟨s, hs, hrefers⟩, hlive⟩))

/-- A series of rounds keeps a storyboard closed. -/
theorem isImportClosed_after {text : String} {rounds : List Round}
    (hsound : ∀ (i : Nat) (hi : i < rounds.length),
      rounds[i].IsSound (some (after text (rounds.take i))))
    (hclosed : (parse text).IsImportClosed) : (parse (after text rounds)).IsImportClosed := by
  -- by induction on the rounds, each of which starts from the text of the one before
  induction rounds generalizing text with
  | nil => exact hclosed
  | cons r rounds ih =>
    exact ih (fun i hi => hsound (i + 1) (by simpa using hi))
      (isImportClosed_parse_text (hsound 0 (by simp)) hclosed)

/-- A round keeps a storyboard closed, and behind the imports of the components it writes those
imports of before, each of another name, to which a retained scene refers and which are not those of
components. -/
theorem isImportClosed_and_exists_imports (hsound : r.IsSound previous)
    (hclosed : (Storyboard.ofPrevious previous).IsImportClosed) :
    (parse (r.generate previous).text).IsImportClosed ∧
      ∃ kept : List ImportLine, kept.Sublist (Storyboard.ofPrevious previous).imports ∧
        (r.generate previous).text = render (r.generate previous).layout.scenes r.components
          r.importPrefix (kept.map (·.line)) ∧
        (kept.map (·.name)).Nodup ∧
        ∀ i ∈ (Storyboard.ofPrevious previous).imports, i ∈ kept ↔
          (∃ s ∈ (r.generate previous).plan.retained, i.name ∈ Body.references s.body) ∧
            i.name ∉ r.components.map (·.name) := by
  refine ⟨isImportClosed_parse_text hsound hclosed,
    keptImports r.components (Storyboard.ofPrevious previous) r.options, List.filter_sublist,
    text_generate, nodup_name_keptImports .., fun i hi => ?_⟩
  rw [mem_keptImports_iff, and_iff_right hi]
  rfl

/-- A badge whose component is gone stays beside a new card, and its import with it. -/
theorem isImportClosed_and_exists_imports_badge :
    let text := "import \x7b Badge \x7d from './Badge'\n<Scene id='badge-scene' commentId='b' " ++
      "style=\x7b\x7bwidth: 9, height: 9, left: 5, top: 40\x7d\x7d data-label='Badge'>" ++
      "<Badge /></Scene>"
    let card : Component := ⟨"Card", "components/Card.tsx", .component, true, false, none⟩
    let r : Round := ⟨[card], { prune := false }, {}, "../src"⟩
    r.IsSound (some text) ∧ (Storyboard.ofPrevious (some text)).IsImportClosed ∧
      (parse (r.generate (some text)).text).IsImportClosed ∧
      ∃ kept : List ImportLine, kept.Sublist (Storyboard.ofPrevious (some text)).imports ∧
        (r.generate (some text)).text = render (r.generate (some text)).layout.scenes r.components
          r.importPrefix (kept.map (·.line)) ∧
        (kept.map (·.name)).Nodup ∧
        ∀ i ∈ (Storyboard.ofPrevious (some text)).imports, i ∈ kept ↔
          (∃ s ∈ (r.generate (some text)).plan.retained, i.name ∈ Body.references s.body) ∧
            i.name ∉ r.components.map (·.name) := by
  intro text card r
  -- the badge is read together with its import
  have hread : Storyboard.ofPrevious (some text) =
      ⟨[⟨"badge-scene", ⟨⟨9, 9⟩, 5, 40⟩, "Badge", some "Badge", "<Badge />"⟩],
        [⟨"Badge", "import \x7b Badge \x7d from './Badge'"⟩]⟩ := by decide +kernel
  have hsound : r.IsSound (some text) := by
    refine ⟨by decide, by decide +kernel, by rw [hread]; decide, ?_⟩
    rw [layout_generate, hread]
    decide +kernel
  have hclosed : (Storyboard.ofPrevious (some text)).IsImportClosed := by
    rw [hread]
    decide +kernel
  exact ⟨hsound, hclosed, isImportClosed_and_exists_imports hsound hclosed⟩

end Round

end SceneBoard
