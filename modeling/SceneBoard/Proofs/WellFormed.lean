import SceneBoard.Proofs.ImportSearch
import SceneBoard.Proofs.PreviousScenes

/-!
# What a text is read as

A text need not be one that was written as a storyboard: it may be edited, cut off, or anything
else. Reading it never fails, and what it gives is well formed all the same (`parse_isReadingOf`).

The blocks and the import lines of a text are what a search for them finds. Of the blocks with one
id the first counts that is complete, and of the lines that import one name the first; so a block
that is not complete hides no other (`isFirstOfEach_distinctBy`).
-/

namespace SceneBoard

open Text

/-! ## The first of each key -/

/-- The things `as` are read from members of `ms`, in their order, and of each key the first one
that can be read. -/
structure IsFirstOfEach {α β γ : Type} (Reads : γ → α → Prop) (key : α → β) (ms : List γ)
    (as : List α) : Prop where
  nodup : (as.map key).Nodup
  inOrder : ∃ ms', ms'.Sublist ms ∧ List.Forall₂ Reads ms' as
  mem_iff : ∀ a, a ∈ as ↔ ∃ before m after, ms = before ++ m :: after ∧ Reads m a ∧
    ∀ m' ∈ before, ∀ a', Reads m' a' → key a' ≠ key a

section

variable {α β γ : Type} [DecidableEq β] {Reads : γ → α → Prop} {key : α → β} {f : γ → Option α}
  {ms : List γ} {as : List α}

/-- Some of the results come from some of the matches, in the same order. -/
private theorem exists_forall₂_of_sublist (hreads : ∀ m ∈ ms, ∀ a, f m = some a → Reads m a)
    (h : as.Sublist (ms.filterMap f)) :
    ∃ ms', ms'.Sublist ms ∧ List.Forall₂ Reads ms' as := by
  induction ms generalizing as with
  | nil =>
    obtain rfl : as = [] := by simpa using h
    exact ⟨[], .slnil, .nil⟩
  | cons m ms ih =>
    have ih {as : List α} (h : as.Sublist (ms.filterMap f)) :=
      ih (fun m' hm' => hreads m' (by simp [hm'])) h
    -- a match that is not read is left out, a match that is read may be
    cases hm : f m with
    | none =>
      rw [List.filterMap_cons_none hm] at h
      obtain ⟨ms', hsub, hread⟩ := ih h
      exact ⟨ms', hsub.cons m, hread⟩
    | some a =>
      rw [List.filterMap_cons_some hm] at h
      cases h with
      | cons _ h =>
        obtain ⟨ms', hsub, hread⟩ := ih h
        exact ⟨ms', hsub.cons m, hread⟩
      | cons_cons _ h =>
        obtain ⟨ms', hsub, hread⟩ := ih h
        exact ⟨m :: ms', hsub.cons_cons m, .cons (hreads m (by simp) a hm) hread⟩

/-- Leaving out repeated keys leaves the first of each. -/
theorem isFirstOfEach_distinctBy (hreads : ∀ m ∈ ms, ∀ a, f m = some a ↔ Reads m a) :
    IsFirstOfEach Reads key ms (distinctBy key (ms.filterMap f)) where
  nodup := nodup_map_distinctBy _
  inOrder := exists_forall₂_of_sublist (fun m hm a => (hreads m hm a).1) (distinctBy_sublist _)
  mem_iff a := by
    rw [mem_distinctBy_iff]
    constructor
    · -- the match that is read, with the matches before it
      rintro ⟨as, as', heq, hkeys⟩
      obtain ⟨before, rest, rfl, rfl, hrest⟩ := List.filterMap_eq_append_iff.1 heq
      obtain ⟨unread, m, after, rfl, hunread, hm, -⟩ := List.filterMap_eq_cons_iff.1 hrest
      refine ⟨before ++ unread, m, after, by simp, (hreads m (by simp) a).1 hm, ?_⟩
      intro m' hm' a' ha'
      rcases List.mem_append.1 hm' with hm' | hm'
      · have hread := (hreads m' (by simp [hm']) a').2 ha'
        exact hkeys a' (List.mem_filterMap.2 ⟨m', hm', hread⟩)
      · have hread := (hreads m' (by simp [hm']) a').2 ha'
        simp [hunread m' hm'] at hread
    · -- no match before it is read with its key
      rintro ⟨before, m, after, rfl, hm, hkeys⟩
      refine ⟨before.filterMap f, after.filterMap f, ?_, ?_⟩
      · rw [List.filterMap_append, List.filterMap_cons_some ((hreads m (by simp) a).2 hm)]
      · intro a' ha'
        obtain ⟨m', hm', hread⟩ := List.mem_filterMap.1 ha'
        exact hkeys m' hm' a' ((hreads m' (by simp [hm']) a').1 hread)

end

namespace Storyboard

/-! ## Reading -/

/-- The storyboard is what stands in the text, where these blocks and import lines are found. -/
structure IsReadingOf (text : List Char) (blocks lines : List Match) (b : Storyboard) : Prop where
  /-- The blocks stand one behind the other, and no other block begins outside of them. -/
  blockSearch : IsSearch IsBlockPiece text blocks
  /-- A block holds what the pattern has remembered of it. -/
  blockParts : ∀ m ∈ blocks, ∃ id style label body, HasParts m id style label body ∧
    IsBlock id style label body m.text
  /-- The scenes are those of the first complete block of each id. -/
  scenes : IsFirstOfEach ReadsScene Scene.id blocks b.scenes
  wellFormed : ∀ s ∈ b.scenes, s.IsWellFormed
  /-- The import lines stand one behind the other, and no other one begins outside of them. -/
  lineSearch : IsSearch IsImportPiece text lines
  /-- An import without a line feed is never passed over as a part of another one. -/
  singleLines : ∀ before line after, text = before ++ (line ++ after) →
    IsImportPiece before line after → '\n' ∉ line →
    ∃ m ∈ lines, m.start.index = before.length ∧ m.text = line
  /-- The imports are those of the first line of each name. -/
  imports : IsFirstOfEach ReadsImport ImportLine.name lines b.imports
  names : ∀ i ∈ b.imports, ∃ x xs, i.name.toList = x :: xs ∧ 'A' ≤ x ∧ x ≤ 'Z'

/-- An imported name begins with a capital. -/
private theorem exists_capital {name line : List Char} (h : IsImportLine name line) :
    ∃ x xs, name = x :: xs ∧ 'A' ≤ x ∧ x ≤ 'Z' := by
  cases h with
  | mk hname =>
    cases name with
    | nil => exact hname.elim
    | cons x xs => exact ⟨x, xs, rfl, of_decide_eq_true hname.1⟩

/-- Whatever a text is, what is read from it is well formed: each id and each name once, from the
first place in the text that has all of it. -/
theorem parse_isReadingOf (text : String) :
    IsReadingOf text.toList (sceneBlock.findAll text.toList) (componentImport.findAll text.toList)
      (parse text) where
  blockSearch := describes_sceneBlock.isSearch _
  blockParts _ hm := exists_hasParts_of_mem_findAll hm
  scenes := isFirstOfEach_distinctBy fun _ _ _ => scene?_eq_some_iff
  wellFormed _ hs := isWellFormed_of_mem_parse hs
  lineSearch := describes_componentImport.isSearch _
  singleLines _ _ _ hcs hpiece hfeed := exists_match_of_line hcs hpiece hfeed
  imports := isFirstOfEach_distinctBy fun _ hm _ => importLine?_eq_some_iff hm
  names _ hi := exists_capital (isWhole_of_mem_imports hi).line

/-- A block whose style tells no box does not hide a later one with its id. -/
example : (parse ("<Scene id='a' commentId='a' style=\x7b\x7bwidth: 1\x7d\x7d " ++
    "data-label='A'></Scene>" ++
    "<Scene id='a' commentId='a' style=\x7b\x7bwidth: 1 height: 1 left: 0 top: -2\x7d\x7d " ++
    "data-label='B'></Scene>")).scenes.map (fun s => (s.label, s.box)) =
    [("B", ⟨⟨1, 1⟩, 0, -2⟩)] := by
  decide +kernel

end Storyboard

end SceneBoard
