import SceneBoard.Proofs.ClosedRow
import SceneBoard.Proofs.Completeness

/-!
# What closing up the top row does

Closing up moves scenes of the top row and nothing else. This module says where each of them goes,
by its position in the final order of the scenes: the leftmost playground and the leftmost
application go to their places, and the other scenes follow from a base on, one spacing apart from
each other and in the order in which they stood (`IsClosingUp`). Where several stood at one place,
the final order decides, so components go before orphans.

The row itself is kept as a sorted list of entries, whose ranks are the positions
(`perm_entries_inOrder`). So the first entry of a kind is that of its leftmost scene
(`head?_ofKind`), and of two entries the one farther to the left comes first
(`exists_lt_of_not_le`).

## Key results

- `isClosingUp_finish`: closing up the row of any complete draft
- `isClosingUp_place`: that of a layout, with the scenes that the plan has for it
-/

namespace SceneBoard

namespace Draft

/-! ## Sorted rows -/

section

/-- Entries are ordered by their left edge, and then by their rank. -/
theorem RowEntry.le_iff {e e' : RowEntry} :
    e.le e' ↔ e.left < e'.left ∨ e.left = e'.left ∧ e.rank ≤ e'.rank := by
  simp [RowEntry.le]

variable {row : List RowEntry} {kind : RowKind} {e e' : RowEntry}

/-- An entry of a kind comes first if it does not come after any other. -/
theorem head?_ofKind (hsorted : row.Pairwise fun a b => a.le b)
    (hranks : ∀ e ∈ row, ∀ e' ∈ row, e.rank = e'.rank → e = e') (he : e ∈ ofKind kind row)
    (hfirst : ∀ e' ∈ ofKind kind row, e.le e') : (ofKind kind row).head? = some e := by
  have hsublist : (ofKind kind row).Sublist row := List.filter_sublist
  have hkind := hsorted.sublist hsublist
  cases hrow : ofKind kind row with
  | nil => simp [hrow] at he
  | cons e' es =>
    rw [hrow] at he hfirst hkind
    have hle := RowEntry.le_iff.1 (hfirst e' (by simp))
    cases List.mem_cons.1 he with
    | inl heq => rw [heq, List.head?_cons]
    | inr he =>
      -- neither stands before the other, so they have one rank and are one entry
      have hge := RowEntry.le_iff.1 ((List.pairwise_cons.1 hkind).1 e he)
      have hmem : e' ∈ row := hsublist.subset (by simp [hrow])
      have hmem' : e ∈ row := hsublist.subset (by simp [hrow, he])
      rw [List.head?_cons, hranks e' hmem e hmem' (by omega)]

/-- Of two entries of a kind, the one that comes before the other does so in the row. -/
theorem exists_lt_of_not_le (hsorted : row.Pairwise fun a b => a.le b) (he : e ∈ ofKind kind row)
    (he' : e' ∈ ofKind kind row) (hle : ¬ e'.le e) :
    ∃ i j : Nat, i < j ∧ (ofKind kind row)[i]? = some e ∧ (ofKind kind row)[j]? = some e' := by
  have hkind := hsorted.sublist (List.filter_sublist (p := (·.kind == kind)))
  obtain ⟨i, hi, rfl⟩ := List.mem_iff_getElem.1 he
  obtain ⟨j, hj, rfl⟩ := List.mem_iff_getElem.1 he'
  refine ⟨i, j, ?_, List.getElem?_eq_getElem hi, List.getElem?_eq_getElem hj⟩
  -- the other way round the row would have them in the other order
  apply Nat.lt_of_not_le
  intro hji
  apply hle
  cases Nat.lt_or_eq_of_le hji with
  | inl hlt => exact List.pairwise_iff_getElem.1 hkind j i hj hi hlt
  | inr heq =>
    subst heq
    exact RowEntry.le_iff.2 (.inr ⟨rfl, Nat.le_refl _⟩)

end

/-! ## Positions -/

/-- The slot of the scene at a position of the final order. -/
def slotAt (components : List Component) (i : Nat) : Slot :=
  match components[i]? with
  | some c => .live c.name
  | none => .orphan (i - components.length)

/-- At the position of a component is its slot. -/
theorem slotAt_of_some {components : List Component} {i : Nat} {c : Component}
    (hc : components[i]? = some c) : slotAt components i = .live c.name := by
  rw [slotAt, hc]

/-- Behind the components are the slots of the scenes left over. -/
theorem slotAt_orphan (components : List Component) (i : Nat) :
    slotAt components (components.length + i) = .orphan i := by
  rw [slotAt, List.getElem?_eq_none (by omega), Nat.add_sub_cancel_left]

/-- The rank of a component is its position. -/
theorem rankOf_eq {components : List Component} (hnames : (components.map (·.name)).Nodup)
    (orphans : Nat) {i : Nat} {c : Component} (hc : components[i]? = some c) :
    rankOf components orphans c.name = i := by
  obtain ⟨hi, hget⟩ := List.getElem?_eq_some_iff.1 hc
  -- the names are looked for from the end, and this one is found at its position
  have hindex : components.reverse.findIdx? (·.name == c.name) = some (components.length - 1 - i) := by
    rw [List.findIdx?_eq_some_iff_getElem]
    refine ⟨by simp; omega, ?_, fun j hj => ?_⟩
    · simp only [List.getElem_reverse, beq_iff_eq, ← hget]
      congr 2
      omega
    · -- another position has another name
      simp only [List.getElem_reverse, beq_iff_eq]
      intro hname
      have hlt : components.length - 1 - j < components.length := by omega
      have hposition : components.length - 1 - j = i := by
        apply (List.getElem?_inj (by simpa using hlt) hnames).1
        rw [List.getElem?_map, List.getElem?_map, List.getElem?_eq_getElem hlt, hc, Option.map_some,
          Option.map_some, hname]
      omega
  rw [rankOf, hindex]
  simp only
  omega

namespace IsComplete

variable {d : Draft} {components : List Component} {settings : LayoutSettings}
  (h : d.IsComplete components)

include h

/-- Closing up leaves a complete draft complete. -/
theorem compact : (d.compact components settings).IsComplete components := by
  refine ⟨h.names, ?_, fun a ha => ?_, fun c hc => ?_⟩
  · rw [map_fst_compact]
    exact h.assigned
  · have hmem := List.mem_map_of_mem (f := (·.1)) ha
    rw [map_fst_compact] at hmem
    obtain ⟨a', ha', hname⟩ := List.mem_map.1 hmem
    exact hname ▸ h.keys a' ha'
  · obtain ⟨p, hp⟩ := h.scene c hc
    exact ⟨_, by rw [scene?_compact, hp, Option.map_some]⟩

/-- Closing up moves the scene at each position. -/
theorem getElem?_inOrder_compact (i : Nat) :
    ((d.compact components settings).inOrder components)[i]? =
      ((d.inOrder components)[i]?).map (d.moved components settings (slotAt components i)) := by
  have hcompact : (d.compact components settings).IsComplete components := h.compact
  cases hc : components[i]? with
  | some c =>
    rw [hcompact.getElem?_inOrder hc, h.getElem?_inOrder hc, scene?_compact, slotAt_of_some hc]
  | none =>
    obtain ⟨j, rfl⟩ := Nat.exists_eq_add_of_le (List.getElem?_eq_none_iff.1 hc)
    rw [hcompact.getElem?_inOrder_orphan, h.getElem?_inOrder_orphan, orphans_compact, slotAt_orphan,
      List.getElem?_map, List.getElem?_zipIdx, Option.map_map]
    simp [Function.comp_def]

/-- The entries of the row are those of the positions at which scenes of the row stand. -/
theorem perm_entries_inOrder : (d.entries components settings).Perm
    ((d.inOrder components).zipIdx.filterMap fun o =>
      entryOf? components settings (slotAt components o.2) o.2 o.1) := by
  obtain ⟨f, hf, hinOrder⟩ := h.exists_inOrder_eq
  -- the scenes of the components, in their order
  have hassigned : d.assigned.Perm (components.map fun c => (c.name, f c)) := by
    apply perm_assigned h.assigned h.names hf
    intro name hname
    rw [scene?, List.lookup_eq_none_iff]
    intro a ha
    obtain ⟨c, hc, heq⟩ := List.mem_map.1 (h.keys a ha)
    simpa [← heq] using (hname c hc).symm
  have hlive : (components.map f).zipIdx.filterMap (fun o =>
        entryOf? components settings (slotAt components o.2) o.2 o.1) =
      components.filterMap fun c => entryOf? components settings (.live c.name)
        (rankOf components d.orphans.length c.name) (f c) := by
    conv => rhs; arg 2; rw [← List.zipIdx_map_fst 0 components]
    rw [List.filterMap_map, List.zipIdx_map, List.filterMap_map]
    refine List.filterMap_congr fun o ho => ?_
    have hc := List.mk_mem_zipIdx_iff_getElem?.1 ho
    simp only [Function.comp_apply, Prod.map_fst, Prod.map_snd, id_eq, slotAt_of_some hc,
      rankOf_eq h.names _ hc]
  -- the scenes left over stand behind them
  have horphans : (d.orphans.zipIdx (0 + (components.map f).length)).filterMap (fun o =>
        entryOf? components settings (slotAt components o.2) o.2 o.1) =
      d.orphans.zipIdx.filterMap fun o =>
        entryOf? components settings (.orphan o.2) (components.length + o.2) o.1 := by
    rw [Nat.zero_add, List.length_map, List.zipIdx_eq_map_add, List.filterMap_map]
    refine List.filterMap_congr fun o _ => ?_
    simp only [Function.comp_apply, slotAt_orphan]
  apply (perm_entries_of_assigned hassigned).trans
  rw [hinOrder, List.zipIdx_append, List.filterMap_append, hlive, horphans]

/-- A scene of the row has an entry, whose rank is its position. -/
theorem mem_row_iff {e : RowEntry} : e ∈ d.row components settings ↔
    ∃ p, (d.inOrder components)[e.rank]? = some p ∧ inTopRow components settings p ∧
      e = ⟨slotAt components e.rank, rowKind settings p, p.scene.box.left, e.rank⟩ := by
  rw [(perm_row d components settings).mem_iff, h.perm_entries_inOrder.mem_iff, List.mem_filterMap]
  constructor
  · rintro ⟨⟨p, i⟩, hp, he⟩
    obtain ⟨hrow, rfl⟩ := entryOf?_eq_some_iff.1 he
    exact ⟨p, List.mk_mem_zipIdx_iff_getElem?.1 hp, hrow, rfl⟩
  · rintro ⟨p, hp, hrow, he⟩
    exact ⟨(p, e.rank), List.mk_mem_zipIdx_iff_getElem?.2 hp, entryOf?_eq_some_iff.2 ⟨hrow, he⟩⟩

/-- In a row ranks are distinct. -/
theorem eq_of_rank_eq : ∀ e ∈ d.row components settings, ∀ e' ∈ d.row components settings,
    e.rank = e'.rank → e = e' := by
  intro e he e' he' hrank
  obtain ⟨p, hp, -, heq⟩ := h.mem_row_iff.1 he
  obtain ⟨p', hp', -, heq'⟩ := h.mem_row_iff.1 he'
  rw [hrank] at hp heq
  rw [heq, heq', Option.some.inj (hp.symm.trans hp')]

/-- Where a scene stands when the row is closed up and ids are distinct. -/
theorem left_finish {i : Nat} {p q : PlacedScene} (hp : (d.inOrder components)[i]? = some p)
    (hq : (distinctIds ((d.compact components settings).inOrder components))[i]? = some q) :
    q.scene.box.left =
      ((d.goals components settings).lookup (slotAt components i)).getD p.scene.box.left := by
  -- renumbering leaves the place that the scene is moved to
  have hmoved : ((d.compact components settings).inOrder components)[i]? =
      some (d.moved components settings (slotAt components i) p) := by
    rw [h.getElem?_inOrder_compact, hp, Option.map_some]
  obtain ⟨q', hq', hsame, -⟩ := exists_getElem?_distinctIds hmoved
  rw [Option.some.inj (hq.symm.trans hq'), hsame, moved_eq]
  rfl

end IsComplete

end Draft

open Draft

/-! ## Scenes of the row -/

section

variable (components : List Component) (settings : LayoutSettings)

/-- The scene at a position belongs to the top row and is of a kind. -/
def IsOfKindAt (kind : RowKind) (ps : List PlacedScene) (i : Nat) : Prop :=
  ∃ p, ps[i]? = some p ∧ inTopRow components settings p ∧ rowKind settings p = kind

/-- The scene at position `i` stands to the left of that at `j`, or at the same place and before it
in the list. -/
def StandsBefore (ps : List PlacedScene) (i j : Nat) : Prop :=
  ∃ p q, ps[i]? = some p ∧ ps[j]? = some q ∧ (p.scene.box.left < q.scene.box.left ∨
    p.scene.box.left = q.scene.box.left ∧ i < j)

/-- The scene at a position is the leftmost one of its kind in the top row. -/
structure IsLeftmost (kind : RowKind) (ps : List PlacedScene) (i : Nat) : Prop where
  mem : IsOfKindAt components settings kind ps i
  first : ∀ j, IsOfKindAt components settings kind ps j → j ≠ i → StandsBefore ps i j

/-- There is a scene of a kind in the top row. -/
def hasKind (kind : RowKind) (ps : List PlacedScene) : Bool :=
  !(rowScenes components settings kind ps).isEmpty

variable {components settings} in
/-- Whether there is a scene of a kind does not depend on the order. -/
theorem hasKind_congr {kind : RowKind} {ps qs : List PlacedScene}
    (h : (rowScenes components settings kind ps).Perm (rowScenes components settings kind qs)) :
    hasKind components settings kind ps = hasKind components settings kind qs := by
  rw [hasKind, hasKind, h.isEmpty_eq]

/-- The scenes of `after` are those of `before` with the top row closed up. -/
structure IsClosingUp (before after : List PlacedScene) : Prop where
  /-- Nothing changes but ids and, in the row, left edges. -/
  moved : List.Forall₂ (IsMovedTo components settings) before after
  playground : ∀ i q, IsLeftmost components settings .playground before i → after[i]? = some q →
    q.scene.box.left = settings.playgroundLeft
  app : ∀ i q, IsLeftmost components settings .app before i → after[i]? = some q →
    q.scene.box.left = appPlace settings (hasKind components settings .playground before)
  /-- The others follow without gaps. -/
  plain : ((rowScenes components settings .plain after).map (·.scene.box.left)).Perm
    ((List.range (rowScenes components settings .plain before).length).map fun (k : Nat) =>
      rowBase settings (hasKind components settings .playground before)
        (hasKind components settings .app before) + k * settings.spacing)
  /-- They do so in their order. -/
  order : ∀ i j p q, IsOfKindAt components settings .plain before i →
    IsOfKindAt components settings .plain before j → StandsBefore before i j →
      after[i]? = some p → after[j]? = some q → p.scene.box.left < q.scene.box.left

end

section

variable {components : List Component} {settings : LayoutSettings} {d : Draft}
  (h : d.IsComplete components)

include h

/-- A position in the row has an entry. -/
private theorem exists_entry {kind : RowKind} {i : Nat}
    (hi : IsOfKindAt components settings kind (d.inOrder components) i) :
    ∃ e ∈ ofKind kind (d.row components settings), e.rank = i ∧ e.slot = slotAt components i ∧
      ∃ p, (d.inOrder components)[i]? = some p ∧ e.left = p.scene.box.left := by
  obtain ⟨p, hp, hrow, rfl⟩ := hi
  refine ⟨⟨slotAt components i, rowKind settings p, p.scene.box.left, i⟩, ?_, rfl, rfl, p, hp, rfl⟩
  exact List.mem_filter.2 ⟨h.mem_row_iff.2 ⟨p, hp, hrow, rfl⟩, beq_self_eq_true _⟩

/-- The leftmost scene of a kind has the first entry. -/
private theorem head?_of_isLeftmost {kind : RowKind} {i : Nat}
    (hi : IsLeftmost components settings kind (d.inOrder components) i) :
    ∃ e, (ofKind kind (d.row components settings)).head? = some e ∧ e.slot = slotAt components i := by
  obtain ⟨e, he, hrank, hslot, p, hp, hleft⟩ := exists_entry h hi.mem
  refine ⟨e, head?_ofKind (pairwise_row d components settings) h.eq_of_rank_eq he ?_, hslot⟩
  intro e' he'
  obtain ⟨hmem, hkind⟩ := List.mem_filter.1 he'
  obtain ⟨p', hp', hrow, heq⟩ := h.mem_row_iff.1 hmem
  -- any other entry of the kind stands behind it
  by_cases hsame : e'.rank = i
  · rw [h.eq_of_rank_eq e' hmem e (List.mem_filter.1 he).1 (hsame.trans hrank.symm)]
    exact RowEntry.le_iff.2 (.inr ⟨rfl, Nat.le_refl _⟩)
  · have hposition : IsOfKindAt components settings kind (d.inOrder components) e'.rank :=
      ⟨p', hp', hrow, by rw [heq] at hkind; exact eq_of_beq hkind⟩
    obtain ⟨q, q', hq, hq', hbefore⟩ := hi.first _ hposition hsame
    obtain rfl : p = q := Option.some.inj (hp.symm.trans hq)
    obtain rfl : p' = q' := Option.some.inj (hp'.symm.trans hq')
    have hleft' : e'.left = p'.scene.box.left := by rw [heq]
    rw [RowEntry.le_iff, hleft, hleft', hrank]
    omega

/-- Of each kind there are as many entries as scenes of the row. -/
theorem length_ofKind_row_eq (kind : RowKind) :
    (ofKind kind (d.row components settings)).length =
      (rowScenes components settings kind (d.inOrder components)).length := by
  have hscenes := h.perm_inOrder.filter fun p =>
    inTopRow components settings p && rowKind settings p == kind
  rw [rowScenes, hscenes.length_eq, ← rowScenes, ← length_ofKind_entries]
  exact ((perm_row d components settings).filter _).length_eq

/-- The row has an entry of each kind that the scenes have. -/
theorem isSome_head?_ofKind (kind : RowKind) :
    (ofKind kind (d.row components settings)).head?.isSome =
      hasKind components settings kind (d.inOrder components) := by
  have hlength : (ofKind kind (d.row components settings)).length =
      (rowScenes components settings kind (d.inOrder components)).length :=
    length_ofKind_row_eq h kind
  unfold hasKind
  cases hrow : ofKind kind (d.row components settings) with
  | nil =>
    rw [hrow] at hlength
    rw [List.length_eq_zero_iff.1 hlength.symm]
    rfl
  | cons e es =>
    rw [hrow] at hlength
    rw [List.isEmpty_eq_false_iff.2 (List.ne_nil_of_length_eq_add_one hlength.symm)]
    rfl

omit h in
/-- The left edges of the scenes of a kind, as the outlines of the row tell them. -/
theorem map_left_rowScenes (kind : RowKind) (ps : List PlacedScene) :
    (rowScenes components settings kind ps).map (·.scene.box.left) =
      ((outlines components settings ps).filter (·.1 == kind)).map (·.2) := by
  rw [outlines, List.filter_map, List.filter_filter, List.map_map, rowScenes]
  simp only [Function.comp_def, Bool.and_comm]

omit h in
/-- The entries of a kind have the left edges of the scenes of that kind. -/
theorem perm_map_left_ofKind (components : List Component) (settings : LayoutSettings) (d : Draft)
    (kind : RowKind) :
    ((ofKind kind (d.row components settings)).map (·.left)).Perm
      ((rowScenes components settings kind d.scenes).map (·.scene.box.left)) := by
  rw [map_left_rowScenes, ← map_entries, List.filter_map, List.map_map]
  exact ((perm_row d components settings).filter _).map _

/-- The scenes that are no anchors follow from the base on. -/
private theorem perm_plain_finish :
    ((rowScenes components settings .plain
      (distinctIds ((d.compact components settings).inOrder components))).map
        (·.scene.box.left)).Perm
      ((List.range (ofKind .plain (d.row components settings)).length).map fun (k : Nat) =>
        plainBase settings (d.row components settings) + k * settings.spacing) := by
  have hcompact : (d.compact components settings).IsComplete components := h.compact
  have hperm : (outlines components settings
      (distinctIds ((d.compact components settings).inOrder components))).Perm
        ((d.row components settings).map fun e =>
          (e.kind, (closedUp settings (d.row components settings) e).left)) := by
    rw [outlines_distinctIds]
    exact ((hcompact.perm_inOrder.filter _).map _).trans
      (perm_outlines_compact d components settings)
  -- what the plain entries are closed up to
  have hplain : (((d.row components settings).map fun e =>
      (e.kind, (closedUp settings (d.row components settings) e).left)).filter
        (·.1 == RowKind.plain)).map (·.2) =
      (plainClosed settings (d.row components settings)).map (·.left) := by
    rw [← map_closedUp_plain (nodup_slots h.assigned), List.filter_map, List.map_map, List.map_map]
    rfl
  rw [map_left_rowScenes]
  apply ((hperm.filter _).map _).trans
  rw [hplain, plainClosed, List.map_map, List.range_eq_range', ← List.zipIdx_map_snd, List.map_map]
  rfl

/-- Closing up the top row of a complete draft. -/
theorem isClosingUp_finish (hspacing : 1 ≤ settings.spacing) :
    IsClosingUp components settings (d.inOrder components)
      (distinctIds ((d.compact components settings).inOrder components)) := by
  have hslots : ((d.row components settings).map (·.slot)).Nodup := nodup_slots h.assigned
  have hgoal {i : Nat} {q : PlacedScene} {left : Int} {kind : RowKind}
      (hi : IsOfKindAt components settings kind (d.inOrder components) i)
      (hq : (distinctIds ((d.compact components settings).inOrder components))[i]? = some q)
      (hleft : (targets settings (d.row components settings)).lookup (slotAt components i) =
        some left) : q.scene.box.left = left := by
    obtain ⟨p, hp, -, -⟩ := hi
    rw [h.left_finish hp hq, goals, hleft, Option.getD_some]
  refine ⟨forall₂_finish h.assigned, ?_, ?_, ?_, ?_⟩
  · -- the first playground
    intro i q hi hq
    obtain ⟨e, he, hslot⟩ := head?_of_isLeftmost h hi
    exact hgoal hi.mem hq (hslot ▸ lookup_playground hslots he)
  · -- the first app, whose place depends on the playground
    intro i q hi hq
    obtain ⟨e, he, hslot⟩ := head?_of_isLeftmost h hi
    rw [← isSome_head?_ofKind h]
    exact hgoal hi.mem hq (hslot ▸ lookup_app hslots he)
  · -- the plain scenes, which stand one spacing apart
    rw [← isSome_head?_ofKind h, ← isSome_head?_ofKind h, ← length_ofKind_row_eq h]
    exact perm_plain_finish h
  · -- and their order
    intro i j p q hi hj hbefore hp hq
    obtain ⟨e, he, hrank, hslot, r, hr, hleft⟩ := exists_entry h hi
    obtain ⟨e', he', hrank', hslot', r', hr', hleft'⟩ := exists_entry h hj
    -- which of the two stood first is the order in which the row is sorted
    have hle : ¬ e'.le e := by
      obtain ⟨s, s', hs, hs', hbefore⟩ := hbefore
      obtain rfl : r = s := Option.some.inj (hr.symm.trans hs)
      obtain rfl : r' = s' := Option.some.inj (hr'.symm.trans hs')
      rw [RowEntry.le_iff]
      omega
    obtain ⟨a, b, hab, ha, hb⟩ :=
      exists_lt_of_not_le (pairwise_row d components settings) he he' hle
    rw [hgoal hi hp (hslot ▸ lookup_plain hslots (List.mk_mem_zipIdx_iff_getElem?.2 ha)),
      hgoal hj hq (hslot' ▸ lookup_plain hslots (List.mk_mem_zipIdx_iff_getElem?.2 hb))]
    have hsteps : (a : Int) * settings.spacing < b * settings.spacing :=
      Int.mul_lt_mul_of_pos_right (by omega) (by omega)
    omega

end

/-! ## Layouts of plans -/

/-- The scenes of a draft in its final order, before the row is closed up: those of the components,
each as the plan keeps it or a new one, and then those that the plan retains. -/
structure Plan.HasScenes (plan : Plan) (components : List Component) (ps : List PlacedScene) :
    Prop where
  length : ps.length = components.length + plan.retained.length
  kept : ∀ (i : Nat) (c : Component), components[i]? = some c → ∀ b ∈ plan.kept,
    b.component = c.name → ps[i]? = some ⟨b.scene, .kept c.name b.scene.box⟩
  placed : ∀ (i : Nat) (c : Component), components[i]? = some c → c.name ∈ plan.pending →
    ∃ box label, ps[i]? = some (newScene c box label)
  retained : ∀ i, ps[components.length + i]? =
    plan.retained[i]?.map fun s => ⟨s, .retained s.box⟩

/-- A plan that covers the components has its scenes at their positions. -/
theorem hasScenes_placeAll {plan : Plan} {components : List Component} {settings : LayoutSettings}
    (hnames : (components.map (·.name)).Nodup) (hplan : plan.Covers components) :
    plan.HasScenes components
      (((ofPlan plan components).placeAll components settings).inOrder components) := by
  have hcomplete := isComplete_placeAll settings hnames hplan
  have horphans : ((ofPlan plan components).placeAll components settings).orphans =
      plan.retained.map fun s => ⟨s, .retained s.box⟩ :=
    (stages_placeAll _ components settings).orphans
  refine ⟨?_, fun i c hc b hb hname => ?_, fun i c hc hpending => ?_, fun i => ?_⟩
  · -- the components and the retained scenes
    obtain ⟨f, -, hinOrder⟩ := hcomplete.exists_inOrder_eq
    rw [hinOrder, horphans, List.length_append, List.length_map, List.length_map]
  · rw [hcomplete.getElem?_inOrder hc, ← hname]
    exact scene?_placeAll_of_kept settings hnames hplan hb
  · obtain ⟨box, label, -, hscene⟩ :=
      scene?_placeAll_of_pending settings hnames hplan (List.mem_of_getElem? hc) hpending
    exact ⟨box, label, by rw [hcomplete.getElem?_inOrder hc, hscene]⟩
  · rw [hcomplete.getElem?_inOrder_orphan, horphans, List.getElem?_map]

/-- The layout of a reconciliation has the scenes that were kept, placed and retained with the top
row closed up, and no other change is made to them than to their ids. -/
theorem isClosingUp_place (components : List Component) (prior : Storyboard)
    (options : ReconcileOptions) (settings : LayoutSettings)
    (hnames : (components.map (·.name)).Nodup) (hspacing : 1 ≤ settings.spacing) :
    let plan := Plan.reconcile components prior options
    let before := ((ofPlan plan components).placeAll components settings).inOrder components
    plan.HasScenes components before ∧
      IsClosingUp components settings before (Layout.place plan components settings).scenes := by
  intro plan before
  have hplan : plan.Covers components := Plan.covers_reconcile hnames
  exact ⟨hasScenes_placeAll hnames hplan,
    isClosingUp_finish (isComplete_placeAll settings hnames hplan) hspacing⟩

/-- Two pages that stood far apart, with a note behind them. -/
theorem isClosingUp_place_pages :
    let page (name : String) : Component := ⟨name, "pages/x.tsx", .page, true, false, none⟩
    let scene (id : String) (left : Int) (label : String) : Scene :=
      ⟨id, ⟨⟨700, 700⟩, left, 128⟩, label, none, ""⟩
    let components := [page "Home", page "About"]
    let prior : Storyboard := ⟨[scene "note" 9000 "A note", scene "home-scene" 5000 "Home",
      scene "about-scene" 2000 "About"], []⟩
    let layout := Layout.place (Plan.reconcile components prior {}) components {}
    ((components.map (·.name)).Nodup ∧ (1 : Int) ≤ ({} : LayoutSettings).spacing) ∧
      ((rowScenes components {} .plain layout.scenes).map (·.scene.box.left)).Perm
        [212, 1028, 1844] := by
  intro page scene components prior layout
  have hnames : (components.map (·.name)).Nodup := by decide
  have hspacing : (1 : Int) ≤ ({} : LayoutSettings).spacing := by decide
  refine ⟨⟨hnames, hspacing⟩, ?_⟩
  let before :=
    ((ofPlan (Plan.reconcile components prior {}) components).placeAll components {}).inOrder components
  have hclosing : IsClosingUp components {} before layout.scenes :=
    (isClosingUp_place components prior {} {} hnames hspacing).2
  have hcount : (rowScenes components {} .plain before).length = 3 := by decide +kernel
  have hplayground : hasKind components {} .playground before = false := by decide +kernel
  have happ : hasKind components {} .app before = false := by decide +kernel
  have hplain := hclosing.plain
  rw [hcount, hplayground, happ] at hplain
  exact hplain

end SceneBoard
