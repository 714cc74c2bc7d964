import SceneBoard.Proofs.TopRow

/-!
# A closed row stays closed

Closing up the top row a second time moves nothing. Behind the anchors a closed row ascends
strictly, as its scenes are at least one pixel apart, so there are no ties any more and sorting it
again gives the order that it has (`plain_eq`).

## Key results

- `isClosed_of_perm`: a row is closed if it holds what closing up another one gave, in any order
- `moved_live_of_isClosed`, `moved_orphan_of_isClosed`: nothing moves in a closed row
-/

namespace SceneBoard.Draft

variable {settings : LayoutSettings} {row row' : List RowEntry}

/-- The entries of a kind. -/
def ofKind (kind : RowKind) (row : List RowEntry) : List RowEntry :=
  row.filter (·.kind == kind)

/-- A row with at most one playground and at most one application. -/
structure HasOneOfEach (row : List RowEntry) : Prop where
  playground : (ofKind .playground row).length ≤ 1
  app : (ofKind .app row).length ≤ 1

/-- A row in which everything stands where closing it up puts it. -/
def IsClosed (settings : LayoutSettings) (row : List RowEntry) : Prop :=
  ∀ e ∈ row, (targets settings row).lookup e.slot = some e.left

/-- An entry as it is when its row has been closed up. -/
def closedUp (settings : LayoutSettings) (row : List RowEntry) (e : RowEntry) : RowEntry :=
  { e with left := ((targets settings row).lookup e.slot).getD e.left }

/-! ## Goals of a row -/

/-- Where the entries begin that are no anchors. -/
def plainBase (settings : LayoutSettings) (row : List RowEntry) : Int :=
  rowBase settings (ofKind .playground row).head?.isSome (ofKind .app row).head?.isSome

/-- The goals, kind by kind: the first of each anchor, and every plain scene by its position. -/
theorem targets_eq (settings : LayoutSettings) (row : List RowEntry) :
    targets settings row =
      (ofKind .playground row).head?.toList.map (fun e => (e.slot, settings.playgroundLeft)) ++
        (ofKind .app row).head?.toList.map (fun e =>
          (e.slot, appPlace settings (ofKind .playground row).head?.isSome)) ++
        (ofKind .plain row).zipIdx.map fun e =>
          (e.1.slot, plainBase settings row + e.2 * settings.spacing) := by
  simp only [targets, plainBase, ← List.head?_filter]
  rfl

/-- The three kinds together are the row. -/
private theorem perm_ofKind (row : List RowEntry) :
    (ofKind .playground row ++ ofKind .app row ++ ofKind .plain row).Perm row := by
  induction row with
  | nil => exact .nil
  | cons e row ih =>
    -- the entry belongs in front of one of the three parts
    cases hkind : e.kind with
    | playground => simpa [ofKind, hkind] using ih
    | app =>
      have hcons : ofKind .app (e :: row) = e :: ofKind .app row := by simp [ofKind, hkind]
      have hplayground : ofKind .playground (e :: row) = ofKind .playground row := by
        simp [ofKind, hkind]
      have hplain : ofKind .plain (e :: row) = ofKind .plain row := by simp [ofKind, hkind]
      rw [hcons, hplayground, hplain, List.append_assoc, List.cons_append]
      exact List.perm_middle.trans ((List.append_assoc _ _ _ ▸ ih).cons e)
    | plain =>
      have hcons : ofKind .plain (e :: row) = e :: ofKind .plain row := by simp [ofKind, hkind]
      have hplayground : ofKind .playground (e :: row) = ofKind .playground row := by
        simp [ofKind, hkind]
      have happ : ofKind .app (e :: row) = ofKind .app row := by simp [ofKind, hkind]
      rw [hcons, hplayground, happ]
      exact List.perm_middle.trans (ih.cons e)

/-- A first element alone is part of the list. -/
private theorem toList_head?_sublist {α : Type} (l : List α) : l.head?.toList.Sublist l := by
  cases l with
  | nil => exact .slnil
  | cons a l => exact (List.nil_sublist l).cons_cons a

/-- No entry has two goals. -/
private theorem nodup_targets (hslots : (row.map (·.slot)).Nodup) :
    ((targets settings row).map (·.1)).Nodup := by
  -- the slots of the plain goals are those of the plain entries, whatever their positions
  have hplain : ((ofKind .plain row).zipIdx.map fun e =>
      (e.1.slot, plainBase settings row + e.2 * settings.spacing)).map (·.1) =
        (ofKind .plain row).map (·.slot) := by
    have hmap := congrArg (List.map (·.slot)) (List.zipIdx_map_fst 0 (ofKind .plain row))
    rw [List.map_map] at hmap ⊢
    exact hmap
  have hgoals : (targets settings row).map (·.1) =
      ((ofKind .playground row).head?.toList ++ (ofKind .app row).head?.toList ++
        ofKind .plain row).map (·.slot) := by
    rw [targets_eq, List.map_append, hplain]
    simp [Function.comp_def]
  -- of each anchor kind the first entry at most has a goal
  have hsublist : ((ofKind .playground row).head?.toList ++ (ofKind .app row).head?.toList ++
      ofKind .plain row).Sublist (ofKind .playground row ++ ofKind .app row ++ ofKind .plain row) :=
    ((toList_head?_sublist _).append (toList_head?_sublist _)).append (List.Sublist.refl _)
  rw [hgoals]
  exact ((((perm_ofKind row).map _).nodup_iff).2 hslots).sublist (hsublist.map _)

section

variable {e : RowEntry} (hslots : (row.map (·.slot)).Nodup)

include hslots

private theorem lookup_targets {t : Slot × Int} (ht : t ∈ targets settings row) :
    (targets settings row).lookup t.1 = some t.2 :=
  lookup_of_mem (nodup_targets hslots) ht

/-- The first playground goes to its place. -/
theorem lookup_playground (he : (ofKind .playground row).head? = some e) :
    (targets settings row).lookup e.slot = some settings.playgroundLeft := by
  have hmem : (e.slot, settings.playgroundLeft) ∈ targets settings row := by
    rw [targets_eq, List.append_assoc, he]
    exact List.mem_append_left _ (List.mem_singleton_self _)
  exact lookup_targets hslots hmem

/-- The first application goes to its place. -/
theorem lookup_app (he : (ofKind .app row).head? = some e) :
    (targets settings row).lookup e.slot =
      some (appPlace settings (ofKind .playground row).head?.isSome) := by
  have hmem : (e.slot, appPlace settings (ofKind .playground row).head?.isSome) ∈
      targets settings row := by
    rw [targets_eq, he]
    exact List.mem_append_left _ (List.mem_append_right _ (List.mem_singleton_self _))
  exact lookup_targets hslots hmem

/-- The others follow in their order. -/
theorem lookup_plain {i : Nat} (he : (e, i) ∈ (ofKind .plain row).zipIdx) :
    (targets settings row).lookup e.slot =
      some (plainBase settings row + i * settings.spacing) := by
  have hmem : (e.slot, plainBase settings row + i * settings.spacing) ∈ targets settings row := by
    rw [targets_eq]
    exact List.mem_append_right _ (List.mem_map.2 ⟨(e, i), he, rfl⟩)
  exact lookup_targets hslots hmem

end

/-! ## Closing a row up -/

/-- The entries behind the anchors of a closed row, from left to right. -/
def plainClosed (settings : LayoutSettings) (row : List RowEntry) : List RowEntry :=
  (ofKind .plain row).zipIdx.map fun e =>
    { e.1 with left := plainBase settings row + e.2 * settings.spacing }

/-- The plain entries close up to their positions. -/
theorem map_closedUp_plain (hslots : (row.map (·.slot)).Nodup) :
    (ofKind .plain row).map (closedUp settings row) = plainClosed settings row := by
  have hmap : (ofKind .plain row).map (closedUp settings row) =
      (ofKind .plain row).zipIdx.map fun e => closedUp settings row e.1 := by
    conv_lhs => rw [← List.zipIdx_map_fst 0 (ofKind .plain row), List.map_map]
    rfl
  rw [hmap, plainClosed, List.map_inj_left]
  rintro ⟨e, i⟩ he
  rw [closedUp, lookup_plain hslots he, Option.getD_some]

/-- Closing up changes no kind. -/
private theorem ofKind_map_closedUp (kind : RowKind) (row row' : List RowEntry) :
    ofKind kind (row'.map (closedUp settings row)) =
      (ofKind kind row').map (closedUp settings row) := by
  rw [ofKind, ofKind, List.filter_map]
  rfl

/-- Two entries of a closed row that stand at one place are the same. -/
private theorem eq_of_left_eq {e e' : RowEntry} (hspacing : 1 ≤ settings.spacing)
    (he : e ∈ plainClosed settings row) (he' : e' ∈ plainClosed settings row)
    (hleft : e.left = e'.left) : e = e' := by
  obtain ⟨⟨a, i⟩, ha, rfl⟩ := List.mem_map.1 he
  obtain ⟨⟨b, j⟩, hb, rfl⟩ := List.mem_map.1 he'
  -- at least one pixel apart, so the place tells the position
  have hmul : (i : Int) * settings.spacing = j * settings.spacing := by
    simpa using hleft
  have hij : i = j := by
    have := Int.eq_of_mul_eq_mul_right (by omega) hmul
    omega
  subst hij
  rw [List.mk_mem_zipIdx_iff_getElem?] at ha hb
  obtain rfl : a = b := Option.some.inj (ha.symm.trans hb)
  rfl

/-- The closed up plain entries stand in the order of the row. -/
private theorem pairwise_plainClosed (hspacing : 1 ≤ settings.spacing) (row : List RowEntry) :
    (plainClosed settings row).Pairwise (fun a b => a.le b) := by
  rw [List.pairwise_iff_getElem]
  intro i j hi hj hij
  -- a later position is further to the right
  have hmul : (i : Int) * settings.spacing < j * settings.spacing :=
    Int.mul_lt_mul_of_pos_right (by omega) (by omega)
  simp only [plainClosed, List.getElem_map, List.getElem_zipIdx, RowEntry.le, Nat.zero_add]
  simp [hmul]

/-- Behind the anchors, a sorted row is as another one was left when it was closed up. -/
private theorem plain_eq (hspacing : 1 ≤ settings.spacing)
    (hslots : (row.map (·.slot)).Nodup) (hperm : row'.Perm (row.map (closedUp settings row)))
    (hsorted : row'.Pairwise fun a b => a.le b) :
    ofKind .plain row' = plainClosed settings row := by
  -- both are the plain entries, closed up
  have hplain : (ofKind .plain row').Perm (plainClosed settings row) := by
    rw [← map_closedUp_plain hslots, ← ofKind_map_closedUp]
    exact hperm.filter _
  -- both are sorted, and there are no ties among entries that stand apart
  refine List.Perm.eq_of_pairwise (fun e e' he he' hle hle' => ?_)
    (hsorted.sublist List.filter_sublist) (pairwise_plainClosed hspacing row) hplain
  refine eq_of_left_eq hspacing (hplain.subset he) he' ?_
  simp only [RowEntry.le, Bool.or_eq_true, Bool.and_eq_true, decide_eq_true_eq,
    beq_iff_eq] at hle hle'
  omega

/-- Closing up leaves as many entries of a kind. -/
private theorem length_ofKind (kind : RowKind)
    (hperm : row'.Perm (row.map (closedUp settings row))) :
    (ofKind kind row').length = (ofKind kind row).length := by
  have hkind : (ofKind kind row').Perm ((ofKind kind row).map (closedUp settings row)) := by
    rw [← ofKind_map_closedUp]
    exact hperm.filter _
  rw [hkind.length_eq, List.length_map]

private theorem isSome_head? {α : Type} {l l' : List α} (h : l.length = l'.length) :
    l.head?.isSome = l'.head?.isSome := by
  cases l <;> cases l' <;> simp_all

/-- The only element of a list is its first one. -/
theorem head?_eq_of_mem {α : Type} {l : List α} {a : α} (hl : l.length ≤ 1) (ha : a ∈ l) :
    l.head? = some a := by
  match l with
  | [] => simp at ha
  | [b] => rw [List.mem_singleton.1 ha, List.head?_cons]
  | b :: c :: l => simp at hl

/-- A sorted row is closed if it holds what closing up another one gave. -/
theorem isClosed_of_perm (hspacing : 1 ≤ settings.spacing) (h : HasOneOfEach row)
    (hslots : (row.map (·.slot)).Nodup) (hperm : row'.Perm (row.map (closedUp settings row)))
    (hsorted : row'.Pairwise fun a b => a.le b) : IsClosed settings row' := by
  have hlength (kind : RowKind) := length_ofKind kind hperm
  have h' : HasOneOfEach row' := ⟨hlength _ ▸ h.playground, hlength _ ▸ h.app⟩
  have hslots' : (row'.map (·.slot)).Nodup := by
    rw [(hperm.map _).nodup_iff, List.map_map]
    exact hslots
  have hplayground := isSome_head? (hlength .playground)
  -- where the plain part begins depends on which anchors there are, and these stay
  have hbase : plainBase settings row' = plainBase settings row := by
    rw [plainBase, plainBase, hplayground, isSome_head? (hlength .app)]
  intro e he
  -- the anchors have fixed places; the others count on the order being the one that they have
  obtain ⟨a, ha, rfl⟩ := List.mem_map.1 (hperm.subset he)
  cases hkind : a.kind with
  | playground =>
    have hmem : a ∈ ofKind .playground row := List.mem_filter.2 ⟨ha, by simp [hkind]⟩
    have hmem' : closedUp settings row a ∈ ofKind .playground row' :=
      List.mem_filter.2 ⟨he, by simp [closedUp, hkind]⟩
    rw [lookup_playground hslots' (head?_eq_of_mem h'.playground hmem'), closedUp,
      lookup_playground hslots (head?_eq_of_mem h.playground hmem), Option.getD_some]
  | app =>
    have hmem : a ∈ ofKind .app row := List.mem_filter.2 ⟨ha, by simp [hkind]⟩
    have hmem' : closedUp settings row a ∈ ofKind .app row' :=
      List.mem_filter.2 ⟨he, by simp [closedUp, hkind]⟩
    rw [lookup_app hslots' (head?_eq_of_mem h'.app hmem'), closedUp,
      lookup_app hslots (head?_eq_of_mem h.app hmem), Option.getD_some, hplayground]
  | plain =>
    have hmem' : closedUp settings row a ∈ ofKind .plain row' :=
      List.mem_filter.2 ⟨he, by simp [closedUp, hkind]⟩
    -- the entry is the `i`-th of the new plain part, and so its goal counts to `i`
    obtain ⟨i, hi⟩ := List.mem_iff_getElem?.1 hmem'
    rw [lookup_plain hslots' (List.mk_mem_zipIdx_iff_getElem?.2 hi), hbase]
    -- the goals of the two rows are the same, place by place
    rw [plain_eq hspacing hslots hperm hsorted, plainClosed, List.getElem?_map,
      Option.map_eq_some_iff] at hi
    obtain ⟨⟨b, j⟩, hb, hleft⟩ := hi
    have hij : (ofKind .plain row)[i]? = some b ∧ i = j := by
      simpa [List.getElem?_zipIdx] using hb
    rw [← hleft, hij.2]

/-! ## Rows of drafts -/

variable {d d' : Draft} {components : List Component}

theorem perm_row (d : Draft) (components : List Component) (settings : LayoutSettings) :
    (d.row components settings).Perm (d.entries components settings) :=
  List.mergeSort_perm _ _

/-- The row is in order. -/
theorem pairwise_row (d : Draft) (components : List Component) (settings : LayoutSettings) :
    (d.row components settings).Pairwise fun a b => a.le b := by
  refine List.pairwise_mergeSort (fun a b c hab hbc => ?_) (fun a b => ?_) _
  · simp only [RowEntry.le, Bool.or_eq_true, Bool.and_eq_true, decide_eq_true_eq, beq_iff_eq] at *
    omega
  · simp only [RowEntry.le, Bool.or_eq_true, Bool.and_eq_true, decide_eq_true_eq, beq_iff_eq]
    omega

/-- An entry carries the slot that it is looked up for. -/
private theorem slot_of_entryOf? {slot : Slot} {rank : Nat} {p : PlacedScene} {e : RowEntry}
    (h : entryOf? components settings slot rank p = some e) : e.slot = slot := by
  unfold entryOf? at h
  split at h
  · exact Option.some.inj h ▸ rfl
  · simp at h

/-- No two scenes of the row have one slot. -/
theorem nodup_slots (hd : (d.assigned.map (·.1)).Nodup) :
    ((d.row components settings).map (·.slot)).Nodup := by
  rw [((perm_row d components settings).map _).nodup_iff, entries, List.map_append,
    List.nodup_append]
  -- slots of components are told apart by names, the others by positions
  refine ⟨?_, ?_, ?_⟩
  · refine List.pairwise_map.2 (List.pairwise_filterMap.2 ((List.pairwise_map.1 hd).imp ?_))
    intro a a' hne e he e' he' hslot
    rw [slot_of_entryOf? he, slot_of_entryOf? he'] at hslot
    exact hne (Slot.live.inj hslot)
  · have hrange : (d.orphans.zipIdx.map (·.2)).Nodup := by
      rw [List.zipIdx_map_snd]
      exact List.nodup_range'
    refine List.pairwise_map.2 (List.pairwise_filterMap.2 ((List.pairwise_map.1 hrange).imp ?_))
    intro a a' hne e he e' he' hslot
    rw [slot_of_entryOf? he, slot_of_entryOf? he'] at hslot
    exact hne (Slot.orphan.inj hslot)
  · -- a slot of a component is not one of a scene left over
    intro slot hslot slot' hslot' heq
    obtain ⟨e, he, rfl⟩ := List.mem_map.1 hslot
    obtain ⟨e', he', rfl⟩ := List.mem_map.1 hslot'
    obtain ⟨a, -, he⟩ := List.mem_filterMap.1 he
    obtain ⟨a', -, he'⟩ := List.mem_filterMap.1 he'
    rw [slot_of_entryOf? he, slot_of_entryOf? he'] at heq
    simp at heq

/-- The entry of a moved scene is the closed up entry. -/
private theorem entryOf?_moved (slot : Slot) (rank : Nat) (p : PlacedScene) :
    entryOf? components settings slot rank (d.moved components settings slot p) =
      (entryOf? components settings slot rank p).map
        (closedUp settings (d.row components settings)) := by
  -- the left edge does not decide whether a scene is in the row
  have hmove (left : Int) : entryOf? components settings slot rank (moveTo p left) =
      (entryOf? components settings slot rank p).map fun e => { e with left } := by
    unfold entryOf?
    by_cases hrow : inTopRow components settings p
    · have hrow' : inTopRow components settings (moveTo p left) := hrow
      rw [if_pos hrow, if_pos hrow']
      rfl
    · have hrow' : ¬ inTopRow components settings (moveTo p left) := hrow
      rw [if_neg hrow, if_neg hrow']
      rfl
  rw [moved_eq, hmove]
  cases he : entryOf? components settings slot rank p with
  | none => rfl
  | some e =>
    have hslot := slot_of_entryOf? he
    -- the entry stands where its scene does
    have hleft : e.left = p.scene.box.left := by
      unfold entryOf? at he
      split at he
      · exact Option.some.inj he ▸ rfl
      · simp at he
    rw [Option.map_some, Option.map_some, closedUp, hslot, hleft, goals]

/-- The scenes that no component has, from whatever position on. -/
private theorem filterMap_moved_orphans (ps : List PlacedScene) (k : Nat) :
    (((ps.zipIdx k).map fun o => d.moved components settings (.orphan o.2) o.1).zipIdx k).filterMap
      (fun o => entryOf? components settings (.orphan o.2) (components.length + o.2) o.1) =
    ((ps.zipIdx k).filterMap fun o =>
      entryOf? components settings (.orphan o.2) (components.length + o.2) o.1).map
        (closedUp settings (d.row components settings)) := by
  induction ps generalizing k with
  | nil => rfl
  | cons p ps ih =>
    rw [List.zipIdx_cons, List.map_cons, List.zipIdx_cons, List.filterMap_cons,
      List.filterMap_cons, entryOf?_moved, ih]
    cases entryOf? components settings (.orphan k) (components.length + k) p <;> rfl

/-- Closing up changes the entries of the row to what `closedUp` makes of them. -/
theorem entries_compact : (d.compact components settings).entries components settings =
    (d.entries components settings).map (closedUp settings (d.row components settings)) := by
  have hlength : (d.compact components settings).orphans.length = d.orphans.length := by
    rw [orphans_compact, List.length_map, List.length_zipIdx]
  have hassigned : (d.compact components settings).assigned =
      d.assigned.map fun a => (a.1, d.moved components settings (.live a.1) a.2) := rfl
  rw [entries, entries, List.map_append, List.map_filterMap, hlength, hassigned, List.filterMap_map,
    orphans_compact, filterMap_moved_orphans d.orphans 0]
  congr 1
  exact List.filterMap_congr fun a _ => entryOf?_moved _ _ _

/-- The row of a draft is closed if its scenes stand where closing up the row of another draft put
them. -/
theorem isClosed_row (hspacing : 1 ≤ settings.spacing) (hd : (d.assigned.map (·.1)).Nodup)
    (hone : HasOneOfEach (d.row components settings))
    (hentries : (d'.entries components settings).Perm
      ((d.compact components settings).entries components settings)) :
    IsClosed settings (d'.row components settings) := by
  refine isClosed_of_perm hspacing hone (nodup_slots hd) ?_ (pairwise_row d' components settings)
  refine (perm_row d' components settings).trans (hentries.trans ?_)
  rw [entries_compact]
  exact ((perm_row d components settings).map _).symm

/-! ## What a closed row does -/

/-- In a closed row a scene is moved to where it stands, or not at all. -/
private theorem moved_eq_of_isClosed {slot : Slot} {p : PlacedScene}
    (hclosed : IsClosed settings (d.row components settings))
    (hp : ∀ e ∈ d.entries components settings, e.slot = slot → e.left = p.scene.box.left) :
    d.moved components settings slot p = p := by
  unfold moved
  split
  · rename_i left hleft
    obtain ⟨e, he, rfl⟩ := exists_of_lookup_goals hleft
    have hgoal := hclosed e ((perm_row d components settings).mem_iff.2 he)
    -- the goal found for the slot is the place of the entry
    obtain rfl : left = e.left := Option.some.inj (hleft.symm.trans hgoal)
    rw [hp e he rfl]
    rfl
  · rfl

/-- The scene of a component stays where it is when a closed row is closed up. -/
theorem moved_live_of_isClosed {name : String} {p : PlacedScene}
    (hclosed : IsClosed settings (d.row components settings)) (hd : (d.assigned.map (·.1)).Nodup)
    (hp : d.scene? name = some p) : d.moved components settings (.live name) p = p := by
  refine moved_eq_of_isClosed hclosed fun e he hslot => ?_
  rcases mem_entries_iff.1 he with ⟨n, q, hmem, -, rfl⟩ | ⟨i, q, -, -, rfl⟩
  · obtain rfl : n = name := Slot.live.inj hslot
    obtain rfl : p = q := Option.some.inj (hp.symm.trans (lookup_of_mem hd hmem))
    rfl
  · -- the entry of a scene left over has another slot
    simp at hslot

/-- So does any other scene. -/
theorem moved_orphan_of_isClosed {i : Nat} {p : PlacedScene}
    (hclosed : IsClosed settings (d.row components settings)) (hp : d.orphans[i]? = some p) :
    d.moved components settings (.orphan i) p = p := by
  refine moved_eq_of_isClosed hclosed fun e he hslot => ?_
  rcases mem_entries_iff.1 he with ⟨n, q, -, -, rfl⟩ | ⟨j, q, hq, -, rfl⟩
  · -- the entry of a component has another slot
    simp at hslot
  · obtain rfl : j = i := Slot.orphan.inj hslot
    obtain rfl : p = q := Option.some.inj (hp.symm.trans hq)
    rfl

/-- Closing up a closed row leaves each scene of a component as it is. -/
theorem scene?_compact_of_isClosed (hclosed : IsClosed settings (d.row components settings))
    (hd : (d.assigned.map (·.1)).Nodup) (name : String) :
    (d.compact components settings).scene? name = d.scene? name := by
  rw [scene?_compact]
  cases hp : d.scene? name with
  | none => rfl
  | some p => rw [Option.map_some, moved_live_of_isClosed hclosed hd hp]

/-- Closing up a closed row leaves the scenes left over as they are. -/
theorem orphans_compact_of_isClosed (hclosed : IsClosed settings (d.row components settings)) :
    (d.compact components settings).orphans = d.orphans := by
  rw [orphans_compact]
  refine Eq.trans (List.map_congr_left fun o ho => ?_) (List.zipIdx_map_fst 0 d.orphans)
  obtain ⟨p, i⟩ := o
  exact moved_orphan_of_isClosed hclosed (List.mk_mem_zipIdx_iff_getElem?.1 ho)

/-- In a closed row nothing is moved. -/
theorem movedByCompact_of_isClosed (hclosed : IsClosed settings (d.row components settings)) :
    d.movedByCompact components settings = 0 := by
  rw [movedByCompact, List.length_eq_zero_iff, List.filter_eq_nil_iff]
  intro e he
  rw [hclosed e he]
  simp

/-! ## Drafts that look the same -/

/-- Two scenes that the top row cannot tell apart. -/
structure SameOutline (p q : PlacedScene) : Prop where
  box : p.scene.box = q.scene.box
  label : p.scene.label = q.scene.label
  component : p.origin.component? = q.origin.component?

/-- The outline decides whether a scene is in the top row. -/
theorem SameOutline.inTopRow_eq {p q : PlacedScene} (h : SameOutline p q) :
    inTopRow components settings p = inTopRow components settings q := by
  rw [inTopRow, inTopRow, h.box, h.component]

/-- The outline decides the kind. -/
theorem SameOutline.rowKind_eq {p q : PlacedScene} (h : SameOutline p q) :
    rowKind settings p = rowKind settings q := by
  simp only [rowKind, h.label, h.component]

/-- The outline decides the entry. -/
private theorem entryOf?_congr {slot : Slot} {rank : Nat} {p q : PlacedScene}
    (h : SameOutline p q) :
    entryOf? components settings slot rank p = entryOf? components settings slot rank q := by
  rw [entryOf?, entryOf?, h.inTopRow_eq, h.rowKind_eq, h.box]

/-- The entries, with the assigned scenes in the order of the components. -/
theorem perm_entries_of_assigned {f : Component → PlacedScene}
    (h : d.assigned.Perm (components.map fun c => (c.name, f c))) :
    (d.entries components settings).Perm
      ((components.filterMap fun c => entryOf? components settings (.live c.name)
        (rankOf components d.orphans.length c.name) (f c)) ++
      d.orphans.zipIdx.filterMap fun o =>
        entryOf? components settings (.orphan o.2) (components.length + o.2) o.1) := by
  refine List.Perm.append_right _ ((h.filterMap _).trans (List.Perm.of_eq ?_))
  rw [List.filterMap_map]
  rfl

/-- Scenes left over of one outline have the same entries. -/
private theorem filterMap_orphans_congr {ps qs : List PlacedScene}
    (h : List.Forall₂ SameOutline ps qs) (k count : Nat) :
    ((ps.zipIdx k).filterMap fun o =>
      entryOf? components settings (.orphan o.2) (count + o.2) o.1) =
    (qs.zipIdx k).filterMap fun o =>
      entryOf? components settings (.orphan o.2) (count + o.2) o.1 := by
  induction h generalizing k with
  | nil => rfl
  | cons hpq _ ih => simp only [List.zipIdx_cons, List.filterMap_cons, entryOf?_congr hpq, ih]

/-- Two drafts have the same rows up to order if the scenes of each component look the same, and so
do the others one by one. -/
theorem perm_entries {f f' : Component → PlacedScene}
    (hassigned : d.assigned.Perm (components.map fun c => (c.name, f c)))
    (hassigned' : d'.assigned.Perm (components.map fun c => (c.name, f' c)))
    (hlive : ∀ c ∈ components, SameOutline (f c) (f' c))
    (horphans : List.Forall₂ SameOutline d.orphans d'.orphans) :
    (d.entries components settings).Perm (d'.entries components settings) := by
  refine (perm_entries_of_assigned hassigned).trans
    (List.Perm.trans (List.Perm.of_eq ?_) (perm_entries_of_assigned hassigned').symm)
  rw [filterMap_orphans_congr horphans, horphans.length_eq]
  congr 1
  exact List.filterMap_congr fun c hc => entryOf?_congr (hlive c hc)

/-- The scenes of a draft that are of a kind and in the top row. -/
def rowScenes (components : List Component) (settings : LayoutSettings) (kind : RowKind)
    (ps : List PlacedScene) : List PlacedScene :=
  ps.filter fun p => inTopRow components settings p && rowKind settings p == kind

/-- The scenes of a kind, part by part. -/
theorem rowScenes_append (kind : RowKind) (ps qs : List PlacedScene) :
    rowScenes components settings kind (ps ++ qs) =
      rowScenes components settings kind ps ++ rowScenes components settings kind qs :=
  List.filter_append ..

/-- The kinds and places of the scenes of a list that are in the top row. -/
def outlines (components : List Component) (settings : LayoutSettings) (ps : List PlacedScene) :
    List (RowKind × Int) :=
  (ps.filter (inTopRow components settings)).map fun p => (rowKind settings p, p.scene.box.left)

/-- A scene in front adds its outline if it is in the top row. -/
private theorem outlines_cons (p : PlacedScene) (ps : List PlacedScene) :
    outlines components settings (p :: ps) =
      (if inTopRow components settings p then [(rowKind settings p, p.scene.box.left)] else []) ++
        outlines components settings ps := by
  rw [outlines, List.filter_cons]
  split <;> rfl

/-- The outlines, part by part. -/
private theorem outlines_append (ps qs : List PlacedScene) :
    outlines components settings (ps ++ qs) =
      outlines components settings ps ++ outlines components settings qs := by
  rw [outlines, List.filter_append, List.map_append, ← outlines, ← outlines]

/-- The outline of each scene decides the outlines. -/
theorem outlines_of_forall₂ {ps qs : List PlacedScene} (h : List.Forall₂ SameOutline ps qs) :
    outlines components settings ps = outlines components settings qs := by
  induction h with
  | nil => rfl
  | cons hpq _ ih => rw [outlines_cons, outlines_cons, ih, hpq.inTopRow_eq, hpq.rowKind_eq, hpq.box]

/-- Ids do not matter to the row. -/
theorem outlines_distinctIds (ps : List PlacedScene) :
    outlines components settings (distinctIds ps) = outlines components settings ps := by
  apply (outlines_of_forall₂ ((forall₂_distinctIds ps).imp fun p q hpq => ?_)).symm
  rw [hpq]
  exact ⟨rfl, rfl, rfl⟩

/-- Whatever slots and ranks they have, entries look like the scenes they are for. -/
private theorem map_filterMap_entryOf? {α : Type} (slot : α → Slot) (rank : α → Nat)
    (scene : α → PlacedScene) (l : List α) :
    (l.filterMap fun a => entryOf? components settings (slot a) (rank a) (scene a)).map
      (fun e => (e.kind, e.left)) = outlines components settings (l.map scene) := by
  induction l with
  | nil => rfl
  | cons a l ih =>
    rw [List.filterMap_cons, List.map_cons, outlines_cons, ← ih, entryOf?]
    -- a scene outside the row has no entry and no outline
    by_cases hrow : inTopRow components settings (scene a) <;> simp [hrow]

/-- The entries of a row are those of the scenes in it. -/
theorem map_entries : (d.entries components settings).map (fun e => (e.kind, e.left)) =
    outlines components settings d.scenes := by
  rw [entries, List.map_append,
    map_filterMap_entryOf? (fun a : String × PlacedScene => .live a.1) _ (·.2),
    map_filterMap_entryOf? (fun o : PlacedScene × Nat => .orphan o.2) _ (·.1),
    List.zipIdx_map_fst, scenes, outlines_append]

/-- What the row of a draft looks like when it has been closed up. -/
theorem perm_outlines_compact (d : Draft) (components : List Component)
    (settings : LayoutSettings) :
    (outlines components settings (d.compact components settings).scenes).Perm
      ((d.row components settings).map fun e =>
        (e.kind, (closedUp settings (d.row components settings) e).left)) := by
  rw [← map_entries, entries_compact, List.map_map]
  exact ((perm_row d components settings).map _).symm

/-- The outlines tell how many scenes of a kind there are. -/
theorem length_rowScenes (kind : RowKind) (ps : List PlacedScene) :
    (rowScenes components settings kind ps).length =
      ((outlines components settings ps).map (·.1)).count kind := by
  rw [outlines, List.map_map, List.count_eq_countP, List.countP_map, List.countP_filter, rowScenes,
    List.countP_eq_length_filter]
  exact congrArg List.length (List.filter_congr fun p _ => Bool.and_comm _ _)

/-- Lists of one outline have as many scenes of each kind. -/
theorem length_rowScenes_of_forall₂ (kind : RowKind) {ps qs : List PlacedScene}
    (h : List.Forall₂ SameOutline ps qs) :
    (rowScenes components settings kind ps).length =
      (rowScenes components settings kind qs).length := by
  rw [length_rowScenes, length_rowScenes, outlines_of_forall₂ h]

/-- There is an entry for each scene of a kind. -/
theorem length_ofKind_entries (kind : RowKind) :
    (ofKind kind (d.entries components settings)).length =
      (rowScenes components settings kind d.scenes).length := by
  rw [length_rowScenes, ← map_entries, List.map_map, List.count_eq_countP, List.countP_map,
    List.countP_eq_length_filter]
  rfl

/-- Closing up does not change how many anchors there are. -/
theorem hasOneOfEach_row
    (h : ∀ kind ∈ [RowKind.playground, .app],
      (rowScenes components settings kind (d.compact components settings).scenes).length ≤ 1) :
    HasOneOfEach (d.row components settings) := by
  -- the row counts its entries, and closing up changes neither their number nor their kinds
  have hlength (kind : RowKind) : (ofKind kind (d.row components settings)).length =
      (rowScenes components settings kind (d.compact components settings).scenes).length := by
    rw [← length_ofKind_entries, entries_compact, ofKind_map_closedUp, List.length_map]
    exact ((perm_row d components settings).filter _).length_eq
  exact ⟨hlength _ ▸ h _ (by simp), hlength _ ▸ h _ (by simp)⟩

end SceneBoard.Draft
