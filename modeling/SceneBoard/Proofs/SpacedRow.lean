import SceneBoard.Proofs.Columns
import SceneBoard.Proofs.Compaction
import SceneBoard.Proofs.RowGaps

/-!
# New pages move nobody

A row that was closed up and lost some of its scenes has gaps. If as many pages are new, or more,
they fill these gaps exactly and go on behind the row, so closing it up again moves nothing: whoever
adds a page, or puts one in the place of another, finds the other scenes where they were. This asks
for settings under which a scene of the default width needs no more than one step of the grid
(`LayoutSettings.IsSpaced`), for a row on the grid (`IsSpacedRow`), and for nothing new that gets into
the row from elsewhere (`Plan.FillsRow`). It also asks that such a scene needs some width, and that
columns go downwards.

## Key results

- `IsSpacedRow.exists_isOnGrid`: the places of a row on the grid
- `perm_left_placeAll`: where the scenes of the row stand when all pages are placed
- `place_moves_nobody`: nothing of before moves
- `not_place_moves_nobody`: something does where pages need no width or columns go upwards
-/

namespace SceneBoard

open Plan Draft

/-! ## Rows on a grid -/

/-- The first place of the row behind its anchors. -/
def rowStart (components : List Component) (settings : LayoutSettings) (ps : List PlacedScene) :
    Int :=
  rowBase settings (hasKind components settings .playground ps)
    (hasKind components settings .app ps)

/-- A row as closing it up leaves it, but perhaps with gaps: the anchors stand in their places, and
the others on the grid behind them, at the places `ks`. Without anchors the first place is taken. -/
@[mk_iff]
structure IsSpacedRow (components : List Component) (settings : LayoutSettings) (ks : List Nat)
    (ps : List PlacedScene) : Prop where
  playground : (rowScenes components settings .playground ps).length ≤ 1
  playground_left : ∀ p ∈ rowScenes components settings .playground ps,
    p.scene.box.left = settings.playgroundLeft
  app : (rowScenes components settings .app ps).length ≤ 1
  app_left : ∀ p ∈ rowScenes components settings .app ps,
    p.scene.box.left = appPlace settings (hasKind components settings .playground ps)
  plain : ((rowScenes components settings .plain ps).map (·.scene.box.left)).Perm
    (ks.map (gridPlace settings (rowStart components settings ps)))
  ascending : ks.Pairwise (· < ·)
  first : hasKind components settings .playground ps = false →
    hasKind components settings .app ps = false → 0 ∈ ks

instance (components : List Component) (settings : LayoutSettings) (ks : List Nat)
    (ps : List PlacedScene) : Decidable (IsSpacedRow components settings ks ps) :=
  decidable_of_iff' _ (isSpacedRow_iff components settings ks ps)

/-- Where the anchors of a closed row stand. -/
def anchorPlaces (settings : LayoutSettings) (hasPlayground hasApp : Bool) : List Int :=
  (if hasPlayground then [settings.playgroundLeft] else []) ++
    if hasApp then [appPlace settings hasPlayground] else []

section

variable {components : List Component} {settings : LayoutSettings} {ks : List Nat}
  {ps : List PlacedScene} {hasPlayground hasApp : Bool}

/-- An anchor stands at its place if there is one. -/
theorem mem_anchorPlaces {n : Int} : n ∈ anchorPlaces settings hasPlayground hasApp ↔
    (hasPlayground = true ∧ n = settings.playgroundLeft) ∨
      (hasApp = true ∧ n = appPlace settings hasPlayground) := by
  cases hasPlayground <;> cases hasApp <;> simp [anchorPlaces]

/-- From the anchors on, the places of a row ascend. -/
theorem pairwise_anchorPlaces (hsettings : settings.IsSpaced) (hks : ks.Pairwise (· < ·)) :
    (anchorPlaces settings hasPlayground hasApp ++
      ks.map (gridPlace settings (rowBase settings hasPlayground hasApp))).Pairwise (· < ·) := by
  have hspacing := hsettings.spacing_pos
  have hlt := hsettings.playground_lt_app
  apply List.pairwise_append.2
  refine ⟨?_, pairwise_gridPlace hspacing hks, fun n hn m hm => ?_⟩
  · -- Playground stands left of App
    cases hasPlayground <;> cases hasApp <;> simp [anchorPlaces, appPlace, hlt]
  · -- the plain places begin right of the anchors
    obtain ⟨k, -, rfl⟩ := List.mem_map.1 hm
    have hle : gridPlace settings (rowBase settings hasPlayground hasApp) 0 ≤
        gridPlace settings (rowBase settings hasPlayground hasApp) k :=
      gridPlace_le (by omega) (Nat.zero_le k)
    have hbase : n < rowBase settings hasPlayground hasApp := by
      cases hasPlayground <;> cases hasApp <;>
        simp [anchorPlaces, appPlace, rowBase] at hn ⊢ <;> omega
    rw [gridPlace_zero] at hle
    omega

theorem hasKind_iff {kind : RowKind} :
    hasKind components settings kind ps = true ↔ ∃ p, p ∈ rowScenes components settings kind ps := by
  rw [hasKind, Bool.not_eq_true', List.isEmpty_eq_false_iff_exists_mem]

/-- The scenes of the row, by their kinds. -/
theorem mem_left_row_iff {n : Int} :
    n ∈ (ps.filter (inTopRow components settings)).map (·.scene.box.left) ↔
      ∃ kind, n ∈ (rowScenes components settings kind ps).map (·.scene.box.left) := by
  constructor
  · -- a scene of the row has one kind
    intro hn
    obtain ⟨p, hp, rfl⟩ := List.mem_map.1 hn
    obtain ⟨hmem, hrow⟩ := List.mem_filter.1 hp
    refine ⟨rowKind settings p, List.mem_map_of_mem (List.mem_filter.2 ⟨hmem, ?_⟩)⟩
    rw [hrow, beq_self_eq_true, Bool.and_true]
  · rintro ⟨kind, hn⟩
    obtain ⟨p, hp, rfl⟩ := List.mem_map.1 hn
    obtain ⟨hmem, hrow⟩ := List.mem_filter.1 hp
    rw [Bool.and_eq_true] at hrow
    exact List.mem_map_of_mem (List.mem_filter.2 ⟨hmem, hrow.1⟩)

/-- The anchors of a row on the grid stand in front of it. -/
private theorem IsSpacedRow.mem_left_iff (h : IsSpacedRow components settings ks ps) {n : Int} :
    n ∈ (ps.filter (inTopRow components settings)).map (·.scene.box.left) ↔
      n ∈ anchorPlaces settings (hasKind components settings .playground ps)
          (hasKind components settings .app ps) ++
        ks.map (gridPlace settings (rowStart components settings ps)) := by
  rw [mem_left_row_iff, List.mem_append, mem_anchorPlaces, or_assoc]
  constructor
  · -- each kind has its places, as the row is spaced
    rintro ⟨kind, hn⟩
    cases kind with
    | playground =>
      obtain ⟨p, hp, rfl⟩ := List.mem_map.1 hn
      exact .inl ⟨hasKind_iff.2 ⟨p, hp⟩, h.playground_left p hp⟩
    | app =>
      obtain ⟨p, hp, rfl⟩ := List.mem_map.1 hn
      exact .inr (.inl ⟨hasKind_iff.2 ⟨p, hp⟩, h.app_left p hp⟩)
    | plain => exact .inr (.inr (h.plain.mem_iff.1 hn))
  · -- for an anchor its place, for a plain place the scene that stands there
    rintro (⟨hkind, rfl⟩ | ⟨hkind, rfl⟩ | hn)
    · obtain ⟨p, hp⟩ := hasKind_iff.1 hkind
      exact ⟨.playground, List.mem_map.2 ⟨p, hp, h.playground_left p hp⟩⟩
    · obtain ⟨p, hp⟩ := hasKind_iff.1 hkind
      exact ⟨.app, List.mem_map.2 ⟨p, hp, h.app_left p hp⟩⟩
    · exact ⟨.plain, h.plain.mem_iff.2 hn⟩

end

/-! ## Places of a row -/

section

variable {components : List Component} {settings : LayoutSettings} {ks : List Nat} {d : Draft}

/-- The places of a row on the grid. -/
theorem IsSpacedRow.rowPlaces_eq (h : IsSpacedRow components settings ks d.scenes)
    (hsettings : settings.IsSpaced) : d.rowPlaces components settings =
      anchorPlaces settings (hasKind components settings .playground d.scenes)
          (hasKind components settings .app d.scenes) ++
        ks.map (gridPlace settings (rowStart components settings d.scenes)) :=
  ascending_eq (pairwise_anchorPlaces hsettings h.ascending) fun _ => h.mem_left_iff

/-- The scenes of a row without anchors stand on the grid that begins at the first of them, and the
grid of a row with anchors begins at the last of these. -/
theorem IsSpacedRow.exists_isOnGrid (h : IsSpacedRow components settings ks d.scenes)
    (hsettings : settings.IsSpaced) : ∃ origin js e, e ≤ 1 ∧
      IsOnGrid settings origin js (d.rowPlaces components settings) ∧
      settings.playgroundLeft ≤ origin ∧
      rowStart components settings d.scenes = gridPlace settings origin e ∧
      (0 :: js).drop e = ks.map (e + ·) := by
  have hplaces := h.rowPlaces_eq hsettings
  have hlt := hsettings.playground_lt_app
  have hascending := pairwise_cons_map_add h.ascending
  -- a single anchor is the first place of the grid
  have hsingle : IsOnGrid settings settings.playgroundLeft (ks.map (1 + ·))
      (settings.playgroundLeft ::
        ks.map (gridPlace settings (settings.playgroundLeft + settings.spacing))) :=
    ⟨hascending, .inl (cons_map_gridPlace _ ks)⟩
  rw [rowStart] at hplaces ⊢
  -- with both anchors, with one of them, or with none
  cases hplayground : hasKind components settings .playground d.scenes with
  | true =>
    cases happ : hasKind components settings .app d.scenes with
    | true =>
      rw [hplayground, happ] at hplaces
      refine ⟨settings.appLeft, ks.map (1 + ·), 1, Nat.le_refl 1, ⟨hascending, .inr ?_⟩, by omega,
        gridPlace_one.symm, rfl⟩
      refine ⟨settings.playgroundLeft, ?_, hsettings.app_lt⟩
      rw [hplaces, ← cons_map_gridPlace]
      rfl
    | false =>
      rw [hplayground, happ] at hplaces
      exact ⟨settings.playgroundLeft, ks.map (1 + ·), 1, Nat.le_refl 1, hplaces ▸ hsingle,
        Int.le_refl _, gridPlace_one.symm, rfl⟩
  | false =>
    cases happ : hasKind components settings .app d.scenes with
    | true =>
      rw [hplayground, happ] at hplaces
      exact ⟨settings.playgroundLeft, ks.map (1 + ·), 1, Nat.le_refl 1, hplaces ▸ hsingle,
        Int.le_refl _, gridPlace_one.symm, rfl⟩
    | false =>
      obtain ⟨js, rfl⟩ := exists_eq_zero_cons h.ascending (h.first hplayground happ)
      rw [hplayground, happ] at hplaces
      refine ⟨settings.playgroundLeft, js, 0, Nat.zero_le 1, ⟨h.ascending, .inl hplaces⟩,
        Int.le_refl _, gridPlace_zero.symm, ?_⟩
      simp

end

/-! ## Rows at their goals -/

/-- A row is closed if its anchors stand in their places and the others on all places of the grid
behind them. -/
theorem isClosed_of_perm_left {settings : LayoutSettings} {row : List RowEntry}
    (hspacing : 1 ≤ settings.spacing) (hslots : (row.map (·.slot)).Nodup)
    (hsorted : row.Pairwise fun a b => a.le b) (hone : HasOneOfEach row)
    (hplayground : ∀ e ∈ ofKind .playground row, e.left = settings.playgroundLeft)
    (happ : ∀ e ∈ ofKind .app row,
      e.left = appPlace settings (ofKind .playground row).head?.isSome)
    (hplain : ((ofKind .plain row).map (·.left)).Perm
      ((List.range (ofKind .plain row).length).map (gridPlace settings (plainBase settings row)))) :
    IsClosed settings row := by
  -- both ascend, so the entries stand on the grid in their order
  have heq : (ofKind .plain row).map (·.left) =
      (List.range (ofKind .plain row).length).map (gridPlace settings (plainBase settings row)) := by
    apply hplain.eq_of_pairwise fun a b _ _ => (Int.le_antisymm : a ≤ b → b ≤ a → a = b)
    · refine List.pairwise_map.2 ((hsorted.sublist List.filter_sublist).imp fun hle => ?_)
      have hle := RowEntry.le_iff.1 hle
      omega
    · exact (pairwise_gridPlace hspacing List.pairwise_lt_range).imp Int.le_of_lt
  -- each entry stands at its goal: an anchor at its place, a plain one at its number
  intro e he
  cases hkind : e.kind with
  | playground =>
    have hmem : e ∈ ofKind .playground row := List.mem_filter.2 ⟨he, by simp [hkind]⟩
    rw [lookup_playground hslots (head?_eq_of_mem hone.playground hmem), hplayground e hmem]
  | app =>
    have hmem : e ∈ ofKind .app row := List.mem_filter.2 ⟨he, by simp [hkind]⟩
    rw [lookup_app hslots (head?_eq_of_mem hone.app hmem), happ e hmem]
  | plain =>
    have hmem : e ∈ ofKind .plain row := List.mem_filter.2 ⟨he, by simp [hkind]⟩
    obtain ⟨i, hi⟩ := List.mem_iff_getElem?.1 hmem
    -- the entry of number `i` stands at the place of that number
    rw [lookup_plain hslots (List.mk_mem_zipIdx_iff_getElem?.2 hi)]
    obtain ⟨hlength, -⟩ := List.getElem?_eq_some_iff.1 hi
    have hleft := congrArg (·[i]?) heq
    simp only [List.getElem?_map, hi, List.getElem?_range hlength, Option.map_some,
      Option.some.injEq] at hleft
    rw [hleft]
    rfl

/-! ## New pages -/

/-- The pages that are pending. -/
def Plan.pendingPages (plan : Plan) (components : List Component) : List Component :=
  components.filter fun c => c.name ∈ plan.pending && c.category == .page

/-- What is pending fills the gaps of a row with pages that fit into them, and puts nothing into the
row otherwise. -/
@[mk_iff]
structure Plan.FillsRow (plan : Plan) (components : List Component) (settings : LayoutSettings)
    (ks : List Nat) : Prop where
  enough : freePlaces ks ≤ (plan.pendingPages components).length
  width : ∀ c ∈ plan.pendingPages components,
    (c.sceneSize settings).width ≤ settings.defaultScene.width
  plain : ∀ c ∈ components, c.name ∈ plan.pending → ¬ c.IsAnchor ∧ c.name ≠ settings.appLabel

instance (plan : Plan) (components : List Component) (settings : LayoutSettings) (ks : List Nat) :
    Decidable (plan.FillsRow components settings ks) :=
  decidable_of_iff' _ (plan.fillsRow_iff components settings ks)

/-- Pages are added to a row, or put in the place of others, and nothing else gets into it. The
places of the row are in range. -/
@[mk_iff]
structure Plan.AddsPages (plan : Plan) (components : List Component) (settings : LayoutSettings)
    (ks : List Nat) : Prop where
  names : (components.map (·.name)).Nodup
  covers : plan.Covers components
  spaced : settings.IsSpaced
  row : IsSpacedRow components settings ks plan.formerScenes
  fills : plan.FillsRow components settings ks
  fits : ∀ n ∈ [settings.playgroundLeft, settings.componentColumnTop,
    ((ks.length + (plan.pendingPages components).length : Nat) : Int) * settings.spacing,
    gridPlace settings (rowStart components settings plan.formerScenes)
      (ks.length + (plan.pendingPages components).length)], Pixels.Fits n

instance (plan : Plan) (components : List Component) (settings : LayoutSettings) (ks : List Nat) :
    Decidable (plan.AddsPages components settings ks) :=
  decidable_of_iff' _ (plan.addsPages_iff components settings ks)

section

variable {plan : Plan} {components : List Component} {settings : LayoutSettings} {ks : List Nat}
  (hnames : (components.map (·.name)).Nodup) (hplan : plan.Covers components)

include hnames hplan

/-- The pages that the draft has pending are those of the plan. -/
theorem perm_pendingPages :
    ((ofPlan plan components).pending.filter (·.category == .page)).Perm
      (plan.pendingPages components) := by
  rw [Plan.pendingPages, List.perm_ext_iff_of_nodup
    ((List.Nodup.of_map _ (nodup_pending hnames hplan)).filter _)
    ((List.Nodup.of_map _ hnames).filter _)]
  intro c
  rw [List.mem_filter, List.mem_filter, Bool.and_eq_true, decide_eq_true_eq]
  -- what is pending in the draft is what the plan has pending
  constructor
  · intro hc
    have hmem := mem_of_mem_pending hc.1
    exact ⟨hmem, (mem_pending_iff hnames hplan hmem).1 hc.1, hc.2⟩
  · intro hc
    exact ⟨(mem_pending_iff hnames hplan hc.1).2 hc.2.1, hc.2.2⟩

omit hplan in
/-- A page that has its place in the row keeps it when the columns are filled. -/
theorem Draft.HasPageAt.placeAll {origin : Int} {c : Component} {k : Nat}
    (h : HasPageAt settings origin ((ofPlan plan components).placeRow components settings) c k)
    (hc : c ∈ components) (hpage : c.category = .page) :
    HasPageAt settings origin ((ofPlan plan components).placeAll components settings) c k := by
  have hcolumns := stages_placeColumns ((ofPlan plan components).placeRow components settings)
    components settings fun c hc => (mem_pending_placeRow hc).2.1
  show ((((ofPlan plan components).placeRow components settings).placeComponents
    settings).placeFolders components settings).scene? c.name = _
  rw [hcolumns.scene?_of_forall_ne]
  · exact h
  · intro c' hc' hname
    obtain ⟨hpending, -, hcategory⟩ := mem_pending_placeRow hc'
    exact hcategory (List.inj_on_of_nodup_map hnames (mem_of_mem_pending hpending) hc hname ▸ hpage)

end

section

variable {plan : Plan} {components : List Component} {settings : LayoutSettings} {ks : List Nat}
  (hadds : plan.AddsPages components settings ks)
  (hmargin : 1 ≤ settings.defaultScene.width + settings.gapMargin)

include hadds hmargin

/-- The new pages have the places of the grid that are free and those behind the row. -/
theorem exists_forall₂_placeAll : ∃ origin js e, e ≤ 1 ∧
    IsOnGrid settings origin js ((ofPlan plan components).rowPlaces components settings) ∧
    rowStart components settings plan.formerScenes = gridPlace settings origin e ∧
    (0 :: js).drop e = ks.map (e + ·) ∧
    List.Forall₂
      (HasPageAt settings origin ((ofPlan plan components).placeAll components settings))
      ((ofPlan plan components).pending.filter (·.category == .page))
      (missing (0 :: js) ++ List.range' (js.length + (missing (0 :: js)).length + 1)
        (((ofPlan plan components).pending.filter (·.category == .page)).length -
          (missing (0 :: js)).length)) := by
  obtain ⟨hnames, hplan, hsettings, hrow, hfill, hfits⟩ := hadds
  have hspacing := hsettings.spacing_pos
  -- nothing that is pending is an anchor
  have hplain : ∀ c ∈ (ofPlan plan components).pending, ¬ c.IsAnchor := fun c hc =>
    have hmem := mem_of_mem_pending hc
    (hfill.plain c hmem ((mem_pending_iff hnames hplan hmem).1 hc)).1
  have hpages := perm_pendingPages hnames hplan
  simp only [List.forall_mem_cons, ← hpages.length_eq] at hfits
  obtain ⟨hplayground, -, hsteps, hlast, -⟩ := hfits
  rw [← scenes_ofPlan_eq hnames hplan] at hrow hlast ⊢
  obtain ⟨origin, js, e, he, hgrid, horigin, hstart, hks⟩ := hrow.exists_isOnGrid hsettings
  have hlength := congrArg List.length hks
  rw [List.length_drop, List.length_map, List.length_cons] at hlength
  refine ⟨origin, js, e, he, hgrid, hstart, hks, ?_⟩
  -- the pages fill what is missing on the grid and then go on behind it
  have hplaced := hgrid.forall₂_placePages rfl hsettings hmargin rfl
    ((nodup_pending hnames hplan).sublist (List.filter_sublist.map _)) hplain
    (fun c hc => hfill.width c (hpages.subset hc))
    (by rw [hgrid.length_missing he hks, hpages.length_eq]; exact hfill.enough) ?fits ?limit
  case limit =>
    refine (Int.mul_le_mul_of_nonneg_right ?_ (by omega)).trans hsteps.2
    omega
  case fits =>
    intro k hk
    have hlow : gridPlace settings origin 0 ≤ gridPlace settings origin k :=
      gridPlace_le (by omega) (Nat.zero_le k)
    rw [gridPlace_zero] at hlow
    rw [hstart, gridPlace_gridPlace] at hlast
    exact ⟨hplayground.1.trans (horigin.trans hlow),
      (gridPlace_le (by omega) (by omega)).trans hlast.2⟩
  -- no anchor is new, so that the row's stage is the stage of its pages
  have hplaceRow : (ofPlan plan components).placeRow components settings =
      (ofPlan plan components).placePages components settings := by
    rw [placeRow, placeAnchors_eq_self hplain]
  have hmem : ∀ c ∈ (ofPlan plan components).pending.filter (·.category == .page),
      c ∈ components ∧ c.category = .page := by
    intro c hc
    obtain ⟨hpending, hpage⟩ := List.mem_filter.1 hc
    exact ⟨mem_of_mem_pending hpending, eq_of_beq hpage⟩
  rw [← hplaceRow] at hplaced
  exact ((List.forall₂_and_left _ _).2 ⟨hmem, hplaced⟩).imp fun c k h =>
    HasPageAt.placeAll hnames h.2 h.1.1 h.1.2

/-- A new page is in the row, and no anchor. -/
theorem rowKind_of_page {c : Component} {p : PlacedScene}
    (hc : c ∈ (ofPlan plan components).pending) (hcategory : c.category = .page)
    (hp : ((ofPlan plan components).placeAll components settings).scene? c.name = some p) :
    inTopRow components settings p = true ∧ rowKind settings p = .plain := by
  obtain ⟨origin, js, e, -, -, -, -, hplaced⟩ := exists_forall₂_placeAll hadds hmargin
  obtain ⟨k, -, hscene⟩ := exists_of_mem_forall₂ hplaced.flip
    (List.mem_filter.2 ⟨hc, by simp [hcategory]⟩)
  have hmem := mem_of_mem_pending hc
  obtain ⟨hanchor, hlabel⟩ := hadds.fills.plain c hmem
    -- it has neither name nor label of an anchor
    ((mem_pending_iff hadds.names hadds.covers hmem).1 hc)
  have hplayground : c.name ≠ playgroundName := fun hname => hanchor (.inl hname)
  have happ : c.name ≠ appName := fun hname => hanchor (.inr hname)
  rw [Option.some.inj (hp.symm.trans hscene)]
  constructor
  · simp [inTopRow, newScene]
  · simp [rowKind, newScene, Origin.component?, hplayground, happ, hlabel]

variable (hvertical : 0 ≤ settings.verticalSpacing)
  (hheight : ∀ c ∈ components, c.name ∈ plan.pending → c.category ≠ .page →
    0 ≤ (c.sceneSize settings).height)

include hvertical hheight

omit hmargin in
/-- What is new and no page stands in a column. -/
theorem inTopRow_eq_false_of_not_page {c : Component} {p : PlacedScene}
    (hc : c ∈ (ofPlan plan components).pending) (hcategory : c.category ≠ .page)
    (hp : ((ofPlan plan components).placeAll components settings).scene? c.name = some p) :
    inTopRow components settings p = false := by
  obtain ⟨hnames, hplan, hsettings, -, hfill, hfits⟩ := hadds
  have hcolumnTop := (hfits settings.componentColumnTop (by simp)).2
  have hmem := mem_of_mem_pending hc
  have hpending := (mem_pending_iff hnames hplan hmem).1 hc
  obtain ⟨box, label, -, hnew⟩ := scene?_placeAll_of_pending settings hnames hplan hmem hpending
  -- it was placed, and it is in a column, so below the row
  have horigin : p.origin = .placed c.name := by
    rw [Option.some.inj (hp.symm.trans hnew)]
    rfl
  have hscene : IsColumnScene components settings c p := by
    apply isColumnScene_of_mem_placeAll hnames hcolumnTop hvertical _ (mem_scenes_of_scene? hp) hmem
    · exact ⟨horigin, (hfill.plain c hmem hpending).1, hcategory⟩
    · intro c' hc' hcategory'
      have hmem' := mem_of_mem_pending hc'
      exact hheight c' hmem' ((mem_pending_iff hnames hplan hmem').1 hc') hcategory'
  exact hscene.inTopRow_eq_false hnames hsettings.topRow hmem horigin

/-- Of what is pending, the pages get into the row, and none of them as an anchor. -/
theorem rowScenes_pending {f : Component → PlacedScene} (hf : ∀ c ∈ components,
      ((ofPlan plan components).placeAll components settings).scene? c.name = some (f c))
    (kind : RowKind) :
    rowScenes components settings kind ((ofPlan plan components).pending.map f) =
      if kind = .plain then
        ((ofPlan plan components).pending.filter (·.category == .page)).map f
      else [] := by
  -- a scene of what is pending is in the row exactly if it is a page
  have hin : ∀ c ∈ (ofPlan plan components).pending,
      (inTopRow components settings (f c) && rowKind settings (f c) == kind) =
        (decide (kind = .plain) && c.category == .page) := by
    intro c hc
    have hscene := hf c (mem_of_mem_pending hc)
    by_cases hcategory : c.category = .page
    · obtain ⟨hrow, hkind⟩ := rowKind_of_page hadds hmargin hc hcategory hscene
      rw [hrow, hkind, hcategory]
      cases kind <;> rfl
    · rw [inTopRow_eq_false_of_not_page hadds hvertical hheight hc hcategory hscene]
      simp [hcategory]
  rw [rowScenes, List.filter_map]
  simp only [Function.comp_def]
  rw [List.filter_congr hin]
  split
  · rename_i hkind
    simp [hkind]
  · rename_i hkind
    simp [hkind]

/-- Of each kind, the row has the scenes of before and those of what was pending. -/
private theorem exists_perm_rowScenes : ∃ f : Component → PlacedScene,
    (∀ c ∈ components,
      ((ofPlan plan components).placeAll components settings).scene? c.name = some (f c)) ∧
    ∀ kind, (rowScenes components settings kind
      ((ofPlan plan components).placeAll components settings).scenes).Perm
        (rowScenes components settings kind plan.formerScenes ++ if kind = .plain then
          ((ofPlan plan components).pending.filter (·.category == .page)).map f else []) := by
  obtain ⟨f, hf, hperm⟩ := exists_perm_scenes_placeAll settings hadds.names hadds.covers
  refine ⟨f, hf, fun kind => ?_⟩
  rw [← rowScenes_pending hadds hmargin hvertical hheight hf kind, ← rowScenes_append]
  exact hperm.filter _

/-- When the pages are placed, the scenes behind the anchors stand on the grid without gaps. -/
theorem perm_left_placeAll : ((rowScenes components settings .plain
      ((ofPlan plan components).placeAll components settings).scenes).map (·.scene.box.left)).Perm
    ((List.range (ks.length + (plan.pendingPages components).length)).map
      (gridPlace settings (rowStart components settings plan.formerScenes))) := by
  obtain ⟨f, hf, hperm⟩ := exists_perm_rowScenes hadds hmargin hvertical hheight
  obtain ⟨origin, js, e, he, hgrid, hstart, hks, hplaced⟩ := exists_forall₂_placeAll hadds hmargin
  have hcount := hadds.fills.enough
  rw [← hgrid.length_missing he hks] at hcount
  rw [← (perm_pendingPages hadds.names hadds.covers).length_eq] at hcount ⊢
  -- the new scenes, at the places that they have
  have hnew : (((ofPlan plan components).pending.filter (·.category == .page)).map f).map
      (·.scene.box.left) = (missing (0 :: js) ++
        List.range' (js.length + (missing (0 :: js)).length + 1)
          (((ofPlan plan components).pending.filter (·.category == .page)).length -
            (missing (0 :: js)).length)).map (gridPlace settings origin) := by
    rw [List.map_map, ← List.forall₂_eq_eq_eq, List.forall₂_map_left_iff,
      List.forall₂_map_right_iff]
    have hmem : ∀ c ∈ (ofPlan plan components).pending.filter (·.category == .page),
        c ∈ components := fun c hc => mem_of_mem_pending (List.mem_filter.1 hc).1
    refine ((List.forall₂_and_left _ _).2 ⟨hmem, hplaced⟩).imp fun c k h => ?_
    rw [Function.comp_apply, Option.some.inj ((hf c h.1).symm.trans h.2)]
    rfl
  -- the former places, counted from the place where the grid starts
  have hold : ks.map (gridPlace settings (rowStart components settings plan.formerScenes)) =
      ((0 :: js).drop e).map (gridPlace settings origin) := by
    rw [hks, hstart, List.map_map]
    exact List.map_congr_left fun k _ => gridPlace_gridPlace e k
  have hlength := congrArg List.length hks
  rw [List.length_drop, List.length_map, List.length_cons] at hlength
  have hlefts := (hperm .plain).map (·.scene.box.left)
  rw [if_pos rfl, List.map_append, hnew] at hlefts
  refine hlefts.trans ((hadds.row.plain.append_right _).trans ?_)
  rw [hold, ← List.map_append]
  refine ((hgrid.perm_filled he _).map _).trans (List.Perm.of_eq ?_)
  rw [List.range'_eq_map_range, List.map_map, hstart]
  have hm : js.length + (missing (0 :: js)).length + 1 +
      (((ofPlan plan components).pending.filter (·.category == .page)).length -
        (missing (0 :: js)).length) - e =
      ks.length + ((ofPlan plan components).pending.filter (·.category == .page)).length := by
    omega
  rw [hm]
  exact List.map_congr_left fun k _ => (gridPlace_gridPlace e k).symm

/-- The row is closed when the pages are placed. -/
theorem isClosed_placeAll : IsClosed settings
    (((ofPlan plan components).placeAll components settings).row components settings) := by
  have hspacing := hadds.spaced.spacing_pos
  have hrow := hadds.row
  -- the row of the draft has the kinds that it had before
  have hcomplete := isComplete_placeAll settings hadds.names hadds.covers
  obtain ⟨f, -, hperm⟩ := exists_perm_rowScenes hadds hmargin hvertical hheight
  -- no anchor is new
  have hanchors {kind : RowKind} (hkind : kind ≠ .plain) : (rowScenes components settings kind
      ((ofPlan plan components).placeAll components settings).scenes).Perm
        (rowScenes components settings kind plan.formerScenes) := by
    have hsame := hperm kind
    rw [if_neg hkind, List.append_nil] at hsame
    exact hsame
  have hsome {kind : RowKind} (hkind : kind ≠ .plain) :
      (ofKind kind (((ofPlan plan components).placeAll components settings).row components
        settings)).head?.isSome = hasKind components settings kind plan.formerScenes := by
    rw [isSome_head?_ofKind hcomplete]
    exact hasKind_congr ((hcomplete.perm_inOrder.filter _).trans (hanchors hkind))
  have hleft (kind : RowKind) := perm_map_left_ofKind components settings
    ((ofPlan plan components).placeAll components settings) kind
  have hone {kind : RowKind} (hkind : kind ≠ .plain)
      (hrow : (rowScenes components settings kind plan.formerScenes).length ≤ 1) :
      (ofKind kind (((ofPlan plan components).placeAll components settings).row components
        settings)).length ≤ 1 := by
    have hlength := (hleft kind).length_eq
    rw [List.length_map, List.length_map, (hanchors hkind).length_eq] at hlength
    omega
  have hplain := (hleft .plain).trans (perm_left_placeAll hadds hmargin hvertical hheight)
  have hlength := hplain.length_eq
  rw [List.length_map, List.length_map, List.length_range] at hlength
  -- an anchor of before stands where it stood
  apply isClosed_of_perm_left hspacing (nodup_slots hcomplete.assigned)
    (pairwise_row _ components settings)
    ⟨hone (by decide) hrow.playground, hone (by decide) hrow.app⟩
  · intro e he
    have hmem := ((hleft .playground).trans ((hanchors (by decide)).map _)).subset
      (List.mem_map_of_mem he)
    obtain ⟨p, hp, heq⟩ := List.mem_map.1 hmem
    rw [← heq, hrow.playground_left p hp]
  · intro e he
    have hmem := ((hleft .app).trans ((hanchors (by decide)).map _)).subset (List.mem_map_of_mem he)
    obtain ⟨p, hp, heq⟩ := List.mem_map.1 hmem
    rw [← heq, hrow.app_left p hp, hsome (by decide)]
  · rw [plainBase, hsome (by decide), hsome (by decide), hlength]
    exact hplain

end

/-! ## Layouts -/

/-- A scene that was there before stands where it stood until the row is closed up. -/
theorem box_of_previous? {plan : Plan} {components : List Component} {settings : LayoutSettings}
    {p : PlacedScene} (hp : p ∈ ((ofPlan plan components).placeAll components settings).scenes)
    {box : Box} (hbox : p.origin.previous? = some box) : p.scene.box = box := by
  cases (stages_placeAll (ofPlan plan components) components settings).mem_scenes hp with
  -- of a scene that is kept or retained
  | inl hp =>
    obtain ⟨b, -, rfl⟩ | ⟨s, -, rfl⟩ := mem_scenes_ofPlan hp
    · exact Option.some.inj hbox
    · exact Option.some.inj hbox
  -- a new scene has no box of before
  | inr hp =>
    obtain ⟨c, -, -, box, label, -, rfl⟩ := hp
    simp [newScene, Origin.previous?] at hbox

/-- A scene that has its former box is not relocated. -/
theorem relocation?_eq_none {p : PlacedScene}
    (h : ∀ box, p.origin.previous? = some box → p.scene.box = box) : p.relocation? = none := by
  unfold PlacedScene.relocation?
  cases hbox : p.origin.previous? with
  | none => rfl
  | some box => simp [h box hbox]

/-- New pages that fill the gaps of a row, or go on behind it, move nothing: all scenes of before
stand where they stood, and the row has no gaps. -/
theorem place_moves_nobody (plan : Plan) (components : List Component) (settings : LayoutSettings)
    (ks : List Nat) (hadds : plan.AddsPages components settings ks)
    (hmargin : 1 ≤ settings.defaultScene.width + settings.gapMargin)
    (hvertical : 0 ≤ settings.verticalSpacing)
    (hheight : ∀ c ∈ components, c.name ∈ plan.pending → c.category ≠ .page →
      0 ≤ (c.sceneSize settings).height) :
    let layout := Layout.place plan components settings
    layout.relocations = [] ∧ layout.repositioned = 0 ∧
      (∀ p ∈ layout.scenes, ∀ box, p.origin.previous? = some box → p.scene.box = box) ∧
      ((rowScenes components settings .plain layout.scenes).map (·.scene.box.left)).Perm
        ((List.range (ks.length + (plan.pendingPages components).length)).map
          (gridPlace settings (rowStart components settings plan.formerScenes))) := by
  intro layout
  let d := (ofPlan plan components).placeAll components settings
  have hcomplete : d.IsComplete components := isComplete_placeAll settings hadds.names hadds.covers
  have hclosed : IsClosed settings (d.row components settings) :=
    isClosed_placeAll hadds hmargin hvertical hheight
  -- closing up the row changes nothing, so only ids do
  have hinOrder : (d.compact components settings).inOrder components = d.inOrder components := by
    rw [inOrder, inOrder, orphans_compact_of_isClosed hclosed]
    congr 1
    exact List.filterMap_congr fun name _ =>
      scene?_compact_of_isClosed hclosed hcomplete.assigned name
  have hscenes : layout.scenes = distinctIds (d.inOrder components) := congrArg distinctIds hinOrder
  have hbox : ∀ p ∈ layout.scenes, ∀ box, p.origin.previous? = some box → p.scene.box = box := by
    intro p hp box hprevious
    rw [hscenes] at hp
    obtain ⟨q, hq, hsame⟩ := exists_of_mem_forall₂ (forall₂_distinctIds _) hp
    rw [hsame] at hprevious ⊢
    exact box_of_previous? (hcomplete.perm_inOrder.subset hq) hprevious
  -- nothing is relocated or moved, and the plain scenes stand on the grid
  refine ⟨?_, movedByCompact_of_isClosed hclosed, hbox, ?_⟩
  · exact List.filterMap_eq_nil_iff.2 fun p hp => relocation?_eq_none (hbox p hp)
  · rw [hscenes, map_left_rowScenes, outlines_distinctIds, ← map_left_rowScenes]
    exact ((hcomplete.perm_inOrder.filter _).map _).trans
      (perm_left_placeAll hadds hmargin hvertical hheight)

/-- A page between two others, and a card below. -/
theorem place_moves_nobody_page_between :
    let page (name : String) : Component := ⟨name, "pages/x.tsx", .page, true, false, none⟩
    let card : Component := ⟨"Card", "components/Card.tsx", .component, true, false, some ⟨320, 200⟩⟩
    let kept (name id : String) (left : Int) : BoundScene :=
      ⟨name, ⟨id, ⟨⟨700, 700⟩, left, 128⟩, name, some name, ""⟩⟩
    let components := [page "Home", page "About", page "Contact", card]
    let plan : Plan := ⟨[kept "Home" "home-scene" 212, kept "Contact" "contact-scene" 1844], [],
      ["About", "Card"], [], [], [], []⟩
    let layout := Layout.place plan components {}
    plan.AddsPages components {} [0, 2] ∧
      (1 : Int) ≤ ({} : LayoutSettings).defaultScene.width + ({} : LayoutSettings).gapMargin ∧
      (0 : Int) ≤ ({} : LayoutSettings).verticalSpacing ∧
      (∀ c ∈ components, c.name ∈ plan.pending → c.category ≠ .page →
        0 ≤ (c.sceneSize {}).height) ∧
      layout.relocations = [] ∧
      ((rowScenes components {} .plain layout.scenes).map (·.scene.box.left)).Perm
        [212, 1028, 1844] := by
  intro page card kept components plan layout
  have hadds : plan.AddsPages components {} [0, 2] := by decide +kernel
  have hmargin : (1 : Int) ≤
      ({} : LayoutSettings).defaultScene.width + ({} : LayoutSettings).gapMargin := by decide
  have hvertical : (0 : Int) ≤ ({} : LayoutSettings).verticalSpacing := by decide
  have hheight : ∀ c ∈ components, c.name ∈ plan.pending → c.category ≠ .page →
      0 ≤ (c.sceneSize {}).height := by decide
  have hplaces : (List.range ([0, 2].length + (plan.pendingPages components).length)).map
      (gridPlace {} (rowStart components {} plan.formerScenes)) = [212, 1028, 1844] := by
    decide +kernel
  obtain ⟨hrelocations, -, -, hlefts⟩ :=
    place_moves_nobody plan components {} [0, 2] hadds hmargin hvertical hheight
  rw [hplaces] at hlefts
  exact ⟨hadds, hmargin, hvertical, hheight, hrelocations, hlefts⟩

/-- None of the conditions on the settings and on the heights can be left out: a page gets into a gap
that is not there, or a card gets up into the row, and then the note behind it has to move. -/
theorem not_place_moves_nobody :
    (¬ ∀ plan components settings ks, Plan.AddsPages plan components settings ks →
      0 ≤ settings.verticalSpacing →
      (∀ c ∈ components, c.name ∈ plan.pending → c.category ≠ .page →
        0 ≤ (c.sceneSize settings).height) →
      (Layout.place plan components settings).relocations = []) ∧
    (¬ ∀ plan components settings ks, Plan.AddsPages plan components settings ks →
      1 ≤ settings.defaultScene.width + settings.gapMargin →
      (∀ c ∈ components, c.name ∈ plan.pending → c.category ≠ .page →
        0 ≤ (c.sceneSize settings).height) →
      (Layout.place plan components settings).relocations = []) ∧
    (¬ ∀ plan components settings ks, Plan.AddsPages plan components settings ks →
      1 ≤ settings.defaultScene.width + settings.gapMargin → 0 ≤ settings.verticalSpacing →
      (Layout.place plan components settings).relocations = []) := by
  let note (left : Int) : Scene := ⟨"note", ⟨⟨9, 9⟩, left, 128⟩, "A note", none, ""⟩
  let card (height : Int) : Component :=
    ⟨"Card", "components/Card.tsx", .component, true, false, some ⟨10, height⟩⟩
  let chip : Component := ⟨"Chip", "components/Chip.tsx", .component, true, false, none⟩
  let cards : Plan := ⟨[], [note 212], ["Card", "Chip"], [], [], [], []⟩
  refine ⟨fun h => ?_, fun h => ?_, fun h => ?_⟩
  · -- a default scene that needs no room with the margin
    let page (name : String) : Component := ⟨name, "pages/x.tsx", .page, true, false, none⟩
    let components := [page "Home", page "About"]
    let plan : Plan := ⟨[⟨"Home", ⟨"home-scene", ⟨⟨9, 9⟩, 212, 128⟩, "Home", some "Home", ""⟩⟩],
      [note 312], ["About"], [], [], [], []⟩
    let settings : LayoutSettings :=
      { spacing := 100, defaultScene := ⟨10, 10⟩, gapMargin := -10, appLeft := 250 }
    have hrow : ((ofPlan plan components).placeAll components settings).row components settings =
        ((ofPlan plan components).placeAll components settings).entries components settings :=
      row_eq_entries (by decide +kernel)
    have hmoved := h plan components settings [0, 1] (by decide +kernel) (by decide) (by decide)
    simp only [Layout.place, compact, hrow] at hmoved
    exact absurd hmoved (by decide +kernel)
  · -- a column that climbs into the row
    let components := [card 700, chip]
    let settings : LayoutSettings := { verticalSpacing := -2156 }
    have hrow : ((ofPlan cards components).placeAll components settings).row components settings =
        ((ofPlan cards components).placeAll components settings).entries components settings :=
      row_eq_entries (by decide +kernel)
    have hmoved := h cards components settings [0] (by decide +kernel) (by decide) (by decide)
    simp only [Layout.place, compact, hrow] at hmoved
    exact absurd hmoved (by decide +kernel)
  · -- a negative height, by which the next component climbs into the row
    let components := [card (-1676), chip]
    have hrow : ((ofPlan cards components).placeAll components {}).row components {} =
        ((ofPlan cards components).placeAll components {}).entries components {} :=
      row_eq_entries (by decide +kernel)
    have hmoved := h cards components {} [0] (by decide +kernel) (by decide) (by decide)
    simp only [Layout.place, compact, hrow] at hmoved
    exact absurd hmoved (by decide +kernel)

end SceneBoard
