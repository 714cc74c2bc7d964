import Mathlib.Data.List.Range
import Mathlib.Data.List.Sort
import Mathlib.Tactic.Ring
import SceneBoard.Proofs.StageBounds

/-!
# Gaps of a row whose scenes stand on a grid

In a row that was closed up, the scenes stand one spacing apart; when some of them are gone, the
others still stand on the grid of these places, and the gaps are the places that are missing
(`missing`). This module shows that `gaps` finds exactly these, each once and from left to right
(`map_left_gaps_grid`), as long as a scene of the default width does not need more than one spacing,
and at least one pixel. New pages then take the missing places in their order and go on behind the
last one (`forall₂_fillRow`), also where an anchor stands in front of the grid
(`IsOnGrid.forall₂_placePages`).
-/

namespace SceneBoard

/-! ## Ascending numbers -/

/-- The numbers that an ascending list leaves out. -/
def missing : List Nat → List Nat
  | j :: k :: ks => List.range' (j + 1) (k - j - 1) ++ missing (k :: ks)
  | _ => []

/-- With the missing numbers, a list goes on without gaps. -/
theorem perm_append_missing {j : Nat} {ks : List Nat} (h : (j :: ks).Pairwise (· < ·)) :
    ((j :: ks) ++ missing (j :: ks)).Perm
      (List.range' j ((j :: ks).length + (missing (j :: ks)).length)) := by
  -- by induction along the numbers: the ones missing behind the first stand before the second
  induction ks generalizing j with
  | nil => exact .refl _
  | cons k ks ih =>
    obtain ⟨hfirst, hrest⟩ := List.pairwise_cons.1 h
    have hjk := hfirst k (by simp)
    have hlength : (j :: k :: ks).length + (missing (j :: k :: ks)).length =
        (k - j - 1 + ((k :: ks).length + (missing (k :: ks)).length)) + 1 := by
      rw [missing, List.length_append, List.length_range', List.length_cons]
      omega
    rw [hlength, List.range'_succ, ← List.range'_append_1]
    have hstart : j + 1 + (k - j - 1) = k := by omega
    rw [hstart, missing, List.cons_append, ← List.append_assoc]
    -- what is missing behind `j` goes in front of `k`
    apply List.Perm.cons
    apply (List.perm_append_comm.append_right _).trans
    rw [List.append_assoc]
    exact (ih hrest).append_left _

/-- The last number of a list, as its length and the numbers that are missing tell it. -/
theorem getLast?_eq_of_ascending {j : Nat} {ks : List Nat} (h : (j :: ks).Pairwise (· < ·)) :
    (j :: ks).getLast? = some (j + ks.length + (missing (j :: ks)).length) := by
  induction ks generalizing j with
  | nil => rfl
  | cons k ks ih =>
    obtain ⟨hfirst, hrest⟩ := List.pairwise_cons.1 h
    have hjk := hfirst k (by simp)
    rw [List.getLast?_cons_cons, ih hrest, missing, List.length_append, List.length_range',
      List.length_cons]
    congr 1
    omega

/-- No number of an ascending list is larger than its length and its gaps allow. -/
theorem le_of_mem_of_ascending {j k : Nat} {ks : List Nat} (h : (j :: ks).Pairwise (· < ·))
    (hk : k ∈ j :: ks) : k ≤ j + ks.length + (missing (j :: ks)).length := by
  have hmem := (perm_append_missing h).subset (List.mem_append_left _ hk)
  rw [List.mem_range'_1, List.length_cons] at hmem
  omega

/-- How many places in front of the last one are free. -/
def freePlaces (ks : List Nat) : Nat :=
  ((List.range (ks.getLast?.getD 0)).filter fun k => k ∉ ks).length

/-- Up to the last place, all places are free or taken. -/
theorem freePlaces_add_length {ks : List Nat} (h : ks.Pairwise (· < ·)) {last : Nat}
    (hlast : ks.getLast? = some last) : freePlaces ks + ks.length = last + 1 := by
  have hle : ∀ k ∈ ks, k ≤ last := by
    intro k hk
    cases hks : ks with
    | nil => simp [hks] at hk
    | cons j js =>
      subst hks
      rw [getLast?_eq_of_ascending h] at hlast
      exact Option.some.inj hlast ▸ le_of_mem_of_ascending h hk
  -- of the numbers up to the last one, those in the list are the taken ones
  have htaken : ((List.range (last + 1)).filter fun k => k ∈ ks).Perm ks := by
    rw [List.perm_ext_iff_of_nodup (List.nodup_range.filter _) (h.imp Nat.ne_of_lt)]
    intro k
    rw [List.mem_filter, List.mem_range, decide_eq_true_eq]
    constructor
    · exact fun hk => hk.2
    · intro hk
      have hlek := hle k hk
      exact ⟨by omega, hk⟩
  -- the last place is taken, so that the free ones are all before it
  have hfree : (List.range (last + 1)).filter (fun k => k ∉ ks) =
      (List.range last).filter fun k => k ∉ ks := by
    rw [List.range_succ, List.filter_append]
    simp [List.mem_of_getLast? hlast]
  have hsplit := List.length_eq_length_filter_add (l := List.range (last + 1)) fun k => decide (k ∈ ks)
  rw [List.length_range, htaken.length_eq] at hsplit
  simp only [← decide_not, hfree] at hsplit
  rw [freePlaces, hlast, Option.getD_some]
  omega

/-! ## Settings -/

/-- Settings under which a new page of the default width takes no more than one step of the row, and
no gap is seen between the two anchors. -/
@[mk_iff]
structure LayoutSettings.IsSpaced (s : LayoutSettings) : Prop where
  spacing_pos : 1 ≤ s.spacing
  spacing : s.defaultScene.width + s.gapMargin ≤ s.spacing
  playground_lt_app : s.playgroundLeft < s.appLeft
  app_lt : s.appLeft < s.playgroundLeft + s.spacing + s.defaultScene.width + s.gapMargin
  topRow : s.topRow < s.componentColumnTop

instance (s : LayoutSettings) : Decidable s.IsSpaced :=
  decidable_of_iff' _ (LayoutSettings.isSpaced_iff s)

namespace Draft

/-! ## Places in ascending order -/

/-- Inserting keeps the order. -/
theorem pairwise_insertAscending (n : Int) {ms : List Int} (h : ms.Pairwise (· < ·)) :
    (insertAscending n ms).Pairwise (· < ·) := by
  induction ms with
  | nil => exact List.pairwise_singleton ..
  | cons m ms ih =>
    obtain ⟨hfirst, hrest⟩ := List.pairwise_cons.1 h
    rw [insertAscending]
    split
    · rename_i hlt
      apply List.pairwise_cons.2 ⟨fun k hk => ?_, h⟩
      cases List.mem_cons.1 hk with
      | inl heq => exact heq ▸ hlt
      | inr hk => exact hlt.trans (hfirst k hk)
    · split
      · exact h
      · rename_i hge hne
        apply List.pairwise_cons.2 ⟨fun k hk => ?_, ih hrest⟩
        cases mem_insertAscending.1 hk with
        | inl heq => omega
        | inr hk => exact hfirst k hk

theorem pairwise_ascending (ns : List Int) : (ascending ns).Pairwise (· < ·) := by
  unfold ascending
  exact List.foldlRecOn _ _ .nil fun _ h n _ => pairwise_insertAscending n h

/-- The sorted list of some numbers is the ascending one with these numbers. -/
theorem ascending_eq {ns ms : List Int} (hms : ms.Pairwise (· < ·)) (h : ∀ n, n ∈ ns ↔ n ∈ ms) :
    ascending ns = ms :=
  (pairwise_ascending ns).eq_of_mem_iff hms fun n => mem_ascending.trans (h n)

/-- Numbers one higher, behind zero, still ascend. -/
theorem pairwise_cons_map_add {ks : List Nat} (h : ks.Pairwise (· < ·)) :
    (0 :: ks.map (1 + ·)).Pairwise (· < ·) := by
  apply List.pairwise_cons.2
  constructor
  · intro k hk
    obtain ⟨i, -, rfl⟩ := List.mem_map.1 hk
    omega
  · apply List.pairwise_map.2
    apply h.imp
    intro a b hab
    omega

/-- Zero comes first. -/
theorem exists_eq_zero_cons {ks : List Nat} (h : ks.Pairwise (· < ·)) (hzero : 0 ∈ ks) :
    ∃ js, ks = 0 :: js := by
  cases ks with
  | nil => simp at hzero
  | cons k js =>
    cases List.mem_cons.1 hzero with
    | inl heq => exact ⟨js, by rw [heq]⟩
    | inr hmem =>
      have hneg := (List.pairwise_cons.1 h).1 0 hmem
      omega

/-! ## Gaps -/

/-- The place of a number on the grid that begins at an origin. -/
def gridPlace (settings : LayoutSettings) (origin : Int) (j : Nat) : Int :=
  origin + j * settings.spacing

variable {settings : LayoutSettings} {count : Nat} {origin : Int}

@[simp] theorem gridPlace_zero : gridPlace settings origin 0 = origin := by
  simp [gridPlace]

theorem gridPlace_one : gridPlace settings origin 1 = origin + settings.spacing := by
  simp [gridPlace]

/-- Later places are as many spacings further. -/
theorem gridPlace_add (j n : Nat) : gridPlace settings origin (j + n) =
    gridPlace settings origin j + (n : Int) * settings.spacing := by
  unfold gridPlace
  push_cast
  ring

/-- A place of the grid begins a grid that goes on in the same places. -/
theorem gridPlace_gridPlace (j k : Nat) :
    gridPlace settings (gridPlace settings origin j) k = gridPlace settings origin (j + k) :=
  (gridPlace_add j k).symm

/-- The places behind a place, as many spacings away as candidates for new pages are. -/
theorem gridPlace_behind (j n : Nat) : gridPlace settings origin (j + 1 + n) =
    gridPlace settings origin j + settings.spacing * ((n : Int) + 1) := by
  rw [Nat.add_right_comm, Nat.add_assoc, gridPlace_add, Int.mul_comm]
  rfl

/-- Later places are further to the right. -/
theorem gridPlace_lt (hspacing : 1 ≤ settings.spacing) {j k : Nat} (h : j < k) :
    gridPlace settings origin j < gridPlace settings origin k := by
  have hsteps : (j : Int) * settings.spacing < k * settings.spacing :=
    Int.mul_lt_mul_of_pos_right (by omega) (by omega)
  unfold gridPlace
  omega

/-- No later place is further to the left. -/
theorem gridPlace_le (hspacing : 0 ≤ settings.spacing) {j k : Nat} (h : j ≤ k) :
    gridPlace settings origin j ≤ gridPlace settings origin k := by
  have hsteps : (j : Int) * settings.spacing ≤ k * settings.spacing :=
    Int.mul_le_mul_of_nonneg_right (by omega) hspacing
  unfold gridPlace
  omega

theorem pairwise_gridPlace (hspacing : 1 ≤ settings.spacing) {ks : List Nat}
    (h : ks.Pairwise (· < ·)) : (ks.map (gridPlace settings origin)).Pairwise (· < ·) :=
  List.pairwise_map.2 (h.imp (gridPlace_lt hspacing))

/-- Behind its first place, a grid is the grid that begins at the second one. -/
theorem cons_map_gridPlace (origin : Int) (ks : List Nat) :
    origin :: ks.map (gridPlace settings (origin + settings.spacing)) =
      (0 :: ks.map (1 + ·)).map (gridPlace settings origin) := by
  rw [List.map_cons, List.map_map, gridPlace_zero]
  congr 1
  refine List.map_congr_left fun k _ => ?_
  rw [← gridPlace_one, gridPlace_gridPlace, Function.comp_apply]

/-- A scene of the default width fits into every gap. -/
theorem fits_of_mem_gaps {places : List Int} {g : Gap} (hg : g ∈ gaps settings count places) :
    g.fits settings settings.defaultScene.width := by
  unfold gaps at hg
  split at hg
  · simp at hg
  · obtain ⟨p, -, hg⟩ := List.mem_flatMap.1 hg
    unfold gapsBetween at hg
    dsimp only at hg
    split at hg
    · simp at hg
    · exact (List.mem_filter.1 hg).2

/-- There is no gap between two places that are too close to each other. -/
theorem gapsBetween_eq_nil {start stop : Int} (hspacing : 0 ≤ settings.spacing)
    (hclose : stop < start + settings.spacing + settings.defaultScene.width + settings.gapMargin) :
    gapsBetween settings count start stop = [] := by
  unfold gapsBetween
  dsimp only
  split
  · rfl
  · -- every candidate begins at least one spacing behind the first place
    apply List.filter_eq_nil_iff.2
    intro g hg
    obtain ⟨j, -, rfl⟩ := List.mem_map.1 hg
    have hsteps : 0 ≤ settings.spacing * (j : Int) := Int.mul_nonneg hspacing (by omega)
    simp only [Gap.fits, decide_eq_true_eq, Int.mul_add, Int.mul_one]
    omega

section

variable (hwidth : 1 ≤ settings.defaultScene.width + settings.gapMargin)
  (hspacing : settings.defaultScene.width + settings.gapMargin ≤ settings.spacing)

include hwidth hspacing

/-- A candidate behind a scene is free until the next scene comes. -/
private theorem fits_grid (j n i : Nat) :
    Gap.fits ⟨gridPlace settings origin j + settings.spacing * (i + 1),
      gridPlace settings origin (j + 1 + n)⟩ settings settings.defaultScene.width =
        decide (i < n) := by
  unfold Gap.fits
  rw [decide_eq_decide, gridPlace_behind]
  constructor
  · -- a candidate at or behind the last place has no room before it
    intro hle
    apply Nat.lt_of_not_le
    intro hni
    have hsteps : settings.spacing * ((n : Int) + 1) ≤ settings.spacing * (i + 1) :=
      Int.mul_le_mul_of_nonneg_left (by omega) (by omega)
    simp only at hle
    omega
  · -- any earlier one has a whole spacing
    intro hin
    have hsteps : settings.spacing * ((i : Int) + 1 + 1) ≤ settings.spacing * (n + 1) :=
      Int.mul_le_mul_of_nonneg_left (by omega) (by omega)
    rw [Int.mul_add, Int.mul_one] at hsteps
    simp only
    omega

/-- Between two places of the grid, the gaps are the places that are missing. -/
theorem gapsBetween_grid {j n : Nat} (hcount : n ≤ count)
    (hlimit : ((n + 1 : Nat) : Int) * settings.spacing ≤ Pixels.greatest) :
    gapsBetween settings count (gridPlace settings origin j)
        (gridPlace settings origin (j + 1 + n)) =
      (List.range' (j + 1) n).map fun k =>
        ⟨gridPlace settings origin k, gridPlace settings origin (j + 1 + n)⟩ := by
  -- the places are `n + 1` spacings apart, and so far apart the sums do not leave the range
  have hsteps : 0 ≤ (n : Int) * settings.spacing := Int.mul_nonneg (by omega) (by omega)
  have hdifference : gridPlace settings origin (j + 1 + n) - gridPlace settings origin j =
      ((n + 1 : Nat) : Int) * settings.spacing := by
    rw [Nat.add_right_comm, Nat.add_assoc, gridPlace_add, add_sub_cancel_left]
  have hwidth' : Pixels.sub (gridPlace settings origin (j + 1 + n)) (gridPlace settings origin j) =
      ((n + 1 : Nat) : Int) * settings.spacing := by
    have hlow : Pixels.least ≤ ((n + 1 : Nat) : Int) * settings.spacing :=
      (show Pixels.least ≤ 0 by decide).trans (Int.mul_nonneg (by omega) (by omega))
    rw [Pixels.sub_eq (by rw [hdifference]; exact ⟨hlow, hlimit⟩), hdifference]
  have hwide : ¬ ((n + 1 : Nat) : Int) * settings.spacing < settings.spacing := by
    push_cast
    rw [Int.add_mul]
    omega
  have hcandidates : (((n + 1 : Nat) : Int) * settings.spacing / settings.spacing).toNat = n + 1 := by
    rw [Int.mul_ediv_cancel _ (by omega), Int.toNat_natCast]
  -- only the last candidate, where the next scene stands, is not free
  have hfree : (List.range (min count (n + 1))).filter (fun i => decide (i < n)) = List.range n := by
    have hrange : (List.range n).filter (fun i => decide (i < n)) = List.range n :=
      List.filter_eq_self.2 fun i hi => decide_eq_true (List.mem_range.1 hi)
    cases Nat.lt_or_eq_of_le hcount with
    | inl hlt =>
      rw [Nat.min_eq_right hlt, List.range_succ, List.filter_append, hrange]
      simp
    | inr heq => rw [← heq, Nat.min_eq_left (Nat.le_succ n), hrange]
  unfold gapsBetween
  dsimp only
  rw [hwidth', if_neg hwide, hcandidates, List.filter_map]
  simp only [Function.comp_def, fits_grid hwidth hspacing, hfree]
  rw [List.range'_eq_map_range, List.map_map]
  refine List.map_congr_left fun i _ => ?_
  rw [← gridPlace_behind]
  rfl

/-- The gaps of a row on the grid are the places that are missing in it. -/
theorem map_left_gaps_grid {j : Nat} {ks : List Nat} (h : (j :: ks).Pairwise (· < ·))
    (hcount : (missing (j :: ks)).length ≤ count)
    (hlimit : ∀ k ∈ ks, (k : Int) * settings.spacing ≤ Pixels.greatest) :
    (gaps settings count ((j :: ks).map (gridPlace settings origin))).map (·.left) =
      (missing (j :: ks)).map (gridPlace settings origin) := by
  rw [gaps, if_neg (by omega)]
  -- by induction on the places, two neighbours at a time
  induction ks generalizing j with
  | nil => rfl
  | cons k ks ih =>
    obtain ⟨hfirst, hrest⟩ := List.pairwise_cons.1 h
    have hjk := hfirst k (by simp)
    -- the first two places have `n` free ones between them
    obtain ⟨n, rfl⟩ := Nat.exists_eq_add_of_lt hjk
    have hn : j + n + 1 = j + 1 + n := by omega
    rw [hn] at h hcount hlimit hrest ⊢
    have hbetween : j + 1 + n - j - 1 = n := by omega
    rw [missing, hbetween, List.length_append, List.length_range'] at hcount
    have hdistance : ((n + 1 : Nat) : Int) * settings.spacing ≤ Pixels.greatest := by
      apply (Int.mul_le_mul_of_nonneg_right _ (by omega)).trans (hlimit (j + 1 + n) (by simp))
      omega
    rw [missing, hbetween, List.map_append, ← ih hrest (by omega) fun k hk => hlimit k (by simp [hk])]
    show (gapsBetween settings count (gridPlace settings origin j)
      (gridPlace settings origin (j + 1 + n)) ++ _).map (·.left) = _
    rw [List.map_append, gapsBetween_grid hwidth hspacing (by omega) hdistance, List.map_map]
    rfl

end

/-! ## New pages -/

/-- Where one spacing behind a place of the grid leads to. -/
theorem add_gridPlace {j : Nat} (h : Pixels.Fits (gridPlace settings origin (j + 1))) :
    Pixels.add (gridPlace settings origin j) settings.spacing = gridPlace settings origin (j + 1) := by
  have hplace : gridPlace settings origin j + settings.spacing =
      gridPlace settings origin (j + 1) := by
    rw [← gridPlace_gridPlace, gridPlace_one]
  rw [Pixels.add_eq (hplace ▸ h), hplace]

/-- The component has a new scene in the row, at a place of the grid. -/
def HasPageAt (settings : LayoutSettings) (origin : Int) (d : Draft) (c : Component) (k : Nat) :
    Prop :=
  d.scene? c.name =
    some (newScene c ⟨c.sceneSize settings, gridPlace settings origin k, settings.topRow⟩ c.name)

/-- The pages behind it leave the new scene of a page alone. -/
private theorem hasPageAt_assign_fillRow {d : Draft} {page : Component} {pages : List Component}
    (hpage : page.name ∉ pages.map (·.name))
    (hlabel : ∀ c ∈ pages, IsNewLabel settings c c.name) (gaps : List Gap) (next : Int) (k : Nat) :
    HasPageAt settings origin ((d.assign page ⟨page.sceneSize settings,
      gridPlace settings origin k, settings.topRow⟩ page.name).fillRow settings gaps next pages)
        page k := by
  -- the later pages have other names
  have hne : ∀ c ∈ pages, c.name ≠ page.name :=
    fun c hc hname => hpage (List.mem_map.2 ⟨c, hc, hname⟩)
  rw [HasPageAt, (assigns_fillRow _ settings gaps next hlabel).scene?_of_forall_ne hne,
    scene?_assign, if_pos rfl]

/-- Pages that fit into all gaps fill these one after the other and go on behind the row. -/
theorem forall₂_fillRow {d : Draft} {gaps : List Gap} {js : List Nat} {j : Nat}
    {pages : List Component} (hnames : (pages.map (·.name)).Nodup)
    (hpages : ∀ c ∈ pages, ¬ c.IsAnchor ∧ c.category = .page)
    (hgaps : gaps.map (·.left) = js.map (gridPlace settings origin))
    (hfits : ∀ g ∈ gaps, ∀ c ∈ pages, g.fits settings (c.sceneSize settings).width)
    (hlength : js.length ≤ pages.length)
    (hlimit : ∀ k, j ≤ k → k ≤ j + (pages.length - js.length) →
      Pixels.Fits (gridPlace settings origin k)) :
    List.Forall₂
      (HasPageAt settings origin (d.fillRow settings gaps (gridPlace settings origin j) pages))
      pages (js ++ List.range' j (pages.length - js.length)) := by
  -- by induction on the pages: as long as there are gaps the next one is filled
  induction pages generalizing d gaps js j with
  | nil =>
    rw [List.eq_nil_of_length_eq_zero (Nat.le_zero.1 hlength)]
    exact .nil
  | cons page pages ih =>
    obtain ⟨hpage, hdistinct⟩ := List.nodup_cons.1 hnames
    have hlater : ∀ c ∈ pages, ¬ c.IsAnchor ∧ c.category = .page := fun c hc => hpages c (by simp [hc])
    have hlabel : ∀ c ∈ pages, IsNewLabel settings c c.name :=
      fun c hc => .name (hlater c hc).1 (by simp [(hlater c hc).2])
    cases js with
    | nil =>
      -- no gap is left, so the page goes behind the row
      obtain rfl : gaps = [] := List.map_eq_nil_iff.1 hgaps
      have hnext := add_gridPlace (hlimit (j + 1) (by omega) (by simp))
      have hfill : d.fillRow settings [] (gridPlace settings origin j) (page :: pages) =
          (d.assign page ⟨page.sceneSize settings, gridPlace settings origin j, settings.topRow⟩
            page.name).fillRow settings [] (gridPlace settings origin (j + 1)) pages := by
        rw [← hnext]
        rfl
      rw [hfill]
      apply List.Forall₂.cons (hasPageAt_assign_fillRow hpage hlabel [] _ j)
      have hrest := @ih (d.assign page ⟨page.sceneSize settings, gridPlace settings origin j,
        settings.topRow⟩ page.name) [] [] (j + 1) hdistinct hlater rfl (by simp) (by simp)
      rw [List.nil_append, List.length_nil, Nat.sub_zero] at hrest
      apply hrest
      intro k hk hlast
      exact hlimit k (by omega) (by simp at hlast ⊢; omega)
    | cons k js =>
      -- the first gap is wide enough, so the page takes it
      obtain ⟨g, gs, rfl, hleft, hrest⟩ := List.map_eq_cons_iff.1 hgaps
      have hfit : g.fits settings (page.sceneSize settings).width = true :=
        hfits g (by simp) page (by simp)
      have hfill (next : Int) : d.fillRow settings (g :: gs) next (page :: pages) =
          (d.assign page ⟨page.sceneSize settings, gridPlace settings origin k, settings.topRow⟩
            page.name).fillRow settings gs next pages := by
        simp only [fillRow, List.find?_cons, List.eraseP_cons, hfit, cond_true, hleft]
      have hsub : (page :: pages).length - (k :: js).length = pages.length - js.length := by simp
      rw [hfill, hsub]
      apply List.Forall₂.cons (hasPageAt_assign_fillRow hpage hlabel gs _ k)
      apply ih hdistinct hlater hrest (fun g hg c hc => hfits g (by simp [hg]) c (by simp [hc]))
        (by simpa using hlength)
      intro k hk hlast
      exact hlimit k hk (hsub ▸ hlast)

/-! ## Places of a row -/

/-- The places lie on the grid that begins at `origin`, at `0` and at `js`. In front of it there may
be one more, so close that there is no gap behind it. -/
structure IsOnGrid (settings : LayoutSettings) (origin : Int) (js : List Nat) (places : List Int) :
    Prop where
  ascending : (0 :: js).Pairwise (· < ·)
  eq : places = (0 :: js).map (gridPlace settings origin) ∨ ∃ start,
    places = start :: (0 :: js).map (gridPlace settings origin) ∧
      origin < start + settings.spacing + settings.defaultScene.width + settings.gapMargin

namespace IsOnGrid

variable {settings : LayoutSettings} {origin : Int} {js : List Nat} {places : List Int}
  (h : IsOnGrid settings origin js places)

include h

theorem le_of_mem {k : Nat} (hk : k ∈ js) : k ≤ js.length + (missing (0 :: js)).length := by
  have hle := le_of_mem_of_ascending h.ascending (List.mem_cons_of_mem 0 hk)
  omega

/-- The last place of the row is the last one of the grid. -/
theorem getLast?_eq : places.getLast? =
    some (gridPlace settings origin (js.length + (missing (0 :: js)).length)) := by
  have hgrid : ((0 :: js).map (gridPlace settings origin)).getLast? =
      some (gridPlace settings origin (js.length + (missing (0 :: js)).length)) := by
    rw [List.getLast?_map, getLast?_eq_of_ascending h.ascending, Nat.zero_add, Option.map_some]
  cases h.eq with
  | inl heq => rw [heq, hgrid]
  | inr heq =>
    obtain ⟨start, heq, -⟩ := heq
    rw [heq, List.map_cons, List.getLast?_cons_cons, ← List.map_cons, hgrid]

/-- The gaps of the row are the places that are missing. -/
theorem map_left_gaps (hsettings : settings.IsSpaced)
    (hwidth : 1 ≤ settings.defaultScene.width + settings.gapMargin) {count : Nat}
    (hcount : (missing (0 :: js)).length ≤ count)
    (hlimit : ∀ k ∈ js, (k : Int) * settings.spacing ≤ Pixels.greatest) :
    (gaps settings count places).map (·.left) =
      (missing (0 :: js)).map (gridPlace settings origin) := by
  have hspacing := hsettings.spacing_pos
  have hgrid : (gaps settings count ((0 :: js).map (gridPlace settings origin))).map (·.left) =
      (missing (0 :: js)).map (gridPlace settings origin) :=
    map_left_gaps_grid hwidth hsettings.spacing h.ascending hcount hlimit
  cases h.eq with
  | inl heq => rw [heq, hgrid]
  | inr heq =>
    obtain ⟨start, heq, hclose⟩ := heq
    -- the first two places are too close for a gap
    have hnone : gapsBetween settings count start origin = [] := gapsBetween_eq_nil (by omega) hclose
    rw [← hgrid, heq, List.map_cons, gridPlace_zero, gaps, gaps, if_neg (by omega), if_neg (by omega),
      List.tail_cons, List.zip_cons_cons, List.flatMap_cons, hnone, List.nil_append]
    rfl

/-- New pages take the places that are missing and those behind the row. -/
theorem forall₂_placePages {components : List Component} {d : Draft} {pages : List Component}
    (hplaces : places = d.rowPlaces components settings) (hsettings : settings.IsSpaced)
    (hmargin : 1 ≤ settings.defaultScene.width + settings.gapMargin)
    (hpages : pages = d.pending.filter (·.category == .page)) (hnames : (pages.map (·.name)).Nodup)
    (hplain : ∀ c ∈ d.pending, ¬ c.IsAnchor)
    (hwidth : ∀ c ∈ pages, (c.sceneSize settings).width ≤ settings.defaultScene.width)
    (hcount : (missing (0 :: js)).length ≤ pages.length)
    (hfits : ∀ k, k ≤ js.length + 1 + pages.length → Pixels.Fits (gridPlace settings origin k))
    (hlimit : ((js.length + pages.length : Nat) : Int) * settings.spacing ≤ Pixels.greatest) :
    List.Forall₂ (HasPageAt settings origin (d.placePages components settings)) pages
      (missing (0 :: js) ++ List.range' (js.length + (missing (0 :: js)).length + 1)
        (pages.length - (missing (0 :: js)).length)) := by
  have hspacing := hsettings.spacing_pos
  have htake : d.take (·.category == .page) = (pages, (d.take (·.category == .page)).2) := by
    rw [hpages]
    rfl
  unfold placePages
  rw [htake]
  dsimp only
  split
  · -- no page to place
    rename_i hempty
    obtain rfl : pages = [] := List.isEmpty_iff.1 hempty
    rw [List.eq_nil_of_length_eq_zero (Nat.le_zero.1 hcount)]
    exact .nil
  · have hsame : (d.take (·.category == .page)).2.rowPlaces components settings = places :=
      hplaces.symm
    have hnext : Pixels.add (gridPlace settings origin (js.length + (missing (0 :: js)).length))
        settings.spacing =
          gridPlace settings origin (js.length + (missing (0 :: js)).length + 1) :=
      add_gridPlace (hfits _ (by omega))
    rw [hsame, h.getLast?_eq, Option.getD_some, hnext]
    -- the pages fill the free places of the grid, and then go on behind the last one
    apply forall₂_fillRow hnames
    · intro c hc
      obtain ⟨hpending, hpage⟩ := List.mem_filter.1 (hpages ▸ hc)
      exact ⟨hplain c hpending, eq_of_beq hpage⟩
    · apply h.map_left_gaps hsettings hmargin hcount
      intro k hk
      have hle := h.le_of_mem hk
      exact (Int.mul_le_mul_of_nonneg_right (by omega) (by omega)).trans hlimit
    · intro g hg c hc
      have hgap := fits_of_mem_gaps hg
      have hw := hwidth c hc
      simp only [Gap.fits, decide_eq_true_eq] at hgap ⊢
      omega
    · exact hcount
    · intro k _ hk
      exact hfits k (by omega)

/-- With them, the places of the row go on without gaps from its first one or from the second. -/
theorem perm_filled {e : Nat} (he : e ≤ 1) (r : Nat) :
    ((0 :: js).drop e ++ (missing (0 :: js) ++
      List.range' (js.length + (missing (0 :: js)).length + 1) r)).Perm
        (List.range' e (js.length + (missing (0 :: js)).length + 1 + r - e)) := by
  -- with the place zero all places are filled from the beginning on
  have hfull : ((0 :: js) ++ (missing (0 :: js) ++
      List.range' (js.length + (missing (0 :: js)).length + 1) r)).Perm
        (List.range' 0 (js.length + (missing (0 :: js)).length + 1 + r)) := by
    have hlength : (0 :: js).length + (missing (0 :: js)).length =
        js.length + (missing (0 :: js)).length + 1 := by
      rw [List.length_cons]
      omega
    have hplaces := (perm_append_missing h.ascending).append_right
      (List.range' (js.length + (missing (0 :: js)).length + 1) r)
    rw [hlength, List.append_assoc] at hplaces
    have happend := List.range'_append_1 (s := 0)
      (m := js.length + (missing (0 :: js)).length + 1) (n := r)
    rw [Nat.zero_add] at happend
    exact hplaces.trans (List.Perm.of_eq happend)
  cases Nat.le_one_iff_eq_zero_or_eq_one.1 he with
  | inl heq =>
    subst heq
    exact hfull
  | inr heq =>
    subst heq
    -- the place `0` heads both sides and is left out of both
    have hlength : js.length + (missing (0 :: js)).length + 1 + r =
        (js.length + (missing (0 :: js)).length + 1 + r - 1) + 1 := by omega
    rw [hlength, List.range'_succ] at hfull
    exact hfull.cons_inv

end IsOnGrid

/-- The places that are missing are those that are free. -/
theorem IsOnGrid.length_missing {settings : LayoutSettings} {origin : Int} {js ks : List Nat}
    {places : List Int} (h : IsOnGrid settings origin js places) {e : Nat} (he : e ≤ 1)
    (hks : (0 :: js).drop e = ks.map (e + ·)) : (missing (0 :: js)).length = freePlaces ks := by
  -- the places beyond the origin ascend as those of the grid do
  have hascending : ks.Pairwise (· < ·) := by
    have hdrop := h.ascending.sublist (List.drop_sublist e (0 :: js))
    rw [hks, List.pairwise_map] at hdrop
    exact hdrop.imp fun hlt => by omega
  have hlength := congrArg List.length hks
  rw [List.length_drop, List.length_map, List.length_cons] at hlength
  -- an empty row is a grid of its origin alone
  cases hlast : ks.getLast? with
  | none =>
    obtain rfl := List.getLast?_eq_none_iff.1 hlast
    rw [List.length_nil] at hlength
    rw [List.eq_nil_of_length_eq_zero (by omega : js.length = 0)]
    rfl
  | some last =>
    have hfree := freePlaces_add_length hascending hlast
    -- the last place of the grid is the last one of the row
    have hend : (0 :: js).getLast? = some (e + last) := by
      have hdrop : ((0 :: js).drop e).getLast? = some (e + last) := by
        rw [hks, List.getLast?_map, hlast, Option.map_some]
      rw [List.getLast?_drop] at hdrop
      split at hdrop
      · simp at hdrop
      · exact hdrop
    rw [getLast?_eq_of_ascending h.ascending] at hend
    have hend := Option.some.inj hend
    omega

end Draft

end SceneBoard
