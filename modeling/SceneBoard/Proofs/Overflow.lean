import SceneBoard.Proofs.Arithmetic
import SceneBoard.Proofs.CanvasRange
import SceneBoard.Proofs.NeededGaps

/-!
# Nothing overflows

Scenes are placed with numbers of 64 bits. This module shows that no number that comes up on the way
leaves them, and that none is clamped to stay in them, as long as the settings were checked, sizes
are in range and there are less than 2³⁰ components and scenes of before. The bounds are those of
`Draft.IsRoomy`, which every stage keeps: what a stage adds up lies between the canvas and the end of
the room that is left, one step of the last scene included. A stage that is worked out by an exact
arithmetic therefore gives the draft that it gives with whole numbers (`placePages_eq`,
`fillColumn_eq`, `placeFolders_eq`), and so does closing up the row (`targets_eq`).

A row may have more gaps than its pages need, and the program looks at all of them. All are within
bounds, and the pages are placed as they are with the gaps that are needed (`Draft.fillRow_gaps`).

## Key results

- `placeWith_reconcile`: every exact arithmetic gives the layout of a plan
- `placeWith_generate`: nothing overflows and nothing is clamped in a generation
-/

namespace SceneBoard

/-- Numbers far from the ends of the 64 bits fit. -/
theorem Pixels.fits_of_le {n : Int} (hlow : -2 ^ 62 ≤ n) (hhigh : n ≤ 2 ^ 62) : Fits n := by
  unfold Fits least greatest
  omega

namespace Arithmetic

open Draft LayoutSettings
open Pixels (fits_of_le)

/-- A number of which a few of its kind have a sum that fits. -/
def IsSmall (n : Int) : Prop := -2 ^ 60 ≤ n ∧ n ≤ 2 ^ 60

/-- A step that succeeds is passed on. -/
theorem bind_of_eq_some {α β : Type} {x : Option α} {a : α} (h : x = some a) (f : α → Option β) :
    (x >>= f) = f a := by
  rw [h]
  rfl

section

variable {A : Arithmetic} {settings : LayoutSettings} (hA : A.IsExact) (hvalid : settings.IsValid)

include hA hvalid

/-! ## Pages -/

section

variable {g : Gap} {gs : List Gap} {width start stop : Int}

/-- Whether a gap fits is worked out without leaving the range. -/
theorem fits_eq (hg : IsSmall g.left) (hwidth : IsSmall width) :
    A.fits settings g width = some (g.fits settings width) := by
  obtain ⟨hgl, hgr⟩ := hg
  obtain ⟨hwl, hwr⟩ := hwidth
  obtain ⟨hml, hmr⟩ := hvalid.gapMargin
  unfold Size.maxSide at hmr
  rw [fits, bind_of_eq_some (hA.add (fits_of_le (by omega) (by omega))),
    bind_of_eq_some (hA.add (fits_of_le (by omega) (by omega)))]
  rfl

/-- The candidates that lie before `stop` are looked at one by one. -/
theorem gapsAt_eq (hstart : IsSmall start) (hstop : IsSmall stop) {js : List Nat}
    (hjs : ∀ j ∈ js, start + settings.spacing * ((j : Int) + 1) ≤ stop) :
    A.gapsAt settings start stop js = some ((js.map fun (j : Nat) =>
      (⟨start + settings.spacing * (j + 1), stop⟩ : Gap)).filter
        (·.fits settings settings.defaultScene.width)) := by
  obtain ⟨hsl, hsr⟩ := hstart
  obtain ⟨htl, htr⟩ := hstop
  obtain ⟨hwl, hwr⟩ := hvalid.defaultScene.1
  unfold Size.maxSide at hwr
  induction js with
  | nil => rfl
  | cons j js ih =>
    have hbefore := hjs j (by simp)
    -- a spacing is at least one pixel, so the number of steps is bounded by the distance
    have hsteps : 1 * ((j : Int) + 1) ≤ settings.spacing * ((j : Int) + 1) :=
      Int.mul_le_mul_of_nonneg_right hvalid.spacing.1 (by omega)
    have hleft : IsSmall (start + settings.spacing * (j + 1)) := ⟨by omega, by omega⟩
    have hwidth : IsSmall settings.defaultScene.width := ⟨by omega, by omega⟩
    have hfits := fits_eq (g := ⟨start + settings.spacing * (j + 1), stop⟩) hA hvalid hleft hwidth
    rw [gapsAt, bind_of_eq_some (hA.add (fits_of_le (by omega) (by omega))),
      bind_of_eq_some (hA.mul (fits_of_le (by omega) (by omega))),
      bind_of_eq_some (hA.add (fits_of_le (by omega) (by omega))), bind_of_eq_some hfits,
      bind_of_eq_some (ih fun j hj => hjs j (by simp [hj])), List.map_cons, List.filter_cons]
    rfl

/-- Between two places all gaps are found. -/
theorem gapsBetween_eq (hstart : IsSmall start) (hstop : IsSmall stop) {n : Nat} (hn : 2 ^ 62 ≤ n) :
    A.gapsBetween settings start stop = some (Draft.gapsBetween settings n start stop) := by
  have hspacing : 1 ≤ settings.spacing := hvalid.spacing.1
  obtain ⟨hsl, hsr⟩ := id hstart
  obtain ⟨htl, htr⟩ := id hstop
  -- between small places the distance is in range, and so is the number of steps
  have hwidth : Pixels.Fits (stop - start) := fits_of_le (by omega) (by omega)
  rw [gapsBetween, bind_of_eq_some (hA.subClamped hwidth), Draft.gapsBetween, Pixels.sub_eq hwidth]
  split
  · rfl
  · rename_i hroom
    have hcount : (stop - start).tdiv settings.spacing = (stop - start) / settings.spacing :=
      Int.tdiv_eq_ediv_of_nonneg (by omega)
    have hlow : 0 ≤ (stop - start) / settings.spacing := Int.ediv_nonneg (by omega) (by omega)
    have hhigh : (stop - start) / settings.spacing ≤ stop - start :=
      Int.ediv_le_self _ (by omega)
    have hdiv := hA.div (a := stop - start) (show settings.spacing ≠ 0 by omega)
      (by rw [hcount]; exact fits_of_le (by omega) (by omega))
    -- `n` is more than the 64 bits have room for, so it leaves no gap out
    rw [bind_of_eq_some hdiv, hcount, Nat.min_eq_right (by omega)]
    refine gapsAt_eq hA hvalid hstart hstop fun j hj => ?_
    have hj : (j : Int) + 1 ≤ (stop - start) / settings.spacing := by
      have := List.mem_range.1 hj
      omega
    have hdistance := (Int.le_ediv_iff_mul_le (by omega)).1 hj
    rw [Int.mul_comm] at hdistance
    omega

/-- The gaps along the row, from place to place. -/
private theorem gapsAlong_eq {places : List Int} (hplaces : ∀ n ∈ places, IsSmall n) {n : Nat}
    (hn : 2 ^ 62 ≤ n) : A.gapsAlong settings places =
      some ((places.zip places.tail).flatMap fun p =>
        Draft.gapsBetween settings n p.1 p.2) := by
  induction places with
  | nil => rfl
  | cons start places ih =>
    cases places with
    | nil => rfl
    | cons stop places =>
      have hbetween := gapsBetween_eq hA hvalid (hplaces start (by simp)) (hplaces stop (by simp)) hn
      rw [gapsAlong, bind_of_eq_some hbetween,
        bind_of_eq_some (ih fun m hm => hplaces m (by simp [hm]))]
      rfl

/-- The gaps of a row are worked out without leaving the range. -/
theorem gaps_eq {places : List Int} (hplaces : ∀ n ∈ places, IsSmall n) {n : Nat}
    (hn : 2 ^ 62 ≤ n) : A.gaps settings places = some (Draft.gaps settings n places) := by
  have hspacing : ¬ settings.spacing ≤ 0 := Int.not_le.2 hvalid.spacing.1
  rw [gaps, if_neg hspacing, Draft.gaps, if_neg hspacing]
  exact gapsAlong_eq hA hvalid hplaces hn

/-- Taking a gap is worked out without leaving the range. -/
theorem takeGap_eq (hwidth : IsSmall width) (hgs : ∀ g ∈ gs, IsSmall g.left) :
    A.takeGap settings width gs = some (gs.find? (·.fits settings width),
      gs.eraseP (·.fits settings width)) := by
  induction gs with
  | nil => rfl
  | cons g gs ih =>
    rw [takeGap, bind_of_eq_some (fits_eq hA hvalid (hgs g (by simp)) hwidth)]
    by_cases hfit : g.fits settings width
    · simp [hfit]
    · rw [if_neg hfit, bind_of_eq_some (ih fun g hg => hgs g (by simp [hg]))]
      simp [hfit]

/-- Pages are placed in the row, with room for one more. -/
theorem fillRow_eq {d : Draft} {next : Int} {pages : List Component}
    (hpages : ∀ c ∈ pages, (c.sceneSize settings).InRange) (hgs : ∀ g ∈ gs, IsSmall g.left)
    (hnext : -maxCoordinate ≤ next) (hend : next + settings.spacing * pages.length ≤ 2 ^ 60) :
    A.fillRow settings d gs next pages = some (d.fillRow settings gs next pages) := by
  have hspacing : 1 ≤ settings.spacing := hvalid.spacing.1
  -- by induction on the pages, as each one moves the next place by one spacing at most
  induction pages generalizing d gs next with
  | nil => rfl
  | cons page pages ih =>
    obtain ⟨hwl, hwr⟩ := (hpages page (by simp)).1
    unfold Size.maxSide at hwr
    have hlater := fun c (hc : c ∈ pages) => hpages c (by simp [hc])
    have hwidth : IsSmall (page.sceneSize settings).width := ⟨by omega, by omega⟩
    have htake := takeGap_eq hA hvalid hwidth hgs
    rw [List.length_cons, Int.natCast_succ, Int.mul_add, Int.mul_one] at hend
    have hrest : 0 ≤ settings.spacing * (pages.length : Int) :=
      Int.mul_nonneg (by omega) (Int.natCast_nonneg _)
    rw [fillRow, bind_of_eq_some htake, Draft.fillRow]
    cases hfind : gs.find? (·.fits settings (page.sceneSize settings).width) with
    | some gap =>
      exact ih hlater (fun g hg => hgs g (List.mem_of_mem_eraseP hg)) hnext (by omega)
    | none =>
      unfold maxCoordinate at hnext ih
      have hsum : Pixels.Fits (next + settings.spacing) := fits_of_le (by omega) (by omega)
      -- nothing is taken from the gaps, and the next place is worked out behind the last page too
      have hsame : gs.eraseP (·.fits settings (page.sceneSize settings).width) = gs :=
        List.eraseP_of_forall_not (List.find?_eq_none.1 hfind)
      dsimp only
      rw [bind_of_eq_some (hA.addClamped hsum), hsame, Pixels.add_eq hsum]
      exact ih hlater hgs (by omega) (by omega)

/-- The pages of a row that ends at `last`. -/
theorem placePages_eq {d : Draft} {components : List Component} {last : Int}
    (hsizes : ∀ c ∈ d.pending, (c.sceneSize settings).InRange)
    (hplaces : ∀ n ∈ d.rowPlaces components settings, -maxCoordinate ≤ n ∧ n ≤ last)
    (hlast : 0 ≤ last)
    (hend : last + settings.spacing * ((d.pending.length : Int) + 1) ≤ 2 ^ 60) :
    A.placePages settings d components = some (d.placePages components settings) := by
  have hspacing : 1 ≤ settings.spacing := hvalid.spacing.1
  let pages := (d.take (·.category == .page)).1
  let rest := (d.take (·.category == .page)).2
  let places := d.rowPlaces components settings
  -- both sides go one way if there is a page to place
  show (if pages.isEmpty then some rest else do
    let gaps ← A.gaps settings places
    let next ← A.addClamped (places.getLast?.getD 0) settings.spacing
    A.fillRow settings rest gaps next pages) =
      some (if pages.isEmpty then rest else rest.fillRow settings
        (Draft.gaps settings pages.length places)
        (Pixels.add (places.getLast?.getD 0) settings.spacing) pages)
  have hfewer : settings.spacing * (pages.length : Int) ≤ settings.spacing * d.pending.length :=
    Int.mul_le_mul_of_nonneg_left (Int.ofNat_le.2 (List.length_filter_le _ _)) (by omega)
  have hpages : 0 ≤ settings.spacing * (pages.length : Int) :=
    Int.mul_nonneg (by omega) (Int.natCast_nonneg _)
  rw [Int.mul_add, Int.mul_one] at hend
  unfold maxCoordinate at hplaces
  split
  · rfl
  · -- all gaps of the row are found, though only as many of them are needed as there are pages
    have hgaps : A.gaps settings places =
        some (Draft.gaps settings (max (2 ^ 62) pages.length) places) := by
      refine gaps_eq hA hvalid (fun n hn => ?_) (Nat.le_max_left ..)
      obtain ⟨hlow, hhigh⟩ := hplaces n hn
      exact ⟨by omega, by omega⟩
    have hend' : -10000000 ≤ places.getLast?.getD 0 ∧ places.getLast?.getD 0 ≤ last :=
      getLast?_getD_bounds hplaces hlast
    have hnext : Pixels.Fits (places.getLast?.getD 0 + settings.spacing) :=
      fits_of_le (by omega) (by omega)
    rw [bind_of_eq_some hgaps, bind_of_eq_some (hA.addClamped hnext), Pixels.add_eq hnext,
      ← fillRow_gaps (Nat.le_max_right (2 ^ 62) pages.length)]
    refine fillRow_eq hA hvalid (fun c hc => hsizes c (List.mem_filter.1 hc).1) (fun g hg => ?_)
      (by unfold maxCoordinate; omega) (by omega)
    obtain ⟨hlow, hhigh⟩ := le_left_of_mem_gaps hvalid hg hplaces
    exact ⟨by omega, by omega⟩

end

/-! ## Columns -/

section

variable {d : Draft} {count : Nat} {reach depth floor left top : Int} {b : Box}

/-- Below a box that ends within the 64 bits, the next top is worked out without clamping. -/
theorem below_eq (hsize : b.size.InRange) (htop : -maxCoordinate ≤ b.top)
    (hbelow : b.below settings ≤ Pixels.greatest) :
    A.below settings b = some (Pixels.add b.bottom settings.verticalSpacing) := by
  obtain ⟨hbottom, hnext⟩ := Box.fits_below hvalid.verticalSpacing.1 hsize.2.1 htop hbelow
  rw [below, bind_of_eq_some (hA.addClamped hbottom), hA.addClamped hnext, Box.bottom,
    Pixels.add_eq hbottom, Pixels.add_eq hnext]

/-- Scene by scene, with the deepest top so far. -/
private theorem foldlM_below_eq (h : d.IsBounded settings count reach depth floor)
    (hcolumn : settings.IsColumn count left) (hfloor : floor ≤ Pixels.greatest)
    (ps : List PlacedScene) (hps : ∀ p ∈ ps, p ∈ d.scenes) (top : Int) :
    ps.foldlM (fun top p => do
      let b := p.scene.box
      if b.left = left ∧ settings.componentColumnTop ≤ b.top then
        return max top (← A.below settings b)
      else
        return top) top =
      some ((ps.filterMap fun p =>
        let b := p.scene.box
        if b.left = left ∧ settings.componentColumnTop ≤ b.top then
          some (Pixels.add b.bottom settings.verticalSpacing)
        else none).foldl max top) := by
  induction ps generalizing top with
  | nil => rfl
  | cons p ps ih =>
    have hlater := ih fun q hq => hps q (by simp [hq])
    have hwithin := h.within p (hps p (by simp))
    dsimp only at hlater
    simp only [List.foldlM_cons, List.filterMap_cons]
    by_cases hplace : p.scene.box.left = left ∧ settings.componentColumnTop ≤ p.scene.box.top
    · -- a scene of the column ends above the floor, and this is in range
      have hin : p.scene.box.InColumn settings count := ⟨hplace.1 ▸ hcolumn, hplace.2⟩
      have hbelow := below_eq hA hvalid hwithin.size hwithin.top
        ((h.columns p (hps p (by simp)) hin).trans hfloor)
      rw [if_pos hplace, if_pos hplace, bind_of_eq_some hbelow]
      exact hlater _
    · rw [if_neg hplace, if_neg hplace]
      exact hlater _

/-- The top of a column is worked out without leaving the range. -/
theorem columnTop_eq (h : d.IsBounded settings count reach depth floor)
    (hcolumn : settings.IsColumn count left) (hfloor : floor ≤ Pixels.greatest) :
    A.columnTop settings d left = some (d.columnTop settings left) :=
  foldlM_below_eq hA hvalid h hcolumn hfloor d.scenes (fun _ hp => hp) _

/-- A column, each scene below the one before. -/
theorem stack_eq {label : Component → String} {cs : List Component}
    (hcs : ∀ c ∈ cs, (c.sceneSize settings).InRange) (htop : -maxCoordinate ≤ top)
    (hroom : top + stepsOf settings cs ≤ Pixels.greatest) :
    A.stack settings d left label top cs = some (d.stack settings left label top cs) := by
  induction cs generalizing d top with
  | nil => rfl
  | cons c cs ih =>
    have hsize := hcs c (by simp)
    have hlater := fun c (hc : c ∈ cs) => hcs c (by simp [hc])
    have hstep := c.step_nonneg hvalid hsize
    have hrest := stepsOf_nonneg hvalid hlater
    rw [stepsOf_cons] at hroom
    -- the next top is a step lower, which the room left below covers
    have hnext : (Box.mk (c.sceneSize settings) left top).below settings =
        top + c.step settings := by
      simp only [Box.below, Component.step]
      omega
    have hbelow := below_eq hA hvalid (b := ⟨c.sceneSize settings, left, top⟩) hsize htop (by omega)
    have hadd := Box.next_eq (b := ⟨c.sceneSize settings, left, top⟩) hvalid.verticalSpacing.1
      hsize.2.1 htop (by omega)
    rw [stack, bind_of_eq_some hbelow, Draft.stack, hadd, hnext]
    exact ih hlater (by omega) (by omega)

/-- A column whose left edge is worked out. -/
theorem fillColumn_eq (h : d.IsRoomy settings count reach depth) (hdepth : depth ≤ Pixels.greatest)
    {place : Option Int} (hplace : place = some left) (hcolumn : settings.IsColumn count left)
    (label : Component → String) (wanted : Component → Bool) :
    A.fillColumn settings d place label wanted =
      some (d.fillColumn settings left label wanted) := by
  let column := (d.take wanted).1
  let rest := (d.take wanted).2
  show (if column.isEmpty then some rest else do
    let left ← place
    let top ← A.columnTop settings rest left
    A.stack settings rest left label top column) =
      some (rest.stack settings left label (rest.columnTop settings left) column)
  by_cases hempty : column.isEmpty
  · rw [if_pos hempty, List.isEmpty_iff.1 hempty]
    rfl
  · have hcolumnSizes : ∀ c ∈ column, (c.sceneSize settings).InRange :=
      fun c hc => h.sizes c (List.mem_filter.1 hc).1
    have hrest : rest.IsBounded settings count reach depth (depth - stepsOf settings d.pending) :=
      ⟨h.bounded.within, h.bounded.columns⟩
    obtain ⟨hlow, htop⟩ := hrest.columnTop hvalid hcolumn h.start
    have hpending : 0 ≤ stepsOf settings d.pending := stepsOf_nonneg hvalid h.sizes
    have hleftOver : 0 ≤ stepsOf settings rest.pending :=
      stepsOf_nonneg hvalid fun c hc => h.sizes c (List.mem_filter.1 hc).1
    -- the column and what it leaves behind share the room there is
    have hsteps : stepsOf settings column + stepsOf settings rest.pending =
        stepsOf settings d.pending := stepsOf_filter wanted
    rw [if_neg hempty, bind_of_eq_some hplace,
      bind_of_eq_some (columnTop_eq hA hvalid hrest hcolumn (by omega))]
    exact stack_eq hA hvalid hcolumnSizes hlow (by omega)

/-- So is the left edge of a sub-folder. -/
theorem folderLeft_eq {i : Nat} (hi : i < count)
    (hend : settings.folderColumnLeft + settings.columnSpacing * count ≤ 2 ^ 60) :
    A.folderLeft settings i = some (Draft.folderLeft settings i) := by
  obtain ⟨hlow, hhigh⟩ := folderLeft_le hvalid hi hend
  obtain ⟨hfirst, hlast⟩ := hvalid.folderColumnLeft
  unfold Draft.folderLeft maxCoordinate at *
  rw [folderLeft, bind_of_eq_some (hA.mul (fits_of_le (by omega) (by omega))),
    hA.add (fits_of_le (by omega) (by omega))]

/-- The sub-folders one after another. -/
private theorem foldlM_fillColumn_eq (h : d.IsRoomy settings count reach depth)
    (hdepth : depth ≤ Pixels.greatest)
    (hreach : settings.folderColumnLeft + settings.columnSpacing * count ≤ reach)
    (hend : reach ≤ 2 ^ 60) (fs : List (String × Nat)) (hfs : ∀ f ∈ fs, f.2 < count) :
    fs.foldlM (fun d f => A.fillColumn settings d (A.folderLeft settings f.2)
      (fun c => c.name ++ " (" ++ f.1 ++ ")") (·.category == .folder f.1)) d =
    some (fs.foldl (fun d f => d.fillColumn settings (Draft.folderLeft settings f.2)
      (fun c => c.name ++ " (" ++ f.1 ++ ")") (·.category == .folder f.1)) d) := by
  induction fs generalizing d with
  | nil => rfl
  | cons f fs ih =>
    have hf := hfs f (by simp)
    have hcolumn : settings.IsColumn count (Draft.folderLeft settings f.2) := .inr ⟨f.2, hf, rfl⟩
    obtain ⟨hleft, hright⟩ := folderLeft_le hvalid hf hreach
    rw [List.foldlM_cons, bind_of_eq_some (fillColumn_eq hA hvalid h hdepth
      (folderLeft_eq hA hvalid hf (hreach.trans hend)) hcolumn _ _)]
    -- what a column leaves behind has room for those that are left
    exact ih (h.fillColumn hvalid _ _ hcolumn hleft hright) fun f hf => hfs f (by simp [hf])

/-- The columns of all folders. -/
theorem placeFolders_eq {components : List Component} (h : d.IsRoomy settings count reach depth)
    (hdepth : depth ≤ Pixels.greatest) (hcount : (folders components).length ≤ count)
    (hreach : settings.folderColumnLeft + settings.columnSpacing * count ≤ reach)
    (hend : reach ≤ 2 ^ 60) :
    A.placeFolders settings d components = some (d.placeFolders components settings) := by
  refine foldlM_fillColumn_eq hA hvalid h hdepth hreach hend _ fun f hf => ?_
  have hlt := List.snd_lt_of_mem_zipIdx hf
  omega

end

/-! ## Closing up -/

/-- Entries follow each other from the one of number `k` on, with room for one more. -/
theorem follow_eq {base : Int} (hbase : -maxCoordinate ≤ base) {es : List RowEntry} {k : Nat}
    (hend : base + settings.spacing * ((k + es.length : Nat) : Int) ≤ 2 ^ 60) :
    A.follow settings (base + k * settings.spacing) es =
      some ((es.zipIdx k).map fun e => (e.1.slot, base + e.2 * settings.spacing)) := by
  have hspacing : 1 ≤ settings.spacing := hvalid.spacing.1
  unfold maxCoordinate at hbase
  induction es generalizing k with
  | nil => rfl
  | cons e es ih =>
    -- one step further is the next position
    have hnext : base + k * settings.spacing + settings.spacing =
        base + ((k + 1 : Nat) : Int) * settings.spacing := by
      rw [Int.natCast_succ, Int.add_mul, Int.one_mul, Int.add_assoc]
    have hlow : 0 ≤ ((k + 1 : Nat) : Int) * settings.spacing :=
      Int.mul_nonneg (Int.natCast_nonneg _) (by omega)
    have hhigh : settings.spacing * ((k + 1 : Nat) : Int) ≤
        settings.spacing * ((k + (e :: es).length : Nat) : Int) :=
      Int.mul_le_mul_of_nonneg_left (by simp only [List.length_cons]; omega) (by omega)
    rw [Int.mul_comm settings.spacing ((k + 1 : Nat) : Int)] at hhigh
    have hfits : Pixels.Fits (base + k * settings.spacing + settings.spacing) := by
      rw [hnext]
      exact fits_of_le (by omega) (by omega)
    have hlater : base + settings.spacing * ((k + 1 + es.length : Nat) : Int) ≤ 2 ^ 60 := by
      rw [List.length_cons] at hend
      rwa [Nat.add_right_comm, Nat.add_assoc]
    rw [follow, bind_of_eq_some (hA.add hfits), hnext, bind_of_eq_some (ih hlater)]
    rfl

omit hvalid in
/-- The place behind an anchor is worked out without leaving the range. -/
theorem behind_eq {place cursor : Int} {hasAnchor : Bool} (hplace : IsCoordinate place)
    (hspacing : Size.IsSide settings.spacing) : A.behind settings hasAnchor place cursor =
      some (if hasAnchor then place + settings.spacing else cursor) := by
  obtain ⟨hlow, hhigh⟩ := hplace
  obtain ⟨hone, hmax⟩ := hspacing
  unfold maxCoordinate Size.maxSide at *
  unfold behind
  split
  · exact hA.add (fits_of_le (by omega) (by omega))
  · rfl

/-- The goals of a row are worked out without leaving the range. -/
theorem targets_eq {row : List RowEntry}
    (hend : maxCoordinate + settings.spacing * ((row.length : Int) + 1) ≤ 2 ^ 60) :
    A.targets settings row = some (Draft.targets settings row) := by
  have hspacing : 1 ≤ settings.spacing := hvalid.spacing.1
  have hanchors := max_anchorPlaces_le hvalid
  generalize hplayground : (row.find? (·.kind == .playground)).isSome = hasPlayground
  generalize happs : (row.find? (·.kind == .app)).isSome = hasApp
  have hbase : (if hasApp then appPlace settings hasPlayground + settings.spacing else
      if hasPlayground then settings.playgroundLeft + settings.spacing else
        settings.playgroundLeft) = rowBase settings hasPlayground hasApp := rfl
  obtain ⟨hlowApp, hhighApp⟩ := appPlace_bounds hvalid hasPlayground
  obtain ⟨hlow, hhigh⟩ := rowBase_bounds hvalid hasPlayground hasApp
  let plain := row.filter (·.kind == .plain)
  -- no more plain entries than entries, so the last goal is in range
  have hfewer : settings.spacing * (plain.length : Int) ≤ settings.spacing * row.length :=
    Int.mul_le_mul_of_nonneg_left (Int.ofNat_le.2 (List.length_filter_le _ _)) (by omega)
  have hplain : rowBase settings hasPlayground hasApp +
      settings.spacing * ((0 + plain.length : Nat) : Int) ≤ 2 ^ 60 := by
    rw [Int.mul_add, Int.mul_one] at hend
    rw [Nat.zero_add]
    omega
  have hfollow := follow_eq hA hvalid hlow hplain
  rw [Int.natCast_zero, Int.zero_mul, Int.add_zero] at hfollow
  simp only [targets, Draft.targets, hplayground, happs]
  rw [bind_of_eq_some (behind_eq hA hvalid.playgroundLeft hvalid.spacing),
    bind_of_eq_some (behind_eq hA ⟨hlowApp, hhighApp.trans hanchors⟩ hvalid.spacing), hbase,
    bind_of_eq_some hfollow]
  rfl

end

end Arithmetic

/-! ## Layouts -/

open Arithmetic Draft Plan Storyboard

section

variable {components : List Component} {prior : Storyboard} {options : ReconcileOptions}
  {settings : LayoutSettings}

/-- Where there are less than 2³⁰ components and scenes of before, every arithmetic that is exact
within the 64 bits places the scenes as they are placed with whole numbers. -/
theorem placeWith_reconcile {A : Arithmetic} (hA : A.IsExact) (hvalid : settings.IsValid)
    (hsizes : ∀ c ∈ components, ∀ z ∈ c.size, z.InRange)
    (hprior : ∀ s ∈ prior.scenes, s.box.InRange) (hcount : components.length < 2 ^ 30)
    (hscenes : prior.scenes.length < 2 ^ 30) :
    Layout.placeWith A (reconcile components prior options) components settings =
      some (Layout.place (reconcile components prior options) components settings) := by
  let plan := reconcile components prior options
  have hdepth : max maxCoordinate (plan.depth components settings) ≤ Pixels.greatest :=
    depth_le_greatest hvalid hsizes hprior hcount
  have hreach : max maxCoordinate (plan.reach components settings) ≤ 2 ^ 50 :=
    reach_le hvalid hprior hcount hscenes
  have hpending : (ofPlan plan components).pending.length ≤ components.length := length_pending_le
  have hretained : plan.retained.length ≤ prior.scenes.length := retained_sublist.length_le
  -- nothing stands beyond the canvas before pages are placed
  have hbefore : ∀ p ∈ (ofPlan plan components).scenes, inTopRow components settings p →
      p.scene.box.left ≤ maxCoordinate :=
    fun p hp _ => (inRange_of_mem_ofPlan hprior hp).2.1.2
  have hroomy : (ofPlan plan components).IsRoomy settings (folders components).length
      (max maxCoordinate (plan.reach components settings))
      (max maxCoordinate (plan.depth components settings)) := isRoomy_ofPlan hvalid hsizes hprior
  obtain ⟨hanchors, hfewer, hrow⟩ := hroomy.placeAnchors hvalid (Int.le_max_left ..)
    (Int.le_max_left ..) hbefore hvalid.playgroundLeft.2 hvalid.appLeft.2
  -- for as many entries as there can be the row stays small
  have hsteps (n : Nat) (hn : n < 2 ^ 31) :
      maxCoordinate + settings.spacing * ((n : Int) + 1) ≤ 2 ^ 60 := by
    have hstep : settings.spacing * ((n : Int) + 1) ≤ 100000 * 2 ^ 31 :=
      Int.mul_le_mul hvalid.spacing.2 (by omega) (by omega) (by decide)
    unfold maxCoordinate
    omega
  have hpages := placePages_eq hA hvalid hanchors.sizes
    (fun n hn => hanchors.bounds_of_mem_rowPlaces hrow hn) (by decide) (hsteps _ (by omega))
  -- behind it the bounds are those of the room that each stage leaves
  have hrowRoomy : ((ofPlan plan components).placeRow components settings).IsRoomy settings
      (folders components).length (max maxCoordinate (plan.reach components settings))
      (max maxCoordinate (plan.depth components settings)) := isRoomy_placeRow hvalid hsizes hprior
  have hcomponents := fillColumn_eq hA hvalid hrowRoomy hdepth rfl (.inl rfl) (·.name)
    (·.category == .component)
  have hcolumnRoomy := hrowRoomy.fillColumn hvalid (·.name) (·.category == .component) (.inl rfl)
    hvalid.componentColumnLeft.1 (hvalid.componentColumnLeft.2.trans (Int.le_max_left ..))
  have hfolders := placeFolders_eq hA hvalid hcolumnRoomy hdepth (Nat.le_refl _)
    ((Int.le_max_right ..).trans (Int.le_max_right ..)) (hreach.trans (by decide))
  let row := (placed components prior options settings).row components settings
  have hlength : row.length ≤ components.length + plan.retained.length :=
    length_row_le.trans length_scenes_placed_le
  have htargets : A.targets settings row = some (Draft.targets settings row) :=
    targets_eq hA hvalid (hsteps _ (by omega))
  -- the anchors have places of their own, then one stage after the other
  rw [Layout.placeWith, bind_of_eq_some hpages]
  refine (bind_of_eq_some hcomponents _).trans ((bind_of_eq_some hfolders _).trans ?_)
  exact (bind_of_eq_some htargets _).trans rfl

end

/-- With settings that were checked and sizes in range, less than 2³⁰ components and scenes of before
are placed without leaving the 64 bits, without dividing by zero and without clamping: the program
places them as it would with whole numbers, and that is their layout. -/
theorem placeWith_generate (components : List Component) (previous : Option String)
    (options : ReconcileOptions) (settings : LayoutSettings) (importPrefix : String)
    (hsizes : ∀ c ∈ components, ∀ z ∈ c.size, z.InRange) (hsettings : settings.problem? = none)
    (hcount : components.length < 2 ^ 30)
    (hscenes : (ofPrevious previous).scenes.length < 2 ^ 30) :
    let g := generate components previous options settings importPrefix
    Layout.placeWith .strict g.plan components settings = some g.layout ∧
      Layout.placeWith .machine g.plan components settings = some g.layout ∧
      Layout.placeWith .unbounded g.plan components settings = some g.layout := by
  intro g
  have hplace {A : Arithmetic} (hA : A.IsExact) :
      Layout.placeWith A g.plan components settings = some g.layout :=
    placeWith_reconcile hA (LayoutSettings.isValid_of_problem? hsettings) hsizes
      (fun s hs => inRange_box_of_mem hs) hcount hscenes
  exact ⟨hplace isExact_strict, hplace isExact_machine, hplace isExact_unbounded⟩

/-- A page between two notes of the top row, and a card. -/
theorem placeWith_generate_page_and_card :
    let text := "<Scene id='a' commentId='a' style=\x7b\x7bwidth:9,height:9,left:212,top:128\x7d\x7d" ++
      " data-label='A'></Scene><Scene id='b' commentId='b' style=\x7b\x7bwidth:9,height:9," ++
      "left:1844,top:128\x7d\x7d data-label='B'></Scene>"
    let components : List Component :=
      [⟨"Home", "pages/Home.tsx", .page, true, false, none⟩,
        ⟨"Card", "components/Card.tsx", .component, true, false, some ⟨320, 200⟩⟩]
    let g := generate components (some text) {} {} "../src"
    (∀ c ∈ components, ∀ z ∈ c.size, z.InRange) ∧ ({} : LayoutSettings).problem? = none ∧
      components.length < 2 ^ 30 ∧ (ofPrevious (some text)).scenes.length < 2 ^ 30 ∧
      Layout.placeWith .strict g.plan components {} = some g.layout := by
  intro text components g
  have hread : (ofPrevious (some text)).scenes.length = 2 := by decide +kernel
  have hsizes : ∀ c ∈ components, ∀ z ∈ c.size, z.InRange := by decide
  have hscenes : (ofPrevious (some text)).scenes.length < 2 ^ 30 := by
    rw [hread]
    decide
  exact ⟨hsizes, by decide, by decide, hscenes,
    (placeWith_generate components (some text) {} {} "../src" hsizes (by decide) (by decide)
      hscenes).1⟩

/-- A component of which the size was not checked can lead out of the 64 bits. -/
example :
    let components : List Component :=
      [⟨"Tall", "components/Tall.tsx", .component, true, false, some ⟨10, Pixels.greatest⟩⟩]
    Layout.placeWith .strict ⟨[], [], ["Tall"], [], [], [], []⟩ components {} = none := by
  decide +kernel

end SceneBoard
