import SceneBoard.Proofs.Placement

/-!
# How far the stages of a layout reach

The stages of a layout place new scenes beside and below those that are there, so how far out they
get depends on what is there and on how many scenes are new. `Draft.IsRoomy` is the invariant: all
boxes stand within bounds, and below the scenes of the columns there is room for whatever is still
pending. Every stage takes from the pending components the room that it uses up, so the invariant
holds from the plan to the last column (`IsRoomy.placeRow`, `IsRoomy.placeColumns`).

## Key results

- `LayoutSettings.isValid_of_problem?`: what the check of settings promises
- `Draft.IsBounded.stack`, `Draft.IsBounded.fillRow`: a column and a row, scene by scene
- `Draft.IsRoomy.placeRow`, `Draft.IsRoomy.placeColumns`: all stages
-/

namespace SceneBoard

/-! ## Sums -/

namespace Pixels

variable {a b k : Int}

/-- A sum kept in range is no larger than the sum, unless this lies below the range. -/
theorem add_le (h : a + b ≤ k) (hk : least ≤ k) : add a b ≤ k := by
  unfold add clamp
  split
  · exact hk
  · split <;> omega

/-- A sum kept in range is no smaller than the sum, unless this lies above the range. -/
theorem le_add (h : k ≤ a + b) (hk : k ≤ greatest) : k ≤ add a b := by
  unfold add clamp
  split
  · omega
  · split
    · exact hk
    · exact h

/-- What lies above the lowest coordinate is far from the least number. -/
theorem least_le (h : -maxCoordinate ≤ k) : least ≤ k := by
  unfold maxCoordinate at h
  unfold least
  omega

end Pixels

/-- The lower edge, where the sum does not leave the range downwards. -/
theorem Box.bottom_le {b : Box} (htop : -maxCoordinate ≤ b.top) (hheight : 1 ≤ b.size.height) :
    b.bottom ≤ b.top + b.size.height :=
  Pixels.add_le (Int.le_refl _) (Pixels.least_le (by omega))

/-- The greatest of several numbers is at most `k` if each of them is. -/
theorem foldl_max_le_iff {ns : List Int} {a k : Int} :
    ns.foldl max a ≤ k ↔ a ≤ k ∧ ∀ n ∈ ns, n ≤ k := by
  induction ns generalizing a with
  | nil => simp
  | cons n ns ih =>
    rw [List.foldl_cons, ih, Int.max_le, List.forall_mem_cons, and_assoc]

/-! ## Settings -/

namespace LayoutSettings

/-- Settings that the layout can work with. -/
structure IsValid (s : LayoutSettings) : Prop where
  spacing : Size.IsSide s.spacing
  columnSpacing : Size.IsSide s.columnSpacing
  verticalSpacing : IsMargin s.verticalSpacing
  gapMargin : IsMargin s.gapMargin
  defaultScene : s.defaultScene.InRange
  playgroundSize : s.playgroundSize.InRange
  appSize : s.appSize.InRange
  topRow : IsCoordinate s.topRow
  componentColumnLeft : IsCoordinate s.componentColumnLeft
  componentColumnTop : IsCoordinate s.componentColumnTop
  folderColumnLeft : IsCoordinate s.folderColumnLeft
  playgroundLeft : IsCoordinate s.playgroundLeft
  appLeft : IsCoordinate s.appLeft

private theorem problems_eq_nil_iff {α : Type} {ok : α → Bool} {problem : String → α → LayoutProblem}
    {measures : List (String × α)} : problems ok problem measures = [] ↔ ∀ m ∈ measures, ok m.2 := by
  simp [problems]

/-- Settings without a problem are valid. -/
theorem isValid_of_problem? {s : LayoutSettings} (h : s.problem? = none) : s.IsValid := by
  rw [problem?, List.head?_eq_none_iff, allProblems] at h
  simp only [List.append_eq_nil_iff, problems_eq_nil_iff, List.forall_mem_cons, List.not_mem_nil,
    false_imp_iff, implies_true, and_true, decide_eq_true_eq] at h
  obtain ⟨⟨⟨⟨hspacing, hcolumnSpacing⟩, hvertical, hmargin⟩, hscene, hplayground, happ⟩, htop, hleft,
    hcolumnTop, hfolder, hplaygroundLeft, happLeft⟩ := h
  exact ⟨hspacing, hcolumnSpacing, hvertical, hmargin, hscene, hplayground, happ, htop, hleft,
    hcolumnTop, hfolder, hplaygroundLeft, happLeft⟩

end LayoutSettings

/-! ## Boxes -/

/-- A box of a size in range that stands on the canvas, or beyond it to the right or below, but not
farther than two bounds. -/
structure Box.IsWithin (reach depth : Int) (b : Box) : Prop where
  size : b.size.InRange
  left : -maxCoordinate ≤ b.left
  reach : b.left ≤ reach
  top : -maxCoordinate ≤ b.top
  depth : b.top ≤ depth

/-- A box in range is within every stage that reaches as far as the coordinates. -/
theorem Box.InRange.isWithin {b : Box} {reach depth : Int} (h : b.InRange)
    (hreach : maxCoordinate ≤ reach) (hdepth : maxCoordinate ≤ depth) : b.IsWithin reach depth :=
  ⟨h.1, h.2.1.1, h.2.1.2.trans hreach, h.2.2.1, h.2.2.2.trans hdepth⟩

/-- Within the coordinates a box is in range. -/
theorem Box.IsWithin.inRange {b : Box} (h : b.IsWithin maxCoordinate maxCoordinate) : b.InRange :=
  ⟨h.size, ⟨h.left, h.reach⟩, h.top, h.depth⟩

/-- A left edge at which a column stands: that of the components, or of one of the folders. -/
def LayoutSettings.IsColumn (settings : LayoutSettings) (count : Nat) (left : Int) : Prop :=
  left = settings.componentColumnLeft ∨ ∃ i < count, left = Draft.folderLeft settings i

instance (settings : LayoutSettings) (count : Nat) (left : Int) :
    Decidable (settings.IsColumn count left) :=
  inferInstanceAs (Decidable (_ ∨ _))

/-- The box stands in a column. -/
def Box.InColumn (settings : LayoutSettings) (count : Nat) (b : Box) : Prop :=
  settings.IsColumn count b.left ∧ settings.componentColumnTop ≤ b.top

instance (settings : LayoutSettings) (count : Nat) (b : Box) :
    Decidable (b.InColumn settings count) :=
  inferInstanceAs (Decidable (_ ∧ _))

/-- The first top that is free below a box. -/
def Box.below (settings : LayoutSettings) (b : Box) : Int :=
  b.top + b.size.height + settings.verticalSpacing

/-- Neither sum below a box leaves the 64 bits if the last one does not upwards. -/
theorem Box.fits_below {settings : LayoutSettings} {b : Box} (hspace : 0 ≤ settings.verticalSpacing)
    (hheight : 1 ≤ b.size.height) (hlow : -maxCoordinate ≤ b.top)
    (hhigh : b.below settings ≤ Pixels.greatest) :
    Pixels.Fits (b.top + b.size.height) ∧
      Pixels.Fits (b.top + b.size.height + settings.verticalSpacing) := by
  unfold Box.below at hhigh
  exact ⟨⟨Pixels.least_le (by omega), by omega⟩, ⟨Pixels.least_le (by omega), hhigh⟩⟩

/-- Where a column goes on below a box, if that fits in 64 bits. -/
theorem Box.next_eq {settings : LayoutSettings} {b : Box} (hspace : 0 ≤ settings.verticalSpacing)
    (hheight : 1 ≤ b.size.height) (hlow : -maxCoordinate ≤ b.top)
    (hhigh : b.below settings ≤ Pixels.greatest) :
    Pixels.add b.bottom settings.verticalSpacing = b.below settings := by
  obtain ⟨hbottom, hnext⟩ := Box.fits_below hspace hheight hlow hhigh
  rw [Box.bottom, Pixels.add_eq hbottom, Pixels.add_eq hnext]
  rfl

/-- Where the columns begin, or below the anchors if these reach farther down. -/
def LayoutSettings.columnStart (settings : LayoutSettings) : Int :=
  max settings.componentColumnTop (settings.topRow +
    max settings.playgroundSize.height settings.appSize.height + settings.verticalSpacing)

/-- What a new scene of a component takes from a column. -/
def Component.step (c : Component) (settings : LayoutSettings) : Int :=
  (c.sceneSize settings).height + settings.verticalSpacing

/-- What new scenes of components take from a column. -/
def stepsOf (settings : LayoutSettings) : List Component → Int
  | [] => 0
  | c :: cs => c.step settings + stepsOf settings cs

section

variable {settings : LayoutSettings} {c : Component} {cs : List Component}

@[simp] theorem stepsOf_nil : stepsOf settings [] = 0 := rfl

@[simp] theorem stepsOf_cons : stepsOf settings (c :: cs) = c.step settings + stepsOf settings cs :=
  rfl

/-- A step does not go up. -/
theorem Component.step_nonneg (hvalid : settings.IsValid) (hc : (c.sceneSize settings).InRange) :
    0 ≤ c.step settings := by
  have hheight : 1 ≤ (c.sceneSize settings).height := hc.2.1
  have hspace : 0 ≤ settings.verticalSpacing := hvalid.verticalSpacing.1
  unfold Component.step
  omega

/-- Steps do not go up. -/
theorem stepsOf_nonneg (hvalid : settings.IsValid)
    (hcs : ∀ c ∈ cs, (c.sceneSize settings).InRange) : 0 ≤ stepsOf settings cs := by
  induction cs with
  | nil => exact Int.le_refl 0
  | cons c cs ih =>
    have hc := c.step_nonneg hvalid (hcs c (by simp))
    have hrest := ih fun c hc => hcs c (by simp [hc])
    rw [stepsOf_cons]
    omega

/-- The steps of several components, if none is larger than `k`. -/
theorem stepsOf_le (cs : List Component) {k : Int} (hcs : ∀ c ∈ cs, c.step settings ≤ k) :
    stepsOf settings cs ≤ k * cs.length := by
  induction cs with
  | nil => simp
  | cons c cs ih =>
    have hc := hcs c (by simp)
    have hrest := ih fun c hc => hcs c (by simp [hc])
    rw [stepsOf_cons, List.length_cons, Int.natCast_succ, Int.mul_add, Int.mul_one]
    omega

/-- Components are taken from a list or left in it. -/
theorem stepsOf_filter (wanted : Component → Bool) :
    stepsOf settings (cs.filter wanted) + stepsOf settings (cs.filter fun c => !wanted c) =
      stepsOf settings cs := by
  induction cs with
  | nil => rfl
  | cons c cs ih =>
    by_cases h : wanted c <;> simp [h] <;> omega

/-- The columns start below the upper edge of the top row. -/
theorem LayoutSettings.IsValid.topRow_le_columnStart (hvalid : settings.IsValid) :
    settings.topRow ≤ settings.columnStart := by
  have hheight : 1 ≤ settings.playgroundSize.height := hvalid.playgroundSize.2.1
  have hspace : 0 ≤ settings.verticalSpacing := hvalid.verticalSpacing.1
  unfold LayoutSettings.columnStart
  omega

end

/-! ## Drafts -/

namespace Draft

/-- A draft whose boxes stand within bounds, and that leaves everything free below `floor` in the
columns. -/
structure IsBounded (settings : LayoutSettings) (count : Nat) (reach depth floor : Int)
    (d : Draft) : Prop where
  within : ∀ p ∈ d.scenes, p.scene.box.IsWithin reach depth
  columns : ∀ p ∈ d.scenes, p.scene.box.InColumn settings count →
    p.scene.box.below settings ≤ floor

theorem columnTop_le (d : Draft) (settings : LayoutSettings) (left : Int) :
    settings.componentColumnTop ≤ d.columnTop settings left :=
  (foldl_max_le_iff.1 (Int.le_refl _)).1

section

variable {settings : LayoutSettings} {count : Nat} {reach depth floor : Int} {d : Draft}

/-- One new scene. -/
theorem IsBounded.assign (h : d.IsBounded settings count reach depth floor) (c : Component)
    {box : Box} (label : String) {floor' : Int} (hbox : box.IsWithin reach depth)
    (hbelow : box.below settings ≤ floor') (hfloor : floor ≤ floor') :
    (d.assign c box label).IsBounded settings count reach depth floor' := by
  refine ⟨fun p hp => ?_, fun p hp hcolumn => ?_⟩
  · -- it stood there before, or it is the new one
    rcases mem_scenes_assign d c box label hp with hp | rfl
    · exact h.within p hp
    · exact hbox
  · rcases mem_scenes_assign d c box label hp with hp | rfl
    · exact (h.columns p hp hcolumn).trans hfloor
    · exact hbelow

/-- Anchors, which have one place. -/
theorem IsBounded.placeAt (h : d.IsBounded settings count reach depth floor)
    (wanted : Component → Bool) {box : Box} (label : String) (hbox : box.IsWithin reach depth)
    (hbelow : box.below settings ≤ floor) :
    (d.placeAt wanted box label).IsBounded settings count reach depth floor :=
  placeAt_induction ⟨h.within, h.columns⟩ fun _ c h =>
    h.assign c label hbox hbelow (Int.le_refl floor)

variable (hvalid : settings.IsValid)

include hvalid

/-- Pages, each in a gap or at the end of the row, which is one spacing farther for each of them. -/
theorem IsBounded.fillRow {pages : List Component} {gaps : List Gap} {next : Int}
    (h : d.IsBounded settings count reach depth floor)
    (hpages : ∀ c ∈ pages, (c.sceneSize settings).InRange)
    (hgaps : ∀ g ∈ gaps, -maxCoordinate ≤ g.left ∧ g.left ≤ reach) (hnext : -maxCoordinate ≤ next)
    (hend : next + settings.spacing * pages.length ≤ reach + settings.spacing)
    (hdepth : maxCoordinate ≤ depth) (hfloor : settings.topRow ≤ floor) :
    (d.fillRow settings gaps next pages).IsBounded settings count reach depth
      (floor + stepsOf settings pages) := by
  have hspacing : 1 ≤ settings.spacing := hvalid.spacing.1
  -- by induction on the pages: each one leaves the bounds for the next a step further down
  induction pages generalizing d gaps next floor with
  | nil => simpa [Draft.fillRow] using h
  | cons page pages ih =>
    have hsize := hpages page (by simp)
    have hstep := page.step_nonneg hvalid hsize
    -- a page anywhere in the reach keeps the draft within its bounds
    have hplace {left : Int} (hleft : -maxCoordinate ≤ left) (hright : left ≤ reach) :
        (d.assign page ⟨page.sceneSize settings, left, settings.topRow⟩ page.name).IsBounded settings
          count reach depth (floor + page.step settings) := by
      refine h.assign page _ ⟨hsize, hleft, hright, hvalid.topRow.1, hvalid.topRow.2.trans hdepth⟩
        ?_ (by omega)
      simp only [Box.below, Component.step]
      omega
    have hlater := fun c (hc : c ∈ pages) => hpages c (by simp [hc])
    rw [List.length_cons, Int.natCast_succ, Int.mul_add, Int.mul_one] at hend
    have hrest : 0 ≤ settings.spacing * (pages.length : Int) :=
      Int.mul_nonneg (by omega) (Int.natCast_nonneg _)
    rw [stepsOf_cons, ← Int.add_assoc, Draft.fillRow]
    -- the page fills a gap, or the row grows by one step
    split
    · rename_i gap hgap
      obtain ⟨hleft, hright⟩ := hgaps gap (List.mem_of_find?_eq_some hgap)
      exact ih (hplace hleft hright) hlater (fun g hg => hgaps g (List.mem_of_mem_eraseP hg)) hnext
        (by omega) (by omega)
    · have hsum : Pixels.add next settings.spacing ≤ next + settings.spacing :=
        -- the sum behind the next place may be cut at the range, but only to a smaller one
        Pixels.add_le (Int.le_refl _) (Pixels.least_le (by omega))
      have hlow : -maxCoordinate ≤ Pixels.add next settings.spacing :=
        Pixels.le_add (by omega) (by decide)
      exact ih (hplace hnext (by omega)) hlater hgaps hlow (by omega) (by omega)

/-- A column, each scene below the one before. -/
theorem IsBounded.stack {left top : Int} {label : Component → String} {cs : List Component}
    (h : d.IsBounded settings count reach depth floor)
    (hcs : ∀ c ∈ cs, (c.sceneSize settings).InRange) (hleft : -maxCoordinate ≤ left)
    (hright : left ≤ reach) (htop : -maxCoordinate ≤ top) (hfloor : top ≤ floor)
    (hroom : floor + stepsOf settings cs ≤ depth) :
    (d.stack settings left label top cs).IsBounded settings count reach depth
      (floor + stepsOf settings cs) := by
  -- by induction on the components: the next top is below the one just placed
  induction cs generalizing d top floor with
  | nil => simpa [Draft.stack] using h
  | cons c cs ih =>
    have hsize := hcs c (by simp)
    have hstep := c.step_nonneg hvalid hsize
    have hlater := fun c (hc : c ∈ cs) => hcs c (by simp [hc])
    have hrest := stepsOf_nonneg hvalid hlater
    have hheight : 1 ≤ (c.sceneSize settings).height := hsize.2.1
    have hspace : 0 ≤ settings.verticalSpacing := hvalid.verticalSpacing.1
    rw [stepsOf_cons, ← Int.add_assoc] at hroom ⊢
    rw [Draft.stack]
    have hnext : (d.assign c ⟨c.sceneSize settings, left, top⟩ (label c)).IsBounded settings count
        reach depth (floor + c.step settings) := by
      refine h.assign c _ ⟨hsize, hleft, hright, htop, hfloor.trans (by omega)⟩ ?_ (by omega)
      simp only [Box.below, Component.step]
      omega
    -- the two sums behind the next top do not leave the 64 bits downwards
    have hbottom : Box.bottom ⟨c.sceneSize settings, left, top⟩ ≤
        top + (c.sceneSize settings).height := Box.bottom_le htop hheight
    have hbottom' : -maxCoordinate ≤ Box.bottom ⟨c.sceneSize settings, left, top⟩ :=
      Pixels.le_add (by simp only; omega) (by decide)
    refine ih hnext hlater (Pixels.le_add (by omega) (by decide)) ?_ hroom
    refine Pixels.add_le ?_ (Pixels.least_le (by omega))
    simp only [Component.step]
    omega

/-- A column begins below the scenes that stand in it, at the top of the columns or farther down. -/
theorem IsBounded.columnTop {left : Int} (h : d.IsBounded settings count reach depth floor)
    (hcolumn : settings.IsColumn count left) (hfloor : settings.columnStart ≤ floor) :
    -maxCoordinate ≤ d.columnTop settings left ∧ d.columnTop settings left ≤ floor := by
  have hstart : settings.componentColumnTop ≤ settings.columnStart := Int.le_max_left ..
  -- every scene that counts for the top ends above the floor
  have hle : d.columnTop settings left ≤ floor := by
    refine foldl_max_le_iff.2 ⟨hstart.trans hfloor, fun n hn => ?_⟩
    obtain ⟨p, hp, hn⟩ := List.mem_filterMap.1 hn
    dsimp only at hn
    split at hn
    · rename_i hplace
      obtain rfl := Option.some.inj hn
      have hin : p.scene.box.InColumn settings count := ⟨hplace.1 ▸ hcolumn, hplace.2⟩
      have hbelow := h.columns p hp hin
      have hbottom := Box.bottom_le (h.within p hp).top (h.within p hp).size.2.1
      have hlow : -maxCoordinate ≤ settings.componentColumnTop := hvalid.componentColumnTop.1
      refine Pixels.add_le ?_ (Pixels.least_le (by omega))
      unfold Box.below at hbelow
      omega
    · simp at hn
  exact ⟨hvalid.componentColumnTop.1.trans (columnTop_le d settings left), hle⟩

end

/-- Anchors have the box of their place. -/
private theorem mem_scenes_placeAt {d : Draft} {wanted : Component → Bool} {box : Box} {label : String}
    {p : PlacedScene} (h : p ∈ (d.placeAt wanted box label).scenes) :
    p ∈ d.scenes ∨ p.scene.box = box := by
  refine placeAt_induction (d := d) (motive := fun d' => p ∈ d'.scenes →
    p ∈ d.scenes ∨ p.scene.box = box) (fun h => .inl h) (fun d' c ih h => ?_) h
  rcases mem_scenes_assign d' c box label h with h | rfl
  · exact ih h
  · exact .inr rfl

/-! ## What is still pending -/

section

variable (d : Draft) (settings : LayoutSettings)

/-- Placing at a fixed box takes the components it wants, and adds none. -/
private theorem pending_placeAt (wanted : Component → Bool) (box : Box) (label : String) :
    (d.placeAt wanted box label).pending = (d.take wanted).2.pending :=
  placeAt_induction (motive := fun d' => d'.pending = (d.take wanted).2.pending) rfl
    fun _ _ h => h

/-- Filling the row leaves the components that wait. -/
private theorem pending_fillRow (gaps : List Gap) (next : Int) (pages : List Component) :
    (d.fillRow settings gaps next pages).pending = d.pending := by
  induction pages generalizing d gaps next with
  | nil => rfl
  | cons page pages ih =>
    rw [fillRow]
    split <;> exact ih _ _ _

/-- Stacking leaves the components that wait. -/
theorem pending_stack (left : Int) (label : Component → String) (top : Int)
    (cs : List Component) : (d.stack settings left label top cs).pending = d.pending := by
  induction cs generalizing d top with
  | nil => rfl
  | cons c cs ih => exact ih _ _

end

/-! ## Room for what is pending -/

/-- A draft whose boxes stand within bounds, with room below its columns for everything pending. -/
structure IsRoomy (settings : LayoutSettings) (count : Nat) (reach depth : Int) (d : Draft) :
    Prop where
  bounded : d.IsBounded settings count reach depth (depth - stepsOf settings d.pending)
  start : settings.columnStart ≤ depth - stepsOf settings d.pending
  sizes : ∀ c ∈ d.pending, (c.sceneSize settings).InRange

section

variable {settings : LayoutSettings} {count : Nat} {reach depth : Int} {d d' : Draft}
  (h : d.IsRoomy settings count reach depth) (hvalid : settings.IsValid)

include h hvalid

/-- A stage may use up the room of the components that it takes. -/
theorem IsRoomy.of_stage {wanted : Component → Bool}
    (hpending : d'.pending = (d.take wanted).2.pending)
    (hbounded : d'.IsBounded settings count reach depth
      (depth - stepsOf settings d.pending + stepsOf settings (d.take wanted).1)) :
    d'.IsRoomy settings count reach depth := by
  -- the steps taken and the steps left are the steps there were
  have hsteps : stepsOf settings (d.take wanted).1 + stepsOf settings d'.pending =
      stepsOf settings d.pending := by
    rw [hpending]
    exact stepsOf_filter wanted
  have htaken : 0 ≤ stepsOf settings (d.take wanted).1 :=
    stepsOf_nonneg hvalid fun c hc => h.sizes c (List.mem_filter.1 hc).1
  have hroom : depth - stepsOf settings d.pending + stepsOf settings (d.take wanted).1 =
      depth - stepsOf settings d'.pending := by omega
  have hstart := h.start
  refine ⟨hroom ▸ hbounded, by omega, fun c hc => ?_⟩
  rw [hpending] at hc
  exact h.sizes c (List.mem_filter.1 hc).1

/-- A box of the top row leaves room for the columns. -/
theorem IsRoomy.placeAt (wanted : Component → Bool) {box : Box} (label : String)
    (hbox : box.IsWithin reach depth) (hbelow : box.below settings ≤ settings.columnStart) :
    (d.placeAt wanted box label).IsRoomy settings count reach depth := by
  have htaken : 0 ≤ stepsOf settings (d.take wanted).1 :=
    stepsOf_nonneg hvalid fun c hc => h.sizes c (List.mem_filter.1 hc).1
  have hbounded := h.bounded.placeAt wanted label hbox (hbelow.trans h.start)
  refine h.of_stage hvalid (pending_placeAt ..) ⟨hbounded.within, fun p hp hcolumn => ?_⟩
  exact (hbounded.columns p hp hcolumn).trans (by omega)

/-- A column of new scenes. -/
theorem IsRoomy.fillColumn {left : Int} (label : Component → String) (wanted : Component → Bool)
    (hcolumn : settings.IsColumn count left) (hleft : -maxCoordinate ≤ left)
    (hright : left ≤ reach) :
    (d.fillColumn settings left label wanted).IsRoomy settings count reach depth := by
  have hrest : (d.take wanted).2.IsBounded settings count reach depth
      (depth - stepsOf settings d.pending) := ⟨h.bounded.within, h.bounded.columns⟩
  -- the top of the column is between the range and what is taken so far
  obtain ⟨hlow, htop⟩ := hrest.columnTop hvalid hcolumn h.start
  have hleftOver : 0 ≤ stepsOf settings (d.take wanted).2.pending :=
    stepsOf_nonneg hvalid fun c hc => h.sizes c (List.mem_filter.1 hc).1
  have hsteps : stepsOf settings (d.take wanted).1 + stepsOf settings (d.take wanted).2.pending =
      stepsOf settings d.pending := stepsOf_filter wanted
  refine h.of_stage hvalid (pending_stack ..) ?_
  exact hrest.stack hvalid (fun c hc => h.sizes c (List.mem_filter.1 hc).1) hleft hright hlow htop
    (by omega)

omit h in
/-- A column of a folder stands between the column of the first one and the end of the last. -/
theorem folderLeft_le {i : Nat} (hi : i < count)
    (hend : settings.folderColumnLeft + settings.columnSpacing * count ≤ reach) :
    -maxCoordinate ≤ folderLeft settings i ∧ folderLeft settings i ≤ reach := by
  have hspacing : 1 ≤ settings.columnSpacing := hvalid.columnSpacing.1
  have hfirst := hvalid.folderColumnLeft.1
  have hlow : 0 ≤ (i : Int) * settings.columnSpacing :=
    Int.mul_nonneg (Int.natCast_nonneg i) (by omega)
  -- at most as many columns as there are folders stand in front
  have hhigh : (i : Int) * settings.columnSpacing ≤ settings.columnSpacing * count := by
    rw [Int.mul_comm]
    exact Int.mul_le_mul_of_nonneg_left (by omega) (by omega)
  unfold folderLeft
  omega

/-- The columns of all folders. -/
theorem IsRoomy.placeFolders {components : List Component}
    (hfolders : (folders components).length ≤ count)
    (hend : settings.folderColumnLeft + settings.columnSpacing * count ≤ reach) :
    (d.placeFolders components settings).IsRoomy settings count reach depth := by
  refine placeFolders_induction h fun d i f hf h => ?_
  obtain ⟨hlt, -⟩ := List.getElem?_eq_some_iff.1 hf
  obtain ⟨hleft, hright⟩ := folderLeft_le hvalid (hlt.trans_le hfolders) hend
  exact h.fillColumn hvalid _ _ (.inr ⟨i, hlt.trans_le hfolders, rfl⟩) hleft hright

end

/-! ## The top row -/

/-- Inserting adds the number. -/
theorem mem_insertAscending {n m : Int} {ms : List Int} :
    n ∈ insertAscending m ms ↔ n = m ∨ n ∈ ms := by
  induction ms with
  | nil => simp [insertAscending]
  | cons k ms ih =>
    rw [insertAscending]
    split
    · simp
    · split
      · rename_i heq
        simp [heq]
      · rw [List.mem_cons, ih, List.mem_cons]
        tauto

/-- Inserting several adds each of them. -/
private theorem mem_foldl_insertAscending {n : Int} {ms sorted : List Int} :
    n ∈ ms.foldl (fun sorted n => insertAscending n sorted) sorted ↔ n ∈ sorted ∨ n ∈ ms := by
  induction ms generalizing sorted with
  | nil => simp
  | cons m ms ih =>
    rw [List.foldl_cons, ih, mem_insertAscending, List.mem_cons]
    tauto

theorem mem_ascending {ns : List Int} {n : Int} : n ∈ ascending ns ↔ n ∈ ns :=
  mem_foldl_insertAscending.trans (or_iff_right List.not_mem_nil)

/-- A row without places ends at zero. -/
theorem getLast?_getD_bounds {places : List Int} {last : Int}
    (hplaces : ∀ n ∈ places, -maxCoordinate ≤ n ∧ n ≤ last) (hlast : 0 ≤ last) :
    -maxCoordinate ≤ places.getLast?.getD 0 ∧ places.getLast?.getD 0 ≤ last := by
  cases hfound : places.getLast? with
  | none => exact ⟨by decide, hlast⟩
  | some n => exact hplaces n (List.mem_of_getLast? hfound)

/-- A gap lies between two places of the row. -/
theorem le_left_of_mem_gaps {settings : LayoutSettings} {count : Nat} {places : List Int}
    {g : Gap} {low high : Int} (hvalid : settings.IsValid) (hg : g ∈ gaps settings count places)
    (hplaces : ∀ n ∈ places, low ≤ n ∧ n ≤ high) : low ≤ g.left ∧ g.left ≤ high := by
  have hspacing : 1 ≤ settings.spacing := hvalid.spacing.1
  have hmargin : 0 ≤ settings.gapMargin := hvalid.gapMargin.1
  have hwidth : 1 ≤ settings.defaultScene.width := hvalid.defaultScene.1.1
  unfold gaps at hg
  split at hg
  · simp at hg
  · obtain ⟨⟨start, stop⟩, hplace, hg⟩ := List.mem_flatMap.1 hg
    -- a gap begins right of one place and ends left of the next one
    obtain ⟨hstart, hstop⟩ := List.of_mem_zip hplace
    have hlow := (hplaces start hstart).1
    have hhigh := (hplaces stop (List.mem_of_mem_tail hstop)).2
    unfold gapsBetween at hg
    dsimp only at hg
    split at hg
    · simp at hg
    · obtain ⟨hg, hfits⟩ := List.mem_filter.1 hg
      obtain ⟨j, -, rfl⟩ := List.mem_map.1 hg
      have hsteps : 0 ≤ settings.spacing * ((j : Int) + 1) :=
        Int.mul_nonneg (by omega) (by omega)
      simp only [Gap.fits, decide_eq_true_eq] at hfits ⊢
      omega

section

variable {settings : LayoutSettings} {count : Nat} {reach depth last : Int} {d : Draft}
  {components : List Component} (h : d.IsRoomy settings count reach depth)
  (hvalid : settings.IsValid) (hdepth : maxCoordinate ≤ depth)

include h hvalid hdepth

omit hvalid hdepth in
/-- The places of a row lie between the left edge of the canvas and the end of the row. -/
theorem IsRoomy.bounds_of_mem_rowPlaces
    (hrow : ∀ p ∈ d.scenes, inTopRow components settings p → p.scene.box.left ≤ last) {n : Int}
    (hn : n ∈ d.rowPlaces components settings) : -maxCoordinate ≤ n ∧ n ≤ last := by
  obtain ⟨p, hp, rfl⟩ := List.mem_map.1 (mem_ascending.1 hn)
  obtain ⟨hp, hin⟩ := List.mem_filter.1 hp
  exact ⟨(h.bounded.within p hp).left, hrow p hp hin⟩

/-- The pages of a row that ends at `last`. -/
theorem IsRoomy.placePages
    (hplaces : ∀ n ∈ d.rowPlaces components settings, -maxCoordinate ≤ n ∧ n ≤ last)
    (hlast : 0 ≤ last) (hend : last + settings.spacing * d.pending.length ≤ reach) :
    (d.placePages components settings).IsRoomy settings count reach depth := by
  have hspacing : 1 ≤ settings.spacing := hvalid.spacing.1
  let pages := (d.take (·.category == .page)).1
  let rest := (d.take (·.category == .page)).2
  have hpages : ∀ c ∈ pages, (c.sceneSize settings).InRange :=
    fun c hc => h.sizes c (List.mem_filter.1 hc).1
  have hrest : rest.IsBounded settings count reach depth (depth - stepsOf settings d.pending) :=
    ⟨h.bounded.within, h.bounded.columns⟩
  show (if pages.isEmpty then rest else rest.fillRow settings
    (gaps settings pages.length (d.rowPlaces components settings))
    (Pixels.add ((d.rowPlaces components settings).getLast?.getD 0) settings.spacing)
    pages).IsRoomy settings count reach depth
  -- no page to place, or a row that grows by a step for each
  split
  · refine h.of_stage hvalid rfl ⟨hrest.within, fun p hp hcolumn => ?_⟩
    exact (hrest.columns p hp hcolumn).trans (Int.le_add_of_nonneg_right
      (stepsOf_nonneg hvalid hpages))
  · have hstart := getLast?_getD_bounds hplaces hlast
    have hnext := Pixels.add_le
      (Int.le_refl ((d.rowPlaces components settings).getLast?.getD 0 + settings.spacing))
      (Pixels.least_le (by omega))
    -- no more pages are placed than components wait
    have hfewer : settings.spacing * (pages.length : Int) ≤ settings.spacing * d.pending.length :=
      Int.mul_le_mul_of_nonneg_left (Int.ofNat_le.2 (List.length_filter_le _ _)) (by omega)
    have hplace : last ≤ reach := by
      have := Int.mul_nonneg (show 0 ≤ settings.spacing by omega)
        (Int.natCast_nonneg d.pending.length)
      omega
    have hnextEnd : Pixels.add ((d.rowPlaces components settings).getLast?.getD 0)
        settings.spacing + settings.spacing * pages.length ≤ reach + settings.spacing := by omega
    refine h.of_stage hvalid (pending_fillRow ..) (hrest.fillRow hvalid hpages (fun g hg => ?_)
      (Pixels.le_add (by omega) (by decide)) hnextEnd hdepth
      (hvalid.topRow_le_columnStart.trans h.start))
    obtain ⟨hlow, hhigh⟩ := le_left_of_mem_gaps hvalid hg hplaces
    exact ⟨hlow, hhigh.trans hplace⟩

/-- The anchors, and how far the row reaches with them. -/
theorem IsRoomy.placeAnchors (hreach : maxCoordinate ≤ reach)
    (hrow : ∀ p ∈ d.scenes, inTopRow components settings p → p.scene.box.left ≤ last)
    (hplayground : settings.playgroundLeft ≤ last) (happ : settings.appLeft ≤ last) :
    (d.placeAnchors components settings).IsRoomy settings count reach depth ∧
      (d.placeAnchors components settings).pending.length ≤ d.pending.length ∧
      ∀ p ∈ (d.placeAnchors components settings).scenes, inTopRow components settings p →
        p.scene.box.left ≤ last := by
  have hbox {size : Size} {left : Int} (hsize : size.InRange) (hleft : IsCoordinate left)
      (hheight : size.height ≤ max settings.playgroundSize.height settings.appSize.height) :
      (Box.mk size left settings.topRow).IsWithin reach depth ∧
        (Box.mk size left settings.topRow).below settings ≤ settings.columnStart := by
    refine ⟨Box.InRange.isWithin ⟨hsize, hleft, hvalid.topRow⟩ hreach hdepth, ?_⟩
    simp only [Box.below, LayoutSettings.columnStart]
    omega
  -- an app behind no playground takes the place of the playground
  have happPlace (b : Bool) : IsCoordinate (appPlace settings b) ∧ appPlace settings b ≤ last := by
    cases b
    · exact ⟨hvalid.playgroundLeft, hplayground⟩
    · exact ⟨hvalid.appLeft, happ⟩
  obtain ⟨hfirst, hfirstBelow⟩ :=
    -- both anchors stand in the top row, and neither reaches below its column start
    hbox hvalid.playgroundSize hvalid.playgroundLeft (Int.le_max_left ..)
  obtain ⟨hsecond, hsecondBelow⟩ :=
    hbox hvalid.appSize (happPlace (components.any (·.name == playgroundName))).1
      (Int.le_max_right ..)
  refine ⟨(h.placeAt hvalid _ _ hfirst hfirstBelow).placeAt hvalid _ _ hsecond hsecondBelow, ?_, ?_⟩
  · rw [Draft.placeAnchors, pending_placeAt]
    refine (List.length_filter_le _ _).trans ?_
    rw [pending_placeAt]
    exact List.length_filter_le _ _
  · intro p hp hin
    -- the app is placed last, the playground before it, and all others were there
    rcases mem_scenes_placeAt hp with hp | hp
    · rcases mem_scenes_placeAt hp with hp | hp
      · exact hrow p hp hin
      · exact hp ▸ hplayground
    · exact hp ▸ (happPlace _).2

/-- The stages of the top row, if none of its scenes stands behind `last`. -/
theorem IsRoomy.placeRow (hreach : maxCoordinate ≤ reach)
    (hrow : ∀ p ∈ d.scenes, inTopRow components settings p → p.scene.box.left ≤ last)
    (hlast : 0 ≤ last) (hplayground : settings.playgroundLeft ≤ last) (happ : settings.appLeft ≤ last)
    (hend : last + settings.spacing * d.pending.length ≤ reach) :
    (d.placeRow components settings).IsRoomy settings count reach depth := by
  have hspacing : 1 ≤ settings.spacing := hvalid.spacing.1
  obtain ⟨hanchors, hfewer, hanchorRow⟩ :=
    h.placeAnchors hvalid hdepth hreach hrow hplayground happ
  -- the anchors leave no more components than there were
  have hlength : settings.spacing * ((d.placeAnchors components settings).pending.length : Int) ≤
      settings.spacing * d.pending.length :=
    Int.mul_le_mul_of_nonneg_left (Int.ofNat_le.2 hfewer) (by omega)
  exact hanchors.placePages hvalid hdepth (fun n hn => hanchors.bounds_of_mem_rowPlaces hanchorRow hn)
    hlast (by omega)

omit hdepth in
/-- The columns. -/
theorem IsRoomy.placeColumns (hcount : (folders components).length ≤ count)
    (hreach : maxCoordinate ≤ reach)
    (hfolders : settings.folderColumnLeft + settings.columnSpacing * count ≤ reach) :
    ((d.placeComponents settings).placeFolders components settings).IsRoomy settings count reach
      depth := by
  have hcomponents := h.fillColumn hvalid (·.name) (·.category == .component) (.inl rfl)
    hvalid.componentColumnLeft.1 (hvalid.componentColumnLeft.2.trans hreach)
  exact hcomponents.placeFolders hvalid hcount hfolders

end

end Draft

end SceneBoard
