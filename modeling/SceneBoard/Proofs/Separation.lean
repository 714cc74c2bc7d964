import Mathlib.Data.List.Pairwise
import SceneBoard.Proofs.CanvasRange
import SceneBoard.Proofs.Columns
import SceneBoard.Proofs.Moves

/-!
# New scenes stand apart

A column is filled from the first top that is free below all that stands in it, and each new scene
leaves the space of the settings below it. So a new scene comes close to no scene of its column,
whether that one was there before or was placed into it from another side: the columns of two folders
may have one left edge, and the column of the components may be among them. `AreClear` is the
relation between any two scenes of a draft that every column keeps (`pairwise_stack`), and closing up
the top row touches neither of the two.

## Key results

- `isFreeFrom_columnTop`: a column is free from where filling it begins
- `pairwise_placeColumns`: any two scenes of a draft are clear of each other
- `new_scenes_apart`: new scenes of a generation
-/

namespace SceneBoard

open Plan Draft

/-! ## Boxes of a column -/

/-- One of two boxes ends above the other one, with the space between scenes of a column left. -/
def Box.AreApart (settings : LayoutSettings) (a b : Box) : Prop :=
  a.below settings ≤ b.top ∨ b.below settings ≤ a.top

theorem Box.AreApart.symm {settings : LayoutSettings} {a b : Box} (h : a.AreApart settings b) :
    b.AreApart settings a :=
  Or.symm h

/-- Two scenes outside the top row, one of them new in a column, do not come too close to each other
in that column. -/
def AreClear (components : List Component) (settings : LayoutSettings) (p q : PlacedScene) : Prop :=
  inTopRow components settings p = false → inTopRow components settings q = false →
    (∃ c ∈ components, p.IsNewInColumn c ∨ q.IsNewInColumn c) →
    p.scene.box.left = q.scene.box.left → settings.componentColumnTop ≤ p.scene.box.top →
    settings.componentColumnTop ≤ q.scene.box.top → p.scene.box.AreApart settings q.scene.box

instance (components : List Component) (settings : LayoutSettings) :
    Std.Symm (AreClear components settings) where
  symm p q h hq hp hnew hleft hqtop hptop := by
    obtain ⟨c, hc, hnew⟩ := hnew
    exact (h hp hq ⟨c, hc, hnew.symm⟩ hleft.symm hptop hqtop).symm

namespace Draft

/-! ## One column -/

/-- Nothing stands in a column from a top on. -/
def IsFreeFrom (d : Draft) (settings : LayoutSettings) (left top : Int) : Prop :=
  ∀ p ∈ d.scenes, p.scene.box.left = left → settings.componentColumnTop ≤ p.scene.box.top →
    p.scene.box.below settings ≤ top

variable {settings : LayoutSettings} {components : List Component} {count : Nat}
  {reach depth floor : Int} {d : Draft}

/-- A column is free from where filling it begins. -/
theorem isFreeFrom_columnTop {left : Int} (hvalid : settings.IsValid)
    (h : d.IsBounded settings count reach depth floor) (hfloor : floor ≤ Pixels.greatest)
    (hcolumn : settings.IsColumn count left) :
    d.IsFreeFrom settings left (d.columnTop settings left) := by
  intro p hp hleft htop
  -- a scene of the column that ends above the floor is one over which the top was taken
  have hbelow := h.columns p hp ⟨hleft ▸ hcolumn, htop⟩
  have hnext := Box.next_eq hvalid.verticalSpacing.1 (h.within p hp).size.2.1 (h.within p hp).top
    (hbelow.trans hfloor)
  apply (foldl_max_le_iff.1 (Int.le_refl (d.columnTop settings left))).2
  exact List.mem_filterMap.2 ⟨p, hp, by rw [← hnext]; exact if_pos ⟨hleft, htop⟩⟩

/-- A new scene takes the place of that of its component, if there is one, and leaves the others in
their order. -/
private theorem exists_perm_scenes_assign (d : Draft) (c : Component) (box : Box) (label : String) :
    ∃ ps, ps.Sublist d.scenes ∧ (d.assign c box label).scenes.Perm (newScene c box label :: ps) := by
  refine ⟨(d.assigned.filter (·.1 != c.name)).map (·.2) ++ d.orphans, ?_, ?_⟩
  · exact (List.filter_sublist.map _).append (List.Sublist.refl _)
  · show ((put d.assigned c.name (newScene c box label)).map (·.2) ++ d.orphans).Perm _
    rw [put, List.map_append, List.append_assoc]
    exact List.perm_middle

/-- A scene that is placed where the column is free is clear of the others. -/
theorem pairwise_assign {c : Component} {box : Box} {label : String}
    (h : d.scenes.Pairwise (AreClear components settings))
    (hfree : d.IsFreeFrom settings box.left box.top) :
    (d.assign c box label).scenes.Pairwise (AreClear components settings) := by
  obtain ⟨ps, hps, hperm⟩ := exists_perm_scenes_assign d c box label
  rw [hperm.pairwise_iff (Std.Symm.symm _ _), List.pairwise_cons]
  refine ⟨fun q hq => ?_, h.sublist hps⟩
  -- the new scene is at the top of what is free, so the others in its column end above it
  intro _ _ _ hleft _ htop
  exact .inr (hfree q (hps.subset hq) hleft.symm htop)

/-- Below the new scene the column is free. -/
theorem IsFreeFrom.assign {c : Component} {box : Box} {label : String}
    (h : d.IsFreeFrom settings box.left box.top) (hle : box.top ≤ box.below settings) :
    (d.assign c box label).IsFreeFrom settings box.left (box.below settings) := by
  intro p hp hleft htop
  -- what was free before, or the new scene itself
  cases mem_scenes_assign d c box label hp with
  | inl hp => exact (h p hp hleft htop).trans hle
  | inr hp =>
    rw [hp]
    exact Int.le_refl _

/-- Filling a column from a top from which it is free. -/
theorem pairwise_stack {left top : Int} {label : Component → String} {cs : List Component}
    (hvalid : settings.IsValid) (h : d.scenes.Pairwise (AreClear components settings))
    (hcs : ∀ c ∈ cs, (c.sceneSize settings).InRange) (hfree : d.IsFreeFrom settings left top)
    (htop : -maxCoordinate ≤ top) (hroom : top + stepsOf settings cs ≤ Pixels.greatest) :
    (d.stack settings left label top cs).scenes.Pairwise (AreClear components settings) := by
  have hspace : 0 ≤ settings.verticalSpacing := hvalid.verticalSpacing.1
  induction cs generalizing d top with
  | nil => exact h
  | cons c cs ih =>
    have hheight : 1 ≤ (c.sceneSize settings).height := (hcs c (by simp)).2.1
    have hlater : ∀ c ∈ cs, (c.sceneSize settings).InRange := fun c hc => hcs c (by simp [hc])
    have hrest := stepsOf_nonneg hvalid hlater
    have hbelow : Box.below settings ⟨c.sceneSize settings, left, top⟩ = top + c.step settings := by
      simp only [Box.below, Component.step]
      omega
    have hstep : 1 ≤ c.step settings := by
      unfold Component.step
      omega
    rw [stepsOf_cons] at hroom
    -- the room is enough for the next top to be exact
    have hnext : Pixels.add (Box.bottom ⟨c.sceneSize settings, left, top⟩)
        settings.verticalSpacing = Box.below settings ⟨c.sceneSize settings, left, top⟩ := by
      apply Box.next_eq hspace hheight htop
      omega
    rw [stack, hnext]
    -- the new scene stands where it was free, and the next one below it
    apply ih (pairwise_assign h hfree) hlater
    · apply hfree.assign
      show top ≤ Box.below settings ⟨c.sceneSize settings, left, top⟩
      omega
    · omega
    · omega

/-! ## All columns -/

section

variable (hvalid : settings.IsValid) (hdepth : depth ≤ Pixels.greatest)
  (h : d.IsRoomy settings count reach depth)
  (hclear : d.scenes.Pairwise (AreClear components settings))

include hvalid hdepth h hclear

/-- Filling a column. -/
theorem pairwise_fillColumn {left : Int} (label : Component → String) (wanted : Component → Bool)
    (hcolumn : settings.IsColumn count left) :
    (d.fillColumn settings left label wanted).scenes.Pairwise (AreClear components settings) := by
  have hrest : (d.take wanted).2.IsBounded settings count reach depth
      (depth - stepsOf settings d.pending) := ⟨h.bounded.within, h.bounded.columns⟩
  have hsizes : ∀ c ∈ (d.take wanted).1, (c.sceneSize settings).InRange :=
    fun c hc => h.sizes c (List.mem_filter.1 hc).1
  -- the room is shared by what goes into this column and what is left over
  have hleftOver : 0 ≤ stepsOf settings (d.take wanted).2.pending :=
    stepsOf_nonneg hvalid fun c hc => h.sizes c (List.mem_filter.1 hc).1
  have hpending : 0 ≤ stepsOf settings d.pending := stepsOf_nonneg hvalid h.sizes
  have hsteps : stepsOf settings (d.take wanted).1 + stepsOf settings (d.take wanted).2.pending =
      stepsOf settings d.pending := stepsOf_filter wanted
  obtain ⟨hlow, hhigh⟩ := hrest.columnTop hvalid hcolumn h.start
  apply pairwise_stack (d := (d.take wanted).2) hvalid hclear hsizes _ hlow
  · omega
  · apply isFreeFrom_columnTop hvalid hrest _ hcolumn
    omega

/-- Filling the columns of the folders. -/
theorem pairwise_placeFolders (hfolders : (folders components).length ≤ count)
    (hend : settings.folderColumnLeft + settings.columnSpacing * count ≤ reach) :
    (d.placeFolders components settings).scenes.Pairwise (AreClear components settings) := by
  -- each column needs the room that those before it have left
  refine (placeFolders_induction (motive := fun d => d.IsRoomy settings count reach depth ∧
    d.scenes.Pairwise (AreClear components settings)) ⟨h, hclear⟩
    fun d i f hf ⟨h, hclear⟩ => ?_).2
  have hlt : i < count := (List.getElem?_eq_some_iff.1 hf).1.trans_le hfolders
  have hcolumn : settings.IsColumn count (folderLeft settings i) := .inr ⟨i, hlt, rfl⟩
  obtain ⟨hleft, hright⟩ := folderLeft_le hvalid hlt hend
  exact ⟨h.fillColumn hvalid _ _ hcolumn hleft hright,
    pairwise_fillColumn hvalid hdepth h hclear _ _ hcolumn⟩

/-- Filling all columns. -/
theorem pairwise_placeColumns (hfolders : (folders components).length ≤ count)
    (hreach : maxCoordinate ≤ reach)
    (hend : settings.folderColumnLeft + settings.columnSpacing * count ≤ reach) :
    ((d.placeComponents settings).placeFolders components settings).scenes.Pairwise
      (AreClear components settings) := by
  have hcolumn : settings.IsColumn count settings.componentColumnLeft := .inl rfl
  apply pairwise_placeFolders hvalid hdepth _ _ hfolders hend
  · exact h.fillColumn hvalid _ _ hcolumn hvalid.componentColumnLeft.1
      (hvalid.componentColumnLeft.2.trans hreach)
  · exact pairwise_fillColumn hvalid hdepth h hclear _ _ hcolumn

end

/-! ## Drafts of plans -/

section

variable {prior : Storyboard} {options : ReconcileOptions}

variable (hvalid : settings.IsValid) (hnames : (components.map (·.name)).Nodup)
  (hsizes : ∀ c ∈ components, ∀ z ∈ c.size, z.InRange)

include hvalid hnames hsizes

/-- The scene that a column has of a component that is new in it. -/
theorem isColumnScene_of_mem_placed {p : PlacedScene}
    (hp : p ∈ (placed components prior options settings).scenes) {c : Component}
    (hc : c ∈ components) (hnew : p.IsNewInColumn c) : IsColumnScene components settings c p := by
  have hlimit : settings.componentColumnTop ≤ Pixels.greatest :=
    hvalid.componentColumnTop.2.trans (by decide)
  apply isColumnScene_of_mem_placeAll hnames hlimit hvalid.verticalSpacing.1 _ hp hc hnew
  intro c hc _
  have hheight : 1 ≤ (c.sceneSize settings).height :=
    (inRange_sceneSize hvalid hsizes (mem_of_mem_pending hc)).2.1
  omega

/-- Any two scenes are clear of each other when every component has one. -/
theorem pairwise_placed (hprior : ∀ s ∈ prior.scenes, s.box.InRange)
    (hcount : components.length < 2 ^ 30) :
    (placed components prior options settings).scenes.Pairwise (AreClear components settings) := by
  -- the columns have the room that the row has left
  have hreach := Int.le_max_right maxCoordinate
    ((reconcile components prior options).reach components settings)
  apply pairwise_placeColumns hvalid (depth_le_greatest hvalid hsizes hprior hcount)
    (isRoomy_placeRow hvalid hsizes hprior) _ (Nat.le_refl _) (Int.le_max_left ..)
    ((Int.le_max_right ..).trans hreach)
  -- nothing is new in a column yet
  rw [List.pairwise_iff_forall_sublist]
  intro p q hpq _ _ hnew
  obtain ⟨c, hc, hnew⟩ := hnew
  cases hnew with
  | inl hnew => exact absurd hnew (not_isNewInColumn_placeRow hnames (hpq.subset (by simp)) hc)
  | inr hnew => exact absurd hnew (not_isNewInColumn_placeRow hnames (hpq.subset (by simp)) hc)

end

end Draft

/-! ## Layouts -/

section

variable {components : List Component} {prior : Storyboard} {options : ReconcileOptions}
  {settings : LayoutSettings} (hvalid : settings.IsValid)
  (hnames : (components.map (·.name)).Nodup)
  (hsizes : ∀ c ∈ components, ∀ z ∈ c.size, z.InRange)

include hvalid hnames hsizes

/-- A scene that is new in a column stands in no top row above the columns, but at the top of the
columns or below. -/
theorem new_scene_layoutOf (htop : settings.topRow < settings.componentColumnTop) {p : PlacedScene}
    (hp : p ∈ (layoutOf components prior options settings).scenes) {c : Component}
    (hc : c ∈ components) (hnew : p.IsNewInColumn c) :
    inTopRow components settings p = false ∧ settings.componentColumnTop ≤ p.scene.box.top ∧
      ∀ f, c.category = .folder f → ∃ i, (folders components)[i]? = some f ∧
        p.scene.box.left = folderLeft settings i := by
  -- the scene before its row was closed up, which did not move it
  obtain ⟨q, hq, hqp⟩ := exists_of_mem_forall₂ forall₂_layoutOf hp
  have hcolumn : IsColumnScene components settings c q :=
    isColumnScene_of_mem_placed hvalid hnames hsizes (perm_inOrder_placed.subset hq) hc
      ⟨hqp.origin ▸ hnew.origin, hnew.not_anchor, hnew.not_page⟩
  have hqorigin : q.origin = .placed c.name := hqp.origin ▸ hnew.origin
  have hrow := hcolumn.inTopRow_eq_false hnames htop hc hqorigin
  refine ⟨hqp.inTopRow_eq ▸ hrow, hqp.top ▸ hcolumn.top, fun f hf => ?_⟩
  rw [hqp.left hrow]
  exact hcolumn.folder f hf

/-- Closing up the top row leaves apart what stands outside it. -/
theorem pairwise_layoutOf (hprior : ∀ s ∈ prior.scenes, s.box.InRange)
    (hcount : components.length < 2 ^ 30) :
    (layoutOf components prior options settings).scenes.Pairwise (AreClear components settings) := by
  have hplaced : ((placed components prior options settings).inOrder components).Pairwise
      (AreClear components settings) := by
    rw [perm_inOrder_placed.pairwise_iff (Std.Symm.symm _ _)]
    exact pairwise_placed hvalid hnames hsizes hprior hcount
  -- closing up moves scenes of the row only, and these are not compared
  apply pairwise_of_forall₂ forall₂_layoutOf hplaced
  intro p q p' q' hp hq hclear hprow hqrow hnew
  rw [hp.inTopRow_eq] at hprow
  rw [hq.inTopRow_eq] at hqrow
  rw [hp.box hprow, hq.box hqrow]
  apply hclear hprow hqrow
  obtain ⟨c, hc, hnew⟩ := hnew
  refine ⟨c, hc, hnew.imp (fun h => ?_) fun h => ?_⟩
  · exact ⟨hp.origin ▸ h.origin, h.not_anchor, h.not_page⟩
  · exact ⟨hq.origin ▸ h.origin, h.not_anchor, h.not_page⟩

end

/-! ## Generations -/

/-- The columns of two folders have different left edges. -/
private theorem folderLeft_inj {settings : LayoutSettings} (hvalid : settings.IsValid) {i j : Nat}
    (h : folderLeft settings i = folderLeft settings j) : i = j := by
  have hspacing : 1 ≤ settings.columnSpacing := hvalid.columnSpacing.1
  unfold folderLeft at h
  have hmul : (i : Int) * settings.columnSpacing = j * settings.columnSpacing := by omega
  have hij := Int.eq_of_mul_eq_mul_right (by omega) hmul
  omega

/-- A new scene that belongs into a column stands at the top of the columns or below, and no scene
outside the top row that stands in the same column comes closer to it than the settings allow. Two
that belong into folders have one left edge exactly if their folders are the same. -/
theorem new_scenes_apart (components : List Component) (previous : Option String)
    (options : ReconcileOptions) (settings : LayoutSettings) (importPrefix : String)
    (hnames : (components.map (·.name)).Nodup) (hsizes : ∀ c ∈ components, ∀ z ∈ c.size, z.InRange)
    (hsettings : settings.problem? = none) (htop : settings.topRow < settings.componentColumnTop)
    (hcount : components.length < 2 ^ 30) :
    let scenes := (generate components previous options settings importPrefix).layout.scenes
    ∀ c ∈ components, ∀ p ∈ scenes, p.IsNewInColumn c →
      settings.componentColumnTop ≤ p.scene.box.top ∧
      (∀ q ∈ scenes, q ≠ p → inTopRow components settings q = false →
        q.scene.box.left = p.scene.box.left → settings.componentColumnTop ≤ q.scene.box.top →
          q.scene.box.AreApart settings p.scene.box) ∧
      ∀ c' ∈ components, ∀ q ∈ scenes, q.IsNewInColumn c' → ∀ f f', c.category = .folder f →
        c'.category = .folder f' → (q.scene.box.left = p.scene.box.left ↔ f' = f) := by
  intro scenes c hc p hp hnew
  have hvalid := LayoutSettings.isValid_of_problem? hsettings
  obtain ⟨hrow, hcolumn, hfolder⟩ := new_scene_layoutOf hvalid hnames hsizes htop hp hc hnew
  refine ⟨hcolumn, ?_, ?_⟩
  · intro q hq hne hqrow hleft hqcolumn
    have hpairwise : scenes.Pairwise (AreClear components settings) :=
      pairwise_layoutOf hvalid hnames hsizes (fun s hs => inRange_box_of_mem hs) hcount
    exact hpairwise.forall hq hp hne hqrow hrow ⟨c, hc, .inr hnew⟩ hleft hqcolumn hcolumn
  · -- the number of the folder decides the column
    intro c' hc' q hq hqnew f f' hf hf'
    obtain ⟨-, -, hqfolder⟩ := new_scene_layoutOf hvalid hnames hsizes htop hq hc' hqnew
    obtain ⟨i, hi, hleft⟩ := hfolder f hf
    obtain ⟨j, hj, hqleft⟩ := hqfolder f' hf'
    constructor
    · intro heq
      obtain rfl : j = i := folderLeft_inj hvalid (by rw [← hqleft, ← hleft, heq])
      exact Option.some.inj (hj.symm.trans hi)
    · rintro rfl
      -- no folder is listed twice
      obtain ⟨hlength, -⟩ := List.getElem?_eq_some_iff.1 hj
      obtain rfl : j = i := (List.getElem?_inj hlength (nodup_distinct _)).1 (hj.trans hi.symm)
      rw [hleft, hqleft]

/-- A card that is placed below a note in its column. -/
theorem new_scenes_apart_card_and_note :
    let text := "<Scene id='note' commentId='n' style=\x7b\x7bwidth: 9, height: 9, left: 212, " ++
      "top: 1600\x7d\x7d data-label='My note'>text</Scene>"
    let card : Component := ⟨"Card", "components/Card.tsx", .component, true, false, some ⟨320, 200⟩⟩
    let scenes := (generate [card] (some text) {} {} "../src").layout.scenes
    (([card].map (·.name)).Nodup ∧ (∀ c ∈ [card], ∀ z ∈ c.size, z.InRange) ∧
      ({} : LayoutSettings).problem? = none ∧
      ({} : LayoutSettings).topRow < ({} : LayoutSettings).componentColumnTop ∧
      [card].length < 2 ^ 30) ∧
    ∃ p ∈ scenes, p.IsNewInColumn card ∧ ∃ q ∈ scenes, q ≠ p ∧
      q.scene.box.left = p.scene.box.left ∧ q.scene.box.AreApart {} p.scene.box := by
  intro text card scenes
  let p : PlacedScene :=
    ⟨⟨"card-scene", ⟨⟨320, 200⟩, 212, 1829⟩, "Card", some "Card", ""⟩, .placed "Card"⟩
  let note : PlacedScene :=
    ⟨⟨"note", ⟨⟨9, 9⟩, 212, 1600⟩, "My note", none, "text"⟩, .retained ⟨⟨9, 9⟩, 212, 1600⟩⟩
  -- the card stands below the note, in its column
  have hscenes : scenes = [p, note] := by decide +kernel
  have hp : p ∈ scenes := by simp [hscenes]
  have hnote : note ∈ scenes := by simp [hscenes]
  have hne : note ≠ p := by decide
  have hnames : ([card].map (·.name)).Nodup := by decide
  have hsizes : ∀ c ∈ [card], ∀ z ∈ c.size, z.InRange := by decide
  have hsettings : ({} : LayoutSettings).problem? = none := by decide
  have htop : ({} : LayoutSettings).topRow < ({} : LayoutSettings).componentColumnTop := by decide
  have hcount : [card].length < 2 ^ 30 := by decide
  have hnew : p.IsNewInColumn card := ⟨rfl, by decide, by decide⟩
  have happart := (new_scenes_apart [card] (some text) {} {} "../src" hnames hsizes hsettings htop
    hcount card (by simp) p hp hnew).2.1 note hnote hne (by decide) rfl (by decide)
  exact ⟨⟨hnames, hsizes, hsettings, htop, hcount⟩, p, hp, hnew, note, hnote, hne, rfl, happart⟩

end SceneBoard
