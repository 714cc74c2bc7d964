import SceneBoard.Proofs.StageBounds

/-!
# New scenes in columns

The columns of a layout are filled from the top of the columns downwards. Besides the scenes of
before they hold new scenes of components that are no pages, each at the top of the columns or
below, and at the left edge of its folder if it is in one (`mem_scenes_placeColumns`).

What holds of the scenes of a draft goes on to hold as columns are filled, if it holds of each new
scene wherever the column can have it; the rules here say so for one column
(`forall_scenes_fillColumn`), for those of the folders and for a whole layout without anchors and
pages (`forall_scenes_placeAll`). With them new scenes have the sizes of their components and stand
at the top of the columns or below (`size_of_mem_placed`, `columnTop_le_of_mem_placed`).
-/

namespace SceneBoard

/-- The new scene of a component that has no place in the top row. -/
structure PlacedScene.IsNewInColumn (p : PlacedScene) (c : Component) : Prop where
  origin : p.origin = .placed c.name
  not_anchor : ¬ c.IsAnchor
  not_page : c.category ≠ .page

namespace Draft

open Plan

variable {d : Draft} {components : List Component} {settings : LayoutSettings}
  {R : PlacedScene → Prop} {I : Int → Prop}

/-! ## Scenes of a column -/

/-- A column has the scenes of before and a new one for each of its components, which stands at the
left edge of the column and at a top that the column can reach. -/
theorem mem_scenes_stack {cs : List Component} {left top : Int} {label : Component → String}
    {p : PlacedScene}
    (hnext : ∀ c ∈ cs, ∀ top, I top →
      I (Pixels.add (Box.bottom ⟨c.sceneSize settings, left, top⟩) settings.verticalSpacing))
    (htop : I top) (hp : p ∈ (d.stack settings left label top cs).scenes) :
    p ∈ d.scenes ∨ ∃ c ∈ cs, ∃ top, I top ∧
      p = newScene c ⟨c.sceneSize settings, left, top⟩ (label c) := by
  induction cs generalizing d top with
  | nil => exact .inl hp
  | cons c cs ih =>
    rw [stack] at hp
    -- the scene of the first component, or one of the stack below it
    cases ih (fun c hc => hnext c (List.mem_cons_of_mem _ hc)) (hnext c (by simp) top htop) hp with
    | inl hp =>
      cases mem_scenes_assign d c _ _ hp with
      | inl hp => exact .inl hp
      | inr hp => exact .inr ⟨c, by simp, top, htop, hp⟩
    | inr hp =>
      obtain ⟨c', hc', hnew⟩ := hp
      exact .inr ⟨c', by simp [hc'], hnew⟩

/-- Going on below a scene does not lead above the top of the columns. -/
theorem columnTop_le_next {c : Component} {left top : Int}
    (hlimit : settings.componentColumnTop ≤ Pixels.greatest) (hspace : 0 ≤ settings.verticalSpacing)
    (hheight : 0 ≤ (c.sceneSize settings).height) (htop : settings.componentColumnTop ≤ top) :
    settings.componentColumnTop ≤
      Pixels.add (Box.bottom ⟨c.sceneSize settings, left, top⟩) settings.verticalSpacing := by
  have hbottom : settings.componentColumnTop ≤ Box.bottom ⟨c.sceneSize settings, left, top⟩ :=
    Pixels.le_add (by simp only; omega) hlimit
  exact Pixels.le_add (by omega) hlimit

/-- A new scene of a component that stands in a column. If the component is in a folder, the column
is that of the folder. -/
structure IsColumnScene (components : List Component) (settings : LayoutSettings) (c : Component)
    (p : PlacedScene) : Prop where
  new : ∃ label, p = newScene c p.scene.box label
  top : settings.componentColumnTop ≤ p.scene.box.top
  not_page : c.category ≠ .page
  folder : ∀ f, c.category = .folder f → ∃ i, (folders components)[i]? = some f ∧
    p.scene.box.left = folderLeft settings i

section

variable (hlimit : settings.componentColumnTop ≤ Pixels.greatest)
  (hspace : 0 ≤ settings.verticalSpacing)
  (hheights : ∀ c ∈ d.pending, 0 ≤ (c.sceneSize settings).height)

include hlimit hspace hheights

/-- The new scenes of a column stand at the top of the columns or below. -/
theorem mem_scenes_fillColumn {left : Int} {label : Component → String}
    {wanted : Component → Bool} {p : PlacedScene}
    (hp : p ∈ (d.fillColumn settings left label wanted).scenes) :
    p ∈ d.scenes ∨ ∃ c ∈ d.pending, wanted c ∧ ∃ top, settings.componentColumnTop ≤ top ∧
      p = newScene c ⟨c.sceneSize settings, left, top⟩ (label c) := by
  -- the next scene begins below the top of the column
  have hnext : ∀ c ∈ (d.take wanted).1, ∀ top, settings.componentColumnTop ≤ top →
      settings.componentColumnTop ≤
        Pixels.add (Box.bottom ⟨c.sceneSize settings, left, top⟩) settings.verticalSpacing := by
    intro c hc top htop
    exact columnTop_le_next hlimit hspace (hheights c (List.mem_filter.1 hc).1) htop
  cases mem_scenes_stack (d := (d.take wanted).2) hnext (columnTop_le ..) hp with
  | inl hp => exact .inl hp
  | inr hp =>
    obtain ⟨c, hc, hnew⟩ := hp
    obtain ⟨hpending, hwanted⟩ := List.mem_filter.1 hc
    exact .inr ⟨c, hpending, hwanted, hnew⟩

end

/-- Filling a column makes nothing pending. -/
private theorem pending_fillColumn_subset (left : Int) (label : Component → String)
    (wanted : Component → Bool) :
    (d.fillColumn settings left label wanted).pending ⊆ d.pending := by
  intro c hc
  rw [fillColumn, pending_stack] at hc
  exact (List.mem_filter.1 hc).1

section

variable (hlimit : settings.componentColumnTop ≤ Pixels.greatest)
  (hspace : 0 ≤ settings.verticalSpacing)
  (hheights : ∀ c ∈ d.pending, 0 ≤ (c.sceneSize settings).height)

include hlimit hspace hheights

/-- A scene after the sub-folder columns was there before or stands in one of them. -/
private theorem mem_scenes_placeFolders {p : PlacedScene}
    (hp : p ∈ (d.placeFolders components settings).scenes) :
    p ∈ d.scenes ∨ ∃ c ∈ d.pending, IsColumnScene components settings c p := by
  -- what is still pending was pending before, so its height is not negative
  refine (placeFolders_induction (motive := fun d' => d'.pending ⊆ d.pending ∧
    ∀ p ∈ d'.scenes, p ∈ d.scenes ∨ ∃ c ∈ d.pending, IsColumnScene components settings c p)
    ⟨List.Subset.refl _, fun p hp => .inl hp⟩
    fun d' i f hf ⟨hsubset, hscenes⟩ => ⟨?_, fun p hp => ?_⟩).2 p hp
  · exact List.Subset.trans (pending_fillColumn_subset _ _ _) hsubset
  · cases mem_scenes_fillColumn hlimit hspace (fun c hc => hheights c (hsubset hc)) hp with
    | inl hp => exact hscenes p hp
    | inr hp =>
      obtain ⟨c, hc, hfolder, top, htop, rfl⟩ := hp
      have hcategory : c.category = .folder f := eq_of_beq hfolder
      refine .inr ⟨c, hsubset hc, ⟨_, rfl⟩, htop, by simp [hcategory], fun g hg => ?_⟩
      obtain rfl : f = g := by simpa [hcategory] using hg
      exact ⟨i, hf, rfl⟩

/-- The new scenes of all columns. -/
theorem mem_scenes_placeColumns {p : PlacedScene}
    (hp : p ∈ ((d.placeComponents settings).placeFolders components settings).scenes) :
    p ∈ d.scenes ∨ ∃ c ∈ d.pending, IsColumnScene components settings c p := by
  have hsubset := @pending_fillColumn_subset d settings settings.componentColumnLeft (·.name)
    (·.category == .component)
  -- from a sub-folder column, from the column of the components, or from before
  cases mem_scenes_placeFolders hlimit hspace (fun c hc => hheights c (hsubset hc)) hp with
  | inr hp =>
    obtain ⟨c, hc, hscene⟩ := hp
    exact .inr ⟨c, hsubset hc, hscene⟩
  | inl hp =>
    cases mem_scenes_fillColumn hlimit hspace hheights hp with
    | inl hp => exact .inl hp
    | inr hp =>
      obtain ⟨c, hc, hcomponent, top, htop, rfl⟩ := hp
      have hcategory : c.category = .component := eq_of_beq hcomponent
      exact .inr ⟨c, hc, ⟨_, rfl⟩, htop, by simp [hcategory], by simp [hcategory]⟩

end

/-! ## New scenes of plans -/

/-- As long as only the top row is placed, no scene is new in a column. -/
theorem not_isNewInColumn_placeRow {plan : Plan} (hnames : (components.map (·.name)).Nodup)
    {p : PlacedScene} (hp : p ∈ ((ofPlan plan components).placeRow components settings).scenes)
    {c : Component} (hc : c ∈ components) : ¬ p.IsNewInColumn c := by
  intro hnew
  cases (stages_placeRow (ofPlan plan components) components settings).mem_scenes hp with
  | inl hp =>
    -- what the plan keeps or retains is not new
    obtain ⟨b, -, rfl⟩ | ⟨s, -, rfl⟩ := mem_scenes_ofPlan hp
    · cases hnew.origin
    · cases hnew.origin
  | inr hp =>
    -- its component is an anchor or a page
    obtain ⟨c', hc', ⟨wanted, hwanted, hcondition⟩, box, label, -, rfl⟩ := hp
    obtain rfl : c' = c := List.inj_on_of_nodup_map hnames (mem_of_mem_pending hc') hc
      (Origin.placed.inj hnew.origin)
    have hanchor := hnew.not_anchor
    have hpage := hnew.not_page
    simp only [rowConditions, List.mem_cons, List.not_mem_nil, or_false] at hwanted
    rcases hwanted with rfl | rfl | rfl
    · exact hanchor (.inl (eq_of_beq hcondition))
    · exact hanchor (.inr (eq_of_beq hcondition))
    · exact hpage (eq_of_beq hcondition)

/-- The scene that a column has of a component that is new in it. -/
theorem isColumnScene_of_mem_placeAll {plan : Plan} (hnames : (components.map (·.name)).Nodup)
    (hlimit : settings.componentColumnTop ≤ Pixels.greatest) (hspace : 0 ≤ settings.verticalSpacing)
    (hheights : ∀ c ∈ (ofPlan plan components).pending, c.category ≠ .page →
      0 ≤ (c.sceneSize settings).height) {p : PlacedScene}
    (hp : p ∈ ((ofPlan plan components).placeAll components settings).scenes) {c : Component}
    (hc : c ∈ components) (hnew : p.IsNewInColumn c) : IsColumnScene components settings c p := by
  -- what the row leaves pending is no page, so its height is not negative
  have hrest : ∀ c ∈ ((ofPlan plan components).placeRow components settings).pending,
      0 ≤ (c.sceneSize settings).height := by
    intro c hc
    obtain ⟨hpending, -, hpage⟩ := mem_pending_placeRow hc
    exact hheights c hpending hpage
  cases mem_scenes_placeColumns hlimit hspace hrest hp with
  | inl hp => exact absurd hnew (not_isNewInColumn_placeRow hnames hp hc)
  | inr hp =>
    obtain ⟨c', hc', hscene⟩ := hp
    obtain ⟨label, heq⟩ := hscene.new
    have horigin : p.origin = .placed c'.name := by rw [heq]; rfl
    have hmem : c' ∈ components := mem_of_mem_pending (mem_pending_placeRow hc').1
    obtain rfl : c' = c := List.inj_on_of_nodup_map hnames hmem hc
      (Origin.placed.inj (horigin.symm.trans hnew.origin))
    exact hscene

/-- It is not in the top row if that is above the columns. -/
theorem IsColumnScene.inTopRow_eq_false {c : Component} {p : PlacedScene}
    (h : IsColumnScene components settings c p) (hnames : (components.map (·.name)).Nodup)
    (hrow : settings.topRow < settings.componentColumnTop) (hc : c ∈ components)
    (horigin : p.origin = .placed c.name) : inTopRow components settings p = false := by
  have htop := h.top
  have hlower : p.scene.box.top ≠ settings.topRow := by omega
  have hcomponent : p.origin.component? = some c.name := by rw [horigin]; rfl
  simp [inTopRow, hlower, hcomponent, named?_eq hnames hc, h.not_page]

/-! ## Rules -/

/-- What a column adds keeps a property of scenes: a new scene has it at every top that the column
can reach, and what can be reached is closed under going on below a scene. -/
structure Keeps (settings : LayoutSettings) (R : PlacedScene → Prop) (I : Int → Prop)
    (cs : List Component) : Prop where
  start : ∀ top, settings.componentColumnTop ≤ top → I top
  scene : ∀ c ∈ cs, ∀ left top label, I top →
    R (newScene c ⟨c.sceneSize settings, left, top⟩ label)
  next : ∀ c ∈ cs, ∀ left top, I top →
    I (Pixels.add (Box.bottom ⟨c.sceneSize settings, left, top⟩) settings.verticalSpacing)

/-- It is enough to ask for more components. -/
theorem Keeps.subset {cs cs' : List Component} (h : Keeps settings R I cs) (hcs : cs' ⊆ cs) :
    Keeps settings R I cs' :=
  ⟨h.start, fun c hc => h.scene c (hcs hc), fun c hc => h.next c (hcs hc)⟩

/-- What each scene of a stack keeps, all of them have. -/
private theorem forall_scenes_stack {cs : List Component} {left top : Int}
    {label : Component → String} (h : Keeps settings R I cs) (hd : ∀ p ∈ d.scenes, R p)
    (htop : I top) : ∀ p ∈ (d.stack settings left label top cs).scenes, R p := by
  intro p hp
  cases mem_scenes_stack (fun c hc => h.next c hc left) htop hp with
  | inl hp => exact hd p hp
  | inr hp =>
    obtain ⟨c, hc, top, htop, rfl⟩ := hp
    exact h.scene c hc left top (label c) htop

/-- One column. -/
theorem forall_scenes_fillColumn {left : Int} {label : Component → String}
    {wanted : Component → Bool} (h : Keeps settings R I d.pending) (hd : ∀ p ∈ d.scenes, R p) :
    ∀ p ∈ (d.fillColumn settings left label wanted).scenes, R p :=
  forall_scenes_stack (d := (d.take wanted).2) (h.subset List.filter_sublist.subset) hd
    (h.start _ (columnTop_le ..))

/-- The columns of the folders. -/
theorem forall_scenes_placeFolders (h : Keeps settings R I d.pending) (hd : ∀ p ∈ d.scenes, R p) :
    ∀ p ∈ (d.placeFolders components settings).scenes, R p := by
  rw [placeFolders]
  generalize (folders components).zipIdx = fs
  induction fs generalizing d with
  | nil => exact hd
  | cons f fs ih =>
    exact ih (h.subset (pending_fillColumn_subset ..)) (forall_scenes_fillColumn h hd)

/-- Nothing is taken if nothing that is pending is wanted. -/
private theorem take_eq {wanted : Component → Bool} (h : ∀ c ∈ d.pending, ¬ wanted c) :
    d.take wanted = ([], d) := by
  have hrest : (d.pending.filter fun c => !wanted c) = d.pending :=
    List.filter_eq_self.2 fun c hc => by simpa using h c hc
  rw [take, List.filter_eq_nil_iff.2 h, hrest]

/-- Where no anchor is pending, none is placed. -/
theorem placeAnchors_eq_self (h : ∀ c ∈ d.pending, ¬ c.IsAnchor) :
    d.placeAnchors components settings = d := by
  have hplayground : d.take (·.name == playgroundName) = ([], d) :=
    take_eq fun c hc heq => h c hc (.inl (eq_of_beq heq))
  have happ : d.take (·.name == appName) = ([], d) :=
    take_eq fun c hc heq => h c hc (.inr (eq_of_beq heq))
  simp only [placeAnchors, placeAt, hplayground, happ, List.foldl_nil]

/-- All columns of a layout in which neither anchors nor pages are new. -/
theorem forall_scenes_placeAll (hplain : ∀ c ∈ d.pending, ¬ c.IsAnchor ∧ c.category ≠ .page)
    (h : Keeps settings R I d.pending) (hd : ∀ p ∈ d.scenes, R p) :
    ∀ p ∈ (d.placeAll components settings).scenes, R p := by
  have hpages : d.placePages components settings = d := by
    -- no component is a page, so the row is not touched
    have hnone : d.take (·.category == .page) = ([], d) :=
      take_eq fun c hc heq => (hplain c hc).2 (eq_of_beq heq)
    simp only [placePages, hnone, List.isEmpty_nil, if_true]
  rw [placeAll, placeAnchors_eq_self fun c hc => (hplain c hc).1, hpages]
  exact forall_scenes_placeFolders (h.subset (pending_fillColumn_subset ..))
    (forall_scenes_fillColumn h hd)

/-! ## Layouts of new scenes -/

section

variable {prior : Storyboard} {options : ReconcileOptions} (hscenes : prior.scenes = [])
  (hplain : ∀ c ∈ components, ¬ c.IsAnchor ∧ c.category ≠ .page)

include hscenes

/-- Where there was no scene the draft of a plan begins with none. -/
private theorem scenes_ofPlan_eq_nil :
    (ofPlan (reconcile components prior options) components).scenes = [] := by
  -- nothing can be kept where there were no scenes
  have hkept : (reconcile components prior options).kept = [] := by
    rw [List.eq_nil_iff_forall_not_mem]
    intro b hb
    obtain ⟨c, -, s, hs, -⟩ := exists_of_mem_kept hb
    simp [hscenes] at hs
  have hretained : (reconcile components prior options).retained = [] :=
    List.sublist_nil.1 (hscenes ▸ retained_sublist)
  simp [scenes, ofPlan, hkept, hretained]

include hplain

/-- Without scenes of before, all scenes have what the new ones keep. -/
private theorem forall_scenes_placed (h : Keeps settings R I components) :
    ∀ p ∈ (placed components prior options settings).scenes, R p := by
  have hpending : (ofPlan (reconcile components prior options) components).pending ⊆ components :=
    fun c hc => mem_of_mem_pending hc
  refine forall_scenes_placeAll (fun c hc => hplain c (hpending hc)) (h.subset hpending) ?_
  simp [scenes_ofPlan_eq_nil hscenes]

/-- A new scene has the size of its component. -/
theorem size_of_mem_placed {p : PlacedScene}
    (hp : p ∈ (placed components prior options settings).scenes) :
    ∃ c ∈ components, p.origin = .placed c.name ∧ p.scene.box.size = c.sceneSize settings := by
  have hkeeps : Keeps settings (fun p => ∃ c ∈ components, p.origin = .placed c.name ∧
      p.scene.box.size = c.sceneSize settings) (fun _ => True) components :=
    ⟨fun _ _ => trivial, fun c hc _ _ _ _ => ⟨c, hc, rfl, rfl⟩, fun _ _ _ _ _ => trivial⟩
  exact forall_scenes_placed hscenes hplain hkeeps p hp

/-- Where no height is negative, new scenes do not stand above the columns. -/
theorem columnTop_le_of_mem_placed (hvalid : settings.IsValid)
    (hheights : ∀ c ∈ components, 0 ≤ (c.sceneSize settings).height) {p : PlacedScene}
    (hp : p ∈ (placed components prior options settings).scenes) :
    settings.componentColumnTop ≤ p.scene.box.top := by
  have hspace : 0 ≤ settings.verticalSpacing := hvalid.verticalSpacing.1
  have hlimit : settings.componentColumnTop ≤ Pixels.greatest :=
    hvalid.componentColumnTop.2.trans (by decide)
  -- the top of the column is where each scene begins at the earliest
  have hkeeps : Keeps settings (fun p => settings.componentColumnTop ≤ p.scene.box.top)
      (settings.componentColumnTop ≤ ·) components := by
    refine ⟨fun _ h => h, fun _ _ _ _ _ h => h, fun c hc left top h => ?_⟩
    exact columnTop_le_next hlimit hspace (hheights c hc) h
  exact forall_scenes_placed hscenes hplain hkeeps p hp

end

end Draft

end SceneBoard
