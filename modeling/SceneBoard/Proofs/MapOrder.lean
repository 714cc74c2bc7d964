import SceneBoard.Proofs.Arithmetic
import SceneBoard.Proofs.Compaction
import SceneBoard.Proofs.RowGaps

/-!
# Orders that do not show

While a layout is made, the scenes of components stand in a map under the names of the components, and
an index gives the component of a name. Both have no order of their own: whoever goes through them
meets their entries in any order (`MapOrders`). The scenes are gone through when pages are placed, for
every column and for closing up the row, and each time the order drops out: the places of a row are
sorted, the top of a column is a maximum, and no two entries of the row to be closed up have one left
edge and one rank. So the layout is that of the definition, which goes through lists.

## Key results

- `Draft.SameScenes`: drafts that differ only in the order of the scenes; every stage keeps this
- `Draft.row_eq_of_sameScenes`: their rows are the same
- `Layout.placeVisiting_eq`: the layout is the same, whatever the orders are
-/

namespace SceneBoard

/-- The order of the index of components by their names, and the orders in which their scenes come
each time that they are gone through. -/
structure MapOrders (components : List Component) where
  index : List Component
  index_perm : index.Perm components
  visit : Nat → List (String × PlacedScene) → List (String × PlacedScene)
  visit_perm : ∀ n as, (visit n as).Perm as

/-- The orders of the lists themselves. -/
def MapOrders.listed (components : List Component) : MapOrders components where
  index := components
  index_perm := .refl components
  visit _ as := as
  visit_perm _ as := .refl as

/-- The plan keeps scenes for components only, and none of them is named twice. -/
structure Plan.NamesOnce (plan : Plan) (components : List Component) : Prop where
  nodup : (plan.kept.map (·.component) ++ plan.pending).Nodup
  subset : plan.kept.map (·.component) ++ plan.pending ⊆ components.map (·.name)

/-! ## Layouts with given orders -/

section

variable {components : List Component} (orders : MapOrders components) (settings : LayoutSettings)

namespace Draft

/-- The draft with its scenes in the order in which they come at a visit. -/
def visited (n : Nat) (d : Draft) : Draft :=
  { d with assigned := orders.visit n d.assigned }

/-- Give every pending component a scene. The scenes of the draft are gone through once for the pages
and once for each column. -/
def placeAllVisiting (d : Draft) : Draft :=
  let d := d.placeAnchors orders.index settings
  let d := (d.visited orders 0).placePages orders.index settings
  let d := (d.visited orders 1).placeComponents settings
  (folders components).zipIdx.foldl
    (fun d f => (d.visited orders (f.2 + 2)).fillColumn settings (folderLeft settings f.2)
      (fun c => c.name ++ " (" ++ f.1 ++ ")") (·.category == .folder f.1)) d

/-- The scenes of the top row from left to right. Pages are told by the index, ties are decided by
the order of the components. -/
def rowVisiting (d : Draft) : List RowEntry :=
  let live := d.assigned.filterMap fun a => entryOf? orders.index settings (.live a.1)
    (rankOf components d.orphans.length a.1) a.2
  let orphans := d.orphans.zipIdx.filterMap fun o =>
    entryOf? orders.index settings (.orphan o.2) (components.length + o.2) o.1
  (live ++ orphans).mergeSort RowEntry.le

end Draft

/-- The layout of a plan, made with the given orders. -/
def Layout.placeVisiting (plan : Plan) : Layout :=
  let d := (Draft.ofPlan plan orders.index).placeAllVisiting orders settings
  let row := (d.visited orders ((Draft.folders components).length + 2)).rowVisiting orders settings
  let goals := Draft.targets settings row
  let scenes := distinctIds ((d.moveBy goals).inOrder components)
  { scenes
    relocations := scenes.filterMap (·.relocation?)
    repositioned := (row.filter fun e => (goals.lookup e.slot).any (· != e.left)).length }

/-- With the orders of the lists this is the layout. -/
theorem Layout.placeVisiting_listed (plan : Plan) (components : List Component) :
    Layout.placeVisiting (.listed components) settings plan = Layout.place plan components settings :=
  rfl

end

namespace Draft

/-! ## Drafts with the same scenes -/

/-- The drafts differ at most in the order of the scenes of components. -/
structure SameScenes (d d' : Draft) : Prop where
  assigned : d.assigned.Perm d'.assigned
  orphans : d.orphans = d'.orphans
  pending : d.pending = d'.pending

/-- The index gives the component of a name, in whatever order it is. -/
theorem named?_perm {index components : List Component} (h : index.Perm components)
    (hnames : (components.map (·.name)).Nodup) :
    Component.named? index = Component.named? components := by
  funext name
  by_cases hname : ∃ c ∈ components, c.name = name
  · -- one name, one component: the order of the index does not matter for a name that is there
    obtain ⟨c, hc, rfl⟩ := hname
    rw [named?_eq hnames hc, named?_eq ((h.map _).nodup_iff.2 hnames) (h.mem_iff.2 hc)]
  · have hnone {cs : List Component} (hcs : ∀ c ∈ cs, c ∈ components) :
        Component.named? cs name = none := by
      rw [Component.named?, List.find?_eq_none]
      intro c hc heq
      exact hname ⟨c, hcs c (List.mem_reverse.1 hc), eq_of_beq heq⟩
    rw [hnone fun c hc => h.mem_iff.1 hc, hnone fun c hc => hc]

/-- Nor does it matter for whether a scene stands in the top row. -/
theorem inTopRow_perm {index components : List Component} (h : index.Perm components)
    (hnames : (components.map (·.name)).Nodup) (settings : LayoutSettings) :
    inTopRow index settings = inTopRow components settings := by
  funext p
  rw [inTopRow, inTopRow, named?_perm h hnames]

namespace SameScenes

variable {d d' : Draft} {components index : List Component} {settings : LayoutSettings}

theorem visited (orders : MapOrders components) (n : Nat) (h : SameScenes d d') :
    SameScenes (d.visited orders n) d' :=
  ⟨(orders.visit_perm n d.assigned).trans h.assigned, h.orphans, h.pending⟩

/-- Drafts of the same scenes have them in some order. -/
theorem scenes (h : SameScenes d d') : d.scenes.Perm d'.scenes := by
  rw [Draft.scenes, Draft.scenes, h.orphans]
  exact (h.assigned.map _).append_right _

/-- The same components are taken from both. -/
theorem take (wanted : Component → Bool) (h : SameScenes d d') :
    (d.take wanted).1 = (d'.take wanted).1 ∧ SameScenes (d.take wanted).2 (d'.take wanted).2 := by
  simp only [Draft.take, h.pending, true_and]
  exact ⟨h.assigned, h.orphans, rfl⟩

theorem assign (c : Component) (box : Box) (label : String) (h : SameScenes d d') :
    SameScenes (d.assign c box label) (d'.assign c box label) :=
  ⟨(h.assigned.filter _).append_right _, h.orphans, h.pending⟩

/-! ### The stages -/

/-- Assigning several components the same box keeps them the same. -/
theorem foldl_assign (cs : List Component) (box : Box) (label : String) (h : SameScenes d d') :
    SameScenes (cs.foldl (fun d c => d.assign c box label) d)
      (cs.foldl (fun d c => d.assign c box label) d') := by
  induction cs generalizing d d' with
  | nil => exact h
  | cons c cs ih => exact ih (h.assign c box label)

/-- Placing at a fixed box keeps them the same. -/
theorem placeAt (wanted : Component → Bool) (box : Box) (label : String) (h : SameScenes d d') :
    SameScenes (d.placeAt wanted box label) (d'.placeAt wanted box label) := by
  obtain ⟨htaken, hrest⟩ := h.take wanted
  simp only [Draft.placeAt]
  rw [htaken]
  exact hrest.foldl_assign _ box label

/-- Placing the anchors keeps them the same. -/
theorem placeAnchors (hindex : index.Perm components) (settings : LayoutSettings)
    (h : SameScenes d d') :
    SameScenes (d.placeAnchors index settings) (d'.placeAnchors components settings) := by
  -- whether there is a playground is asked of the components as a whole
  have hany : index.any (·.name == playgroundName) = components.any (·.name == playgroundName) :=
    hindex.any_eq
  simp only [Draft.placeAnchors, hany]
  exact (h.placeAt _ _ _).placeAt _ _ _

/-- Both have the same places in the top row. -/
theorem rowPlaces_eq (hrow : inTopRow index settings = inTopRow components settings)
    (h : SameScenes d d') : d.rowPlaces index settings = d'.rowPlaces components settings := by
  -- only which places there are matters, as they are sorted
  refine ascending_eq (pairwise_ascending _) fun n => ?_
  rw [hrow, rowPlaces, mem_ascending]
  exact ((h.scenes.filter _).map _).mem_iff

/-- Filling the row keeps them the same. -/
theorem fillRow (gaps : List Gap) (next : Int) (pages : List Component) (h : SameScenes d d') :
    SameScenes (d.fillRow settings gaps next pages) (d'.fillRow settings gaps next pages) := by
  induction pages generalizing d d' gaps next with
  | nil => exact h
  | cons page pages ih =>
    rw [Draft.fillRow, Draft.fillRow]
    split
    · exact ih _ _ (h.assign _ _ _)
    · exact ih _ _ (h.assign _ _ _)

/-- Placing the pages keeps them the same. -/
theorem placePages (hrow : inTopRow index settings = inTopRow components settings)
    (h : SameScenes d d') :
    SameScenes (d.placePages index settings) (d'.placePages components settings) := by
  obtain ⟨htaken, hrest⟩ := h.take (·.category == .page)
  simp only [Draft.placePages]
  rw [htaken, hrest.rowPlaces_eq hrow]
  split
  · exact hrest
  · exact hrest.fillRow _ _ _

/-- A column starts at the same top in both. -/
theorem columnTop_eq (h : SameScenes d d') (left : Int) :
    d.columnTop settings left = d'.columnTop settings left :=
  -- the greatest of several numbers is told without their order
  (h.scenes.filterMap _).foldl_eq' (fun a _ b _ c => by rw [max_right_comm]) _

/-- Stacking keeps them the same. -/
theorem stack (left : Int) (label : Component → String) (top : Int) (cs : List Component)
    (h : SameScenes d d') :
    SameScenes (d.stack settings left label top cs) (d'.stack settings left label top cs) := by
  induction cs generalizing d d' top with
  | nil => exact h
  | cons c cs ih => exact ih _ (h.assign _ _ _)

/-- Filling a column keeps them the same. -/
theorem fillColumn (left : Int) (label : Component → String) (wanted : Component → Bool)
    (h : SameScenes d d') : SameScenes (d.fillColumn settings left label wanted)
      (d'.fillColumn settings left label wanted) := by
  obtain ⟨htaken, hrest⟩ := h.take wanted
  simp only [Draft.fillColumn]
  rw [htaken, hrest.columnTop_eq]
  exact hrest.stack _ _ _ _

/-- The columns keep them the same, though the scenes are visited anew for each. -/
theorem foldl_fillColumn (orders : MapOrders components) (fs : List (String × Nat))
    (h : SameScenes d d') :
    SameScenes (fs.foldl (fun d f => (d.visited orders (f.2 + 2)).fillColumn settings
      (folderLeft settings f.2) (fun c => c.name ++ " (" ++ f.1 ++ ")")
      (·.category == .folder f.1)) d)
    (fs.foldl (fun d f => d.fillColumn settings (folderLeft settings f.2)
      (fun c => c.name ++ " (" ++ f.1 ++ ")") (·.category == .folder f.1)) d') := by
  induction fs generalizing d d' with
  | nil => exact h
  | cons f fs ih => exact ih ((h.visited orders _).fillColumn _ _ _)

/-- All stages together keep it, in whatever orders the scenes are gone through. -/
theorem placeAllVisiting (orders : MapOrders components)
    (hnames : (components.map (·.name)).Nodup) (h : SameScenes d d') :
    SameScenes (d.placeAllVisiting orders settings) (d'.placeAll components settings) := by
  have hrow := inTopRow_perm orders.index_perm hnames settings
  have hpages := ((h.placeAnchors orders.index_perm settings).visited orders 0).placePages hrow
  exact ((hpages.visited orders 1).fillColumn _ _ _).foldl_fillColumn orders _

/-- The scene of a name is the same. -/
theorem scene?_eq (hd : (d'.assigned.map (·.1)).Nodup) (h : SameScenes d d') :
    d.scene? = d'.scene? := by
  -- with each name once, the scene of a name is the one entry of it
  have hd₀ : (d.assigned.map (·.1)).Nodup := (h.assigned.map _).nodup_iff.2 hd
  funext name
  apply Option.ext
  intro p
  constructor
  · exact fun hp => lookup_of_mem hd (h.assigned.mem_iff.1 (mem_of_lookup hp))
  · exact fun hp => lookup_of_mem hd₀ (h.assigned.mem_iff.2 (mem_of_lookup hp))

/-- Moving towards goals keeps them the same. -/
theorem moveBy (goals : List (Slot × Int)) (h : SameScenes d d') :
    SameScenes (d.moveBy goals) (d'.moveBy goals) := by
  refine ⟨h.assigned.map _, ?_, h.pending⟩
  simp only [Draft.moveBy, h.orphans]

end SameScenes

/-! ## Rows -/

section

variable {d d' : Draft} {components : List Component} {settings : LayoutSettings}

/-- No two entries of a row have one rank: those of components are told apart by the positions of the
components, and the others come behind all of these. -/
theorem eq_of_rank_eq (hnames : (components.map (·.name)).Nodup)
    (hd : (d.assigned.map (·.1)).Nodup) (hkeys : ∀ a ∈ d.assigned, a.1 ∈ components.map (·.name))
    {e e' : RowEntry} (he : e ∈ d.entries components settings)
    (he' : e' ∈ d.entries components settings) (hrank : e.rank = e'.rank) : e = e' := by
  -- the rank of a component is its position among the components
  have hposition {name : String} {p : PlacedScene} (hp : (name, p) ∈ d.assigned) :
      ∃ i, (components.map (·.name))[i]? = some name ∧ i < components.length ∧
        rankOf components d.orphans.length name = i := by
    obtain ⟨c, hc, rfl⟩ := List.mem_map.1 (hkeys _ hp)
    obtain ⟨i, hi⟩ := List.mem_iff_getElem?.1 hc
    exact ⟨i, by rw [List.getElem?_map, hi, Option.map_some], (List.getElem?_eq_some_iff.1 hi).1,
      rankOf_eq hnames _ hi⟩
  rcases mem_entries_iff.1 he with ⟨name, p, hp, -, rfl⟩ | ⟨i, p, hp, -, rfl⟩
  · obtain ⟨i, hi, hlt, hrank_i⟩ := hposition hp
    rcases mem_entries_iff.1 he' with ⟨name', p', hp', -, rfl⟩ | ⟨j, p', hp', -, rfl⟩
    · -- two components: one position, one name, and one scene of it
      obtain ⟨j, hj, -, hrank_j⟩ := hposition hp'
      obtain rfl : i = j := hrank_i.symm.trans (hrank.trans hrank_j)
      obtain rfl : name = name' := Option.some.inj (hi.symm.trans hj)
      have hsame : some p = some p' := (lookup_of_mem hd hp).symm.trans (lookup_of_mem hd hp')
      rw [Option.some.inj hsame]
    · -- every component ranks before every orphan
      simp only [hrank_i] at hrank
      omega
  · rcases mem_entries_iff.1 he' with ⟨name', p', hp', -, rfl⟩ | ⟨j, p', hp', -, rfl⟩
    · -- the other way round
      obtain ⟨j, -, hlt, hrank_j⟩ := hposition hp'
      simp only [hrank_j] at hrank
      omega
    · -- two scenes left over: one position
      obtain rfl : i = j := Nat.add_left_cancel hrank
      rw [Option.some.inj (hp.symm.trans hp')]

/-- Drafts with the same scenes have the same row: the order of the scenes decides no tie. -/
theorem row_eq_of_sameScenes (hnames : (components.map (·.name)).Nodup)
    (hd : (d'.assigned.map (·.1)).Nodup) (hkeys : ∀ a ∈ d'.assigned, a.1 ∈ components.map (·.name))
    (h : SameScenes d d') : d.row components settings = d'.row components settings := by
  have hentries : (d.entries components settings).Perm (d'.entries components settings) := by
    rw [entries, entries, h.orphans]
    exact (h.assigned.filterMap _).append_right _
  have hrow := perm_row d components settings
  have hrow' := perm_row d' components settings
  refine List.Perm.eq_of_pairwise (fun e e' he he' hle hge => ?_) (pairwise_row d components settings)
    (pairwise_row d' components settings) (hrow.trans (hentries.trans hrow'.symm))
  -- two entries neither of which comes after the other have one rank
  rw [RowEntry.le_iff] at hle hge
  exact eq_of_rank_eq hnames hd hkeys (hentries.mem_iff.1 (hrow.mem_iff.1 he)) (hrow'.mem_iff.1 he')
    (by omega)

/-- The index tells the scenes of the row like the list of components. -/
theorem rowVisiting_eq (orders : MapOrders components) (hnames : (components.map (·.name)).Nodup) :
    d.rowVisiting orders settings = d.row components settings := by
  have hentry : entryOf? orders.index settings = entryOf? components settings := by
    funext slot rank p
    rw [entryOf?, entryOf?, inTopRow_perm orders.index_perm hnames]
  rw [rowVisiting, hentry]
  rfl

/-- The scenes of drafts with the same scenes have one final order. -/
theorem inOrder_eq_of_sameScenes (hd : (d'.assigned.map (·.1)).Nodup) (h : SameScenes d d') :
    d.inOrder components = d'.inOrder components := by
  rw [inOrder, inOrder, h.scene?_eq hd, h.orphans]

theorem map_fst_moveBy (goals : List (Slot × Int)) :
    (d.moveBy goals).assigned.map (·.1) = d.assigned.map (·.1) := by
  simp only [moveBy, List.map_map, Function.comp_def]

/-- The draft of a plan has the same scenes in whatever order the plan lists them. -/
theorem sameScenes_ofPlan {index : List Component} {plan : Plan} {kept : List BoundScene}
    (hindex : index.Perm components) (hnames : (components.map (·.name)).Nodup)
    (hkept : kept.Perm plan.kept) (hplan : (plan.kept.map (·.component)).Nodup) :
    SameScenes (ofPlan { plan with kept } index) (ofPlan plan components) := by
  refine ⟨?_, rfl, ?_⟩
  · rw [assigned_ofPlan ((hkept.map _).nodup_iff.2 hplan), assigned_ofPlan hplan]
    exact hkept.map _
  · rw [ofPlan, ofPlan, named?_perm hindex hnames]

end

end Draft

/-! ## Layouts -/

/-- The layout of a plan is the same whatever the order is in which the plan lists the scenes that
components keep, in which the scenes of components are gone through and in which the index of the
components was filled. -/
theorem Layout.placeVisiting_eq (components : List Component)
    (hnames : (components.map (·.name)).Nodup) (plan : Plan) (hplan : plan.NamesOnce components)
    (kept : List BoundScene) (hkept : kept.Perm plan.kept) (orders : MapOrders components)
    (settings : LayoutSettings) :
    Layout.placeVisiting orders settings { plan with kept } =
      Layout.place plan components settings := by
  let d := (Draft.ofPlan { plan with kept } orders.index).placeAllVisiting orders settings
  let d' := (Draft.ofPlan plan components).placeAll components settings
  let last := (Draft.folders components).length + 2
  have hsame : d.SameScenes d' :=
    (Draft.sameScenes_ofPlan orders.index_perm hnames hkept
      (List.nodup_append.1 hplan.nodup).1).placeAllVisiting orders hnames
  have hd : (d'.assigned.map (·.1)).Nodup :=
    (Draft.stages_placeAll _ components settings).nodup (Draft.nodup_ofPlan plan components)
  -- no two entries have the same rank, so that sorting leaves nothing of the order before
  have hrow : (d.visited orders last).rowVisiting orders settings = d'.row components settings := by
    rw [Draft.rowVisiting_eq orders hnames]
    exact Draft.row_eq_of_sameScenes hnames hd
      (fun a => Draft.mem_names_of_mem_placeAll (List.append_subset.1 hplan.subset).1)
      (hsame.visited orders last)
  have hinOrder (goals : List (Draft.Slot × Int)) :
      (d.moveBy goals).inOrder components = (d'.moveBy goals).inOrder components :=
    Draft.inOrder_eq_of_sameScenes (by rwa [Draft.map_fst_moveBy]) (hsame.moveBy goals)
  -- the goals are the same, and so are the scenes that they move
  rw [Layout.place_eq, Draft.finish, Layout.placeVisiting, hrow, hinOrder]

/-- Two pages stand at one place, and a new page fills the gap between them and a note: though
everything is gone through backwards, the pages come in the order of the components. -/
theorem Layout.placeVisiting_eq_backwards :
    let page (name : String) : Component :=
      ⟨name, "pages/" ++ name ++ ".tsx", .page, true, false, none⟩
    let scene (name : String) (left : Int) : Scene := ⟨name, ⟨⟨9, 9⟩, left, 128⟩, name, some name, ""⟩
    let components := [page "About", page "Home", page "New"]
    let plan : Plan := ⟨[⟨"About", scene "About" 1000⟩, ⟨"Home", scene "Home" 1000⟩],
      [scene "Note" 3000], ["New"], [], [], [], []⟩
    let orders : MapOrders components :=
      ⟨components.reverse, List.reverse_perm _, fun _ as => as.reverse, fun _ as => as.reverse_perm⟩
    plan.NamesOnce components ∧
      (Layout.place plan components {}).scenes.map (fun p => (p.scene.id, p.scene.box.left)) =
        [("About", 212), ("Home", 1028), ("new-scene", 1844), ("Note", 2660)] ∧
      Layout.placeVisiting orders {} { plan with kept := plan.kept.reverse } =
        Layout.place plan components {} := by
  intro page scene components plan orders
  have hplan : plan.NamesOnce components := ⟨by decide, by decide⟩
  refine ⟨hplan, ?_, Layout.placeVisiting_eq components (by decide) plan hplan
    plan.kept.reverse plan.kept.reverse_perm orders {}⟩
  rw [Layout.place_eq, Draft.row_eq_entries (by decide +kernel)]
  decide +kernel

end SceneBoard
