import Mathlib.Data.List.Basic
import Mathlib.Data.List.Nodup
import SceneBoard.Layout
import SceneBoard.Proofs.Binding

/-!
# What the stages of a layout do

Every stage takes the pending components that satisfy a condition and gives each of them a new
scene, and it does nothing else. `Draft.Assigns` and `Draft.Stages` say so for a list of components
and for a list of stages, whatever the boxes are. The stages of a layout together take every
component (`stages_placeAll`). So where each component keeps a scene or is pending (`Plan.Covers`), it
has that scene in the end, or else a new one (`scene?_placeAll_of_kept`, `scene?_placeAll_of_pending`),
and the scenes without a component are those of before (`orphans_placed`).
-/

namespace SceneBoard

/-- A component with a place of its own in the top row, wherever its file lies. -/
def Component.IsAnchor (c : Component) : Prop :=
  c.name = playgroundName ∨ c.name = appName

instance (c : Component) : Decidable c.IsAnchor :=
  inferInstanceAs (Decidable (_ ∨ _))

namespace Draft

/-! ## Scenes under names -/

/-- The entries under other names are found as before. -/
private theorem lookup_filter_ne {assigned : List (String × PlacedScene)} {name name' : String}
    (h : name' ≠ name) :
    (assigned.filter (·.1 != name)).lookup name' = assigned.lookup name' := by
  induction assigned with
  | nil => rfl
  | cons a assigned ih =>
    obtain ⟨n, p⟩ := a
    by_cases hn : n = name
    · subst hn
      simp [List.lookup_cons, ih, beq_false_of_ne h]
    · simp [List.lookup_cons, ih, hn]

/-- Under the name put the new scene is found, under every other one what was there. -/
private theorem lookup_put (assigned : List (String × PlacedScene)) (name name' : String)
    (p : PlacedScene) :
    (put assigned name p).lookup name' =
      if name' = name then some p else assigned.lookup name' := by
  rw [put, List.lookup_append]
  split
  · rename_i h
    subst h
    -- the old entry of this name is gone, so the one at the end is found
    have : (assigned.filter (·.1 != name')).lookup name' = none := by
      rw [List.lookup_eq_none_iff]
      intro a ha
      simpa [bne_comm] using (List.mem_filter.1 ha).2
    simp [this]
  · rename_i h
    simp [lookup_filter_ne h, List.lookup_cons, beq_false_of_ne h]

/-- A name is still there once. -/
private theorem nodup_put {assigned : List (String × PlacedScene)} (name : String) (p : PlacedScene)
    (h : (assigned.map (·.1)).Nodup) : ((put assigned name p).map (·.1)).Nodup := by
  rw [put, List.map_append, List.nodup_append]
  refine ⟨h.sublist (List.filter_sublist.map _), by simp, ?_⟩
  rintro n hn _ hn' rfl
  obtain ⟨a, ha, rfl⟩ := List.mem_map.1 hn
  simp_all

/-- An entry was there, or it is the one put. -/
private theorem mem_put {assigned : List (String × PlacedScene)} {name : String} {p : PlacedScene}
    {a : String × PlacedScene} (h : a ∈ put assigned name p) : a ∈ assigned ∨ a = (name, p) := by
  rcases List.mem_append.1 h with h | h
  · exact .inl (List.mem_filter.1 h).1
  · exact .inr (List.mem_singleton.1 h)

/-- A name is there once, however many are put. -/
theorem nodup_foldl_put {bs : List BoundScene} {as : List (String × PlacedScene)}
    (f : BoundScene → PlacedScene) (h : (as.map (·.1)).Nodup) :
    ((bs.foldl (fun as b => put as b.component (f b)) as).map (·.1)).Nodup := by
  induction bs generalizing as with
  | nil => exact h
  | cons b bs ih => exact ih (nodup_put _ _ h)

/-- The label that a new scene of a component has: the name of the component, with that of its
folder behind it if it has one, or the label of the application. -/
inductive IsNewLabel (settings : LayoutSettings) (c : Component) : String → Prop where
  | playground (h : c.name = playgroundName) : IsNewLabel settings c playgroundName
  | app (h : c.name = appName) : IsNewLabel settings c settings.appLabel
  | name (h : ¬ c.IsAnchor) (hfolder : ∀ f, c.category ≠ .folder f) : IsNewLabel settings c c.name
  | folder (h : ¬ c.IsAnchor) {f : String} (hfolder : c.category = .folder f) :
    IsNewLabel settings c (c.name ++ " (" ++ f ++ ")")

/-- The scene that a component gets when it has none. -/
def newScene (c : Component) (box : Box) (label : String) : PlacedScene :=
  ⟨⟨c.sceneId, box, label, some c.name, ""⟩, .placed c.name⟩

section

variable (d : Draft) (c : Component) (box : Box) (label : String)

/-- After an assignment the name has the new scene, and every other one what it had. -/
theorem scene?_assign (name : String) : (d.assign c box label).scene? name =
    if name = c.name then some (newScene c box label) else d.scene? name :=
  lookup_put d.assigned c.name name _

/-- A draft has one new scene more, and all others were there before. -/
theorem mem_scenes_assign {p : PlacedScene} (h : p ∈ (d.assign c box label).scenes) :
    p ∈ d.scenes ∨ p = newScene c box label := by
  rcases List.mem_append.1 h with h | h
  · obtain ⟨a, ha, rfl⟩ := List.mem_map.1 h
    rcases mem_put ha with ha | rfl
    · exact .inl (List.mem_append_left _ (List.mem_map_of_mem ha))
    · exact .inr rfl
  · exact .inl (List.mem_append_right _ h)

end

/-! ## Giving scenes to components -/

/-- A draft in which components were given new scenes, one after the other. -/
inductive Assigns (settings : LayoutSettings) : Draft → List Component → Draft → Prop where
  | nil (d : Draft) : Assigns settings d [] d
  | cons {d d' : Draft} {c : Component} {cs : List Component} (box : Box) {label : String}
      (hlabel : IsNewLabel settings c label) (h : Assigns settings (d.assign c box label) cs d') :
      Assigns settings d (c :: cs) d'

namespace Assigns

variable {settings : LayoutSettings} {d d' : Draft} {cs : List Component}

/-- The left over scenes stay as they are. -/
theorem orphans (h : Assigns settings d cs d') : d'.orphans = d.orphans := by
  induction h with
  | nil => rfl
  | cons box hlabel _ ih => exact ih

/-- The components that wait are not changed by the assignments. -/
theorem pending (h : Assigns settings d cs d') : d'.pending = d.pending := by
  induction h with
  | nil => rfl
  | cons box hlabel _ ih => exact ih

/-- A name is assigned once. -/
theorem nodup (h : Assigns settings d cs d') (hd : (d.assigned.map (·.1)).Nodup) :
    (d'.assigned.map (·.1)).Nodup := by
  induction h with
  | nil => exact hd
  | cons box hlabel _ ih => exact ih (nodup_put _ _ hd)

/-- Every scene was there before or is a new one. -/
theorem mem_assigned {a : String × PlacedScene} (h : Assigns settings d cs d')
    (ha : a ∈ d'.assigned) : a ∈ d.assigned ∨ ∃ c ∈ cs, ∃ box label, IsNewLabel settings c label ∧
      a = (c.name, newScene c box label) := by
  induction h with
  | nil => exact .inl ha
  | @cons d d' c cs box label hlabel _ ih =>
    -- the entry was there after the first assignment, or it is of a later one
    rcases ih ha with ha | ⟨c', hc', hnew⟩
    · rcases mem_put ha with ha | rfl
      · exact .inl ha
      · exact .inr ⟨c, by simp, box, label, hlabel, rfl⟩
    · exact .inr ⟨c', by simp [hc'], hnew⟩

/-- The other scenes stay as they are. -/
theorem scene?_of_forall_ne {name : String} (h : Assigns settings d cs d')
    (hname : ∀ c ∈ cs, c.name ≠ name) :
    d'.scene? name = d.scene? name := by
  induction h with
  | nil => rfl
  | cons box hlabel _ ih =>
    rw [ih fun c hc => hname c (by simp [hc]), scene?_assign, if_neg]
    exact fun h => hname _ (by simp) h.symm

/-- Each of the components has a new scene. -/
theorem scene?_of_mem {c : Component} (h : Assigns settings d cs d') (hcs : (cs.map (·.name)).Nodup)
    (hc : c ∈ cs) : ∃ box label, IsNewLabel settings c label ∧
      d'.scene? c.name = some (newScene c box label) := by
  induction h with
  | nil => simp at hc
  | @cons d d' c' cs box label hlabel htail ih =>
    rw [List.map_cons, List.nodup_cons] at hcs
    rcases List.mem_cons.1 hc with rfl | hc
    · refine ⟨box, label, hlabel, ?_⟩
      -- the later assignments are of other names
      rw [htail.scene?_of_forall_ne, scene?_assign, if_pos rfl]
      rintro c' hc' hname
      exact hcs.1 (List.mem_map.2 ⟨c', hc', hname⟩)
    · exact ih hcs.2 hc

end Assigns

/-! ## Stages -/

/-- A draft after stages: each takes the pending components that satisfy its condition and gives
them new scenes. -/
inductive Stages (settings : LayoutSettings) : Draft → List (Component → Bool) → Draft → Prop where
  | nil (d : Draft) : Stages settings d [] d
  | cons {d d₁ d' : Draft} {wanted : Component → Bool} {ws : List (Component → Bool)}
      (h : Assigns settings (d.take wanted).2 (d.take wanted).1 d₁) (h' : Stages settings d₁ ws d') :
      Stages settings d (wanted :: ws) d'

namespace Stages

variable {settings : LayoutSettings} {d d' d'' : Draft} {ws ws' : List (Component → Bool)}

/-- Stages after stages. -/
theorem append (h : Stages settings d ws d') (h' : Stages settings d' ws' d'') :
    Stages settings d (ws ++ ws') d'' := by
  induction h with
  | nil => exact h'
  | cons hfirst _ ih => exact .cons hfirst (ih h')

theorem single {wanted : Component → Bool}
    (h : Assigns settings (d.take wanted).2 (d.take wanted).1 d') : Stages settings d [wanted] d' :=
  .cons h (.nil d')

/-- The left over scenes stay as they are. -/
theorem orphans (h : Stages settings d ws d') : d'.orphans = d.orphans := by
  induction h with
  | nil => rfl
  | cons hfirst _ ih => exact ih.trans hfirst.orphans

/-- A name is assigned once. -/
theorem nodup (h : Stages settings d ws d') (hd : (d.assigned.map (·.1)).Nodup) :
    (d'.assigned.map (·.1)).Nodup := by
  induction h with
  | nil => exact hd
  | cons hfirst _ ih => exact ih (hfirst.nodup hd)

/-- What is pending when stages are done was pending before, and no stage took it. -/
theorem mem_pending {c : Component} (h : Stages settings d ws d') (hc : c ∈ d'.pending) :
    c ∈ d.pending ∧ ∀ wanted ∈ ws, ¬ wanted c := by
  induction h with
  | nil => exact ⟨hc, by simp⟩
  | cons hfirst _ ih =>
    obtain ⟨hpending, hrest⟩ := ih hc
    rw [hfirst.pending] at hpending
    obtain ⟨hpending, hfirst⟩ := List.mem_filter.1 hpending
    exact ⟨hpending, List.forall_mem_cons.2 ⟨by simpa using hfirst, hrest⟩⟩

/-- Every scene was there before or is a new one of a component that was pending and that some stage
takes. -/
theorem mem_assigned {a : String × PlacedScene} (h : Stages settings d ws d')
    (ha : a ∈ d'.assigned) : a ∈ d.assigned ∨
      ∃ c ∈ d.pending, (∃ wanted ∈ ws, wanted c) ∧ ∃ box label, IsNewLabel settings c label ∧
        a = (c.name, newScene c box label) := by
  induction h with
  | nil => exact .inl ha
  | @cons d d₁ d' wanted ws hfirst _ ih =>
    -- it was there after the first stage, or a later stage added it
    rcases ih ha with ha | ⟨c, hc, ⟨w, hw, hwc⟩, hnew⟩
    · rcases hfirst.mem_assigned ha with ha | ⟨c, hc, hnew⟩
      · exact .inl ha
      · obtain ⟨hpending, hwanted⟩ := List.mem_filter.1 hc
        exact .inr ⟨c, hpending, ⟨wanted, List.mem_cons_self, hwanted⟩, hnew⟩
    · rw [hfirst.pending] at hc
      exact .inr ⟨c, (List.mem_filter.1 hc).1, ⟨w, List.mem_cons_of_mem _ hw, hwc⟩, hnew⟩

/-- So it is when the scenes without a component are counted among them, as no stage touches these. -/
theorem mem_scenes {p : PlacedScene} (h : Stages settings d ws d') (hp : p ∈ d'.scenes) :
    p ∈ d.scenes ∨ ∃ c ∈ d.pending, (∃ wanted ∈ ws, wanted c) ∧
      ∃ box label, IsNewLabel settings c label ∧ p = newScene c box label := by
  rcases List.mem_append.1 hp with hp | hp
  · obtain ⟨a, ha, rfl⟩ := List.mem_map.1 hp
    rcases h.mem_assigned ha with ha | ⟨c, hc, hwanted, box, label, hlabel, rfl⟩
    · exact .inl (List.mem_append_left _ (List.mem_map_of_mem ha))
    · exact .inr ⟨c, hc, hwanted, box, label, hlabel, rfl⟩
  · rw [h.orphans] at hp
    exact .inl (List.mem_append_right _ hp)

/-- A name that no pending component has keeps its scene. -/
theorem scene?_of_forall_ne {name : String} (h : Stages settings d ws d')
    (hname : ∀ c ∈ d.pending, c.name ≠ name) : d'.scene? name = d.scene? name := by
  induction h with
  | nil => rfl
  | cons hfirst _ ih =>
    rw [ih, hfirst.scene?_of_forall_ne fun c hc => hname c (List.mem_filter.1 hc).1]
    · rfl
    · intro c hc
      rw [hfirst.pending] at hc
      exact hname c (List.mem_filter.1 hc).1

/-- A pending component that some stage takes has a new scene in the end. -/
theorem scene?_of_mem {c : Component} (h : Stages settings d ws d')
    (hd : (d.pending.map (·.name)).Nodup) (hc : c ∈ d.pending) (hws : ∃ wanted ∈ ws, wanted c) :
    ∃ box label, IsNewLabel settings c label ∧
      d'.scene? c.name = some (newScene c box label) := by
  induction h with
  | nil => simp at hws
  | @cons d d₁ d' wanted ws hfirst hrest ih =>
    have hpending : d₁.pending = d.pending.filter fun c => !wanted c := hfirst.pending
    by_cases hwanted : wanted c
    · obtain ⟨box, label, hlabel, hscene⟩ := hfirst.scene?_of_mem
        (hd.sublist (List.filter_sublist.map _)) (List.mem_filter.2 ⟨hc, hwanted⟩)
      refine ⟨box, label, hlabel, ?_⟩
      -- the later stages do not touch it, as it is not pending any more
      rw [hrest.scene?_of_forall_ne, hscene]
      rintro c' hc' hname
      rw [hpending, List.mem_filter] at hc'
      obtain rfl : c' = c := List.inj_on_of_nodup_map hd hc'.1 hc hname
      simp [hwanted] at hc'
    · refine ih ?_ ?_ ?_
      · -- the component still waits, and the names that wait are still distinct
        rw [hpending]
        exact hd.sublist (List.filter_sublist.map _)
      · rw [hpending]
        exact List.mem_filter.2 ⟨hc, by simp [hwanted]⟩
      · obtain ⟨w, hw, hwc⟩ := hws
        rcases List.mem_cons.1 hw with rfl | hw
        · exact absurd hwc hwanted
        · exact ⟨w, hw, hwc⟩

end Stages

/-! ## The stages of a layout -/

section

variable {d : Draft} {components : List Component} {settings : LayoutSettings}
  {motive : Draft → Prop}

/-- What holds before a stage for one place, and is kept by each new scene there, holds behind it. -/
theorem placeAt_induction {wanted : Component → Bool} {box : Box} {label : String}
    (h : motive (d.take wanted).2) (hstep : ∀ d c, motive d → motive (d.assign c box label)) :
    motive (d.placeAt wanted box label) :=
  List.foldlRecOn _ _ h fun d hd c _ => hstep d c hd

/-- What holds before the columns of the folders, and is kept by each of them, holds behind them. -/
theorem placeFolders_induction (h : motive d)
    (hstep : ∀ d i f, (folders components)[i]? = some f → motive d →
      motive (d.fillColumn settings (folderLeft settings i) (fun c => c.name ++ " (" ++ f ++ ")")
        (·.category == .folder f))) :
    motive (d.placeFolders components settings) :=
  List.foldlRecOn _ _ h fun d hd f hf => hstep d f.2 f.1 (List.mk_mem_zipIdx_iff_getElem?.1 hf) hd

end

section

variable (d : Draft) (components : List Component) (settings : LayoutSettings)

/-- One box and one label for each component of a list. -/
private theorem assigns_foldl (box : Box) {label : String} {cs : List Component}
    (hlabel : ∀ c ∈ cs, IsNewLabel settings c label) :
    Assigns settings d cs (cs.foldl (fun d c => d.assign c box label) d) := by
  induction cs generalizing d with
  | nil => exact .nil d
  | cons c cs ih =>
    exact .cons box (hlabel c (by simp)) (ih _ fun c hc => hlabel c (by simp [hc]))

/-- Placing at a fixed box is a stage. -/
private theorem stages_placeAt {wanted : Component → Bool} (box : Box) {label : String}
    (hlabel : ∀ c, wanted c → IsNewLabel settings c label) :
    Stages settings d [wanted] (d.placeAt wanted box label) :=
  .single (assigns_foldl _ settings box fun c hc => hlabel c (List.mem_filter.1 hc).2)

/-- Filling a row gives each page its name as label. -/
theorem assigns_fillRow (gaps : List Gap) (next : Int) {pages : List Component}
    (hlabel : ∀ c ∈ pages, IsNewLabel settings c c.name) :
    Assigns settings d pages (d.fillRow settings gaps next pages) := by
  induction pages generalizing d gaps next with
  | nil => exact .nil d
  | cons page pages ih =>
    have hrest := fun c (hc : c ∈ pages) => hlabel c (by simp [hc])
    rw [fillRow]
    split
    · -- a gap is taken, or the row goes on to the right
      exact .cons _ (hlabel page (by simp)) (ih _ _ _ hrest)
    · exact .cons _ (hlabel page (by simp)) (ih _ _ _ hrest)

/-- Placing the pages is a stage, once no anchor is pending. -/
private theorem stages_placePages (hplain : ∀ c ∈ d.pending, ¬ c.IsAnchor) :
    Stages settings d [(·.category == .page)] (d.placePages components settings) := by
  refine .single ?_
  unfold placePages
  split
  rename_i pages rest htake
  rw [htake]
  split
  · rename_i hempty
    rw [List.isEmpty_iff.1 hempty]
    exact .nil _
  · -- there are pages, and they are assigned along the row
    refine assigns_fillRow _ _ _ _ fun c hc => ?_
    have hpages : pages = d.pending.filter (·.category == .page) := (congrArg Prod.fst htake).symm
    obtain ⟨hpending, hpage⟩ := List.mem_filter.1 (hpages ▸ hc)
    exact .name (hplain c hpending) (by simp [eq_of_beq hpage])

/-- A stack of scenes assigns its components in order. -/
private theorem assigns_stack (left : Int) {label : Component → String} (top : Int)
    {cs : List Component} (hlabel : ∀ c ∈ cs, IsNewLabel settings c (label c)) :
    Assigns settings d cs (d.stack settings left label top cs) := by
  induction cs generalizing d top with
  | nil => exact .nil d
  | cons c cs ih => exact .cons _ (hlabel c (by simp)) (ih _ _ fun c hc => hlabel c (by simp [hc]))

/-- Filling a column is a stage. -/
private theorem stages_fillColumn (left : Int) {label : Component → String}
    {wanted : Component → Bool}
    (hlabel : ∀ c ∈ d.pending, wanted c → IsNewLabel settings c (label c)) :
    Stages settings d [wanted] (d.fillColumn settings left label wanted) := by
  refine .single (assigns_stack _ _ _ _ fun c hc => ?_)
  obtain ⟨hpending, hwanted⟩ := List.mem_filter.1 hc
  exact hlabel c hpending hwanted

/-- Each folder has a stage of its own. -/
private theorem stages_placeFolders (hplain : ∀ c ∈ d.pending, ¬ c.IsAnchor) :
    Stages settings d ((folders components).map fun f => (·.category == .folder f))
      (d.placeFolders components settings) := by
  -- by induction on the folders, as the position of a column is counted with them
  have step (fs : List (String × Nat)) (d : Draft) (hplain : ∀ c ∈ d.pending, ¬ c.IsAnchor) :
      Stages settings d (fs.map fun f => (·.category == .folder f.1)) (fs.foldl (fun d f =>
        d.fillColumn settings (folderLeft settings f.2) (fun c => c.name ++ " (" ++ f.1 ++ ")")
          (·.category == .folder f.1)) d) := by
    induction fs generalizing d with
    | nil => exact .nil d
    | cons f fs ih =>
      have hfirst := stages_fillColumn d settings (folderLeft settings f.2) fun c hc
        (hfolder : c.category == .folder f.1) =>
          IsNewLabel.folder (hplain c hc) (eq_of_beq hfolder)
      exact hfirst.append (ih _ fun c hc => hplain c (hfirst.mem_pending hc).1)
  -- a folder is taken with its position, of which the condition knows nothing
  have hstages := step (folders components).zipIdx d hplain
  have hconditions (fs : List (String × Nat)) :
      (fs.map fun f => fun c : Component => c.category == .folder f.1) =
        (fs.map (·.1)).map fun f => (·.category == .folder f) := by
    simp [List.map_map, Function.comp_def]
  rw [hconditions, List.zipIdx_map_fst] at hstages
  exact hstages

/-- A draft in which the anchors and the pages have their scenes. -/
def placeRow : Draft :=
  (d.placeAnchors components settings).placePages components settings

/-- The conditions of the stages of the top row: the anchors and the pages. -/
def rowConditions : List (Component → Bool) :=
  [(·.name == playgroundName), (·.name == appName), (·.category == .page)]

/-- The conditions of all stages: those of the top row, the components of no folder and those of
each folder. -/
def stageConditions : List (Component → Bool) :=
  rowConditions ++ (·.category == .component) ::
    (folders components).map fun f => (·.category == .folder f)

/-- The stages that put scenes into the top row. -/
theorem stages_placeRow :
    Stages settings d rowConditions (d.placeRow components settings) := by
  have hanchors : Stages settings d [(·.name == playgroundName), (·.name == appName)]
      (d.placeAnchors components settings) :=
    (stages_placeAt d settings _ fun c (hc : c.name == playgroundName) =>
      .playground (eq_of_beq hc)).append
    (stages_placeAt _ settings _ fun c (hc : c.name == appName) => .app (eq_of_beq hc))
  apply hanchors.append (stages_placePages _ components settings _)
  -- the pages are placed when no anchor is pending any more
  intro c hc hanchor
  have htaken := (hanchors.mem_pending hc).2
  cases hanchor with
  | inl hname => exact htaken (·.name == playgroundName) (by simp) (by simpa using hname)
  | inr hname => exact htaken (·.name == appName) (by simp) (by simpa using hname)

variable {d components settings} in
/-- What is pending behind them belongs into a column. -/
theorem mem_pending_placeRow {c : Component} (hc : c ∈ (d.placeRow components settings).pending) :
    c ∈ d.pending ∧ ¬ c.IsAnchor ∧ c.category ≠ .page := by
  obtain ⟨hpending, htaken⟩ := (stages_placeRow d components settings).mem_pending hc
  refine ⟨hpending, fun hanchor => ?_, fun hpage => ?_⟩
  · cases hanchor with
    | inl hname =>
      exact htaken (·.name == playgroundName) (by simp [rowConditions]) (by simpa using hname)
    | inr hname => exact htaken (·.name == appName) (by simp [rowConditions]) (by simpa using hname)
  · exact htaken (·.category == .page) (by simp [rowConditions]) (by simpa using hpage)

/-- The stages that put scenes into columns. -/
theorem stages_placeColumns (hplain : ∀ c ∈ d.pending, ¬ c.IsAnchor) :
    Stages settings d ((·.category == .component) ::
      (folders components).map fun f => (·.category == .folder f))
      ((d.placeComponents settings).placeFolders components settings) := by
  have hcolumn := stages_fillColumn d settings settings.componentColumnLeft fun c hc
    (hcategory : c.category == .component) =>
      IsNewLabel.name (hplain c hc) (by simp [eq_of_beq hcategory])
  have hfolders := stages_placeFolders _ components settings fun c hc =>
    hplain c (hcolumn.mem_pending hc).1
  exact hcolumn.append hfolders

/-- All stages together: the top row, and then the columns. -/
theorem stages_placeAll :
    Stages settings d (stageConditions components) (d.placeAll components settings) := by
  have hrow := stages_placeRow d components settings
  exact hrow.append (stages_placeColumns _ components settings fun c hc =>
    (mem_pending_placeRow hc).2.1)

variable {components}

/-- The stages take every component. -/
theorem exists_stageCondition {c : Component} (hc : c ∈ components) :
    ∃ wanted ∈ stageConditions components, wanted c := by
  cases hcategory : c.category with
  -- every category has its stage
  | component =>
    exact ⟨fun c => c.category == .component, by simp [stageConditions], by simp [hcategory]⟩
  | page =>
    exact ⟨fun c => c.category == .page, by simp [stageConditions, rowConditions],
      by simp [hcategory]⟩
  | folder f =>
    have hf : f ∈ folders components := by
      rw [folders, mem_distinct, List.mem_filterMap]
      exact ⟨c, hc, by rw [hcategory]⟩
    refine ⟨fun c => c.category == .folder f, ?_, by simp [hcategory]⟩
    exact List.mem_append_right _ (List.mem_cons_of_mem _ (List.mem_map.2 ⟨f, hf, rfl⟩))

end

/-! ## The draft of a plan -/

/-- What is found is there. -/
theorem mem_of_lookup {α β : Type} [BEq α] [LawfulBEq α] {l : List (α × β)} {k : α} {v : β}
    (h : l.lookup k = some v) : (k, v) ∈ l := by
  obtain ⟨l₁, l₂, hl, -⟩ := List.lookup_eq_some_iff.1 h
  rw [hl]
  exact List.mem_append_right l₁ List.mem_cons_self

/-- With distinct keys every entry is found. -/
theorem lookup_of_mem {α β : Type} [DecidableEq α] {l : List (α × β)} {k : α} {v : β}
    (hl : (l.map (·.1)).Nodup) (h : (k, v) ∈ l) : l.lookup k = some v := by
  induction l with
  | nil => simp at h
  | cons a l ih =>
    rw [List.map_cons, List.nodup_cons] at hl
    rcases List.mem_cons.1 h with rfl | h
    · simp
    · -- the key occurs further on, and so it is not the first one
      have hne : k ≠ a.1 := by
        rintro rfl
        exact hl.1 (List.mem_map.2 ⟨_, h, rfl⟩)
      rw [List.lookup_cons, beq_false_of_ne hne]
      exact ih hl.2 h

/-- The scene of a name is one of the scenes of the draft. -/
theorem mem_scenes_of_scene? {d : Draft} {name : String} {p : PlacedScene}
    (h : d.scene? name = some p) : p ∈ d.scenes :=
  List.mem_append_left _ (List.mem_map.2 ⟨(name, p), mem_of_lookup h, rfl⟩)

/-- The scenes of a draft, in the order of their names. -/
theorem perm_assigned_filterMap {d : Draft} {names : List String}
    (hd : (d.assigned.map (·.1)).Nodup) (hnames : names.Nodup)
    (hkeys : ∀ a ∈ d.assigned, a.1 ∈ names) :
    d.assigned.Perm (names.filterMap fun name => (d.scene? name).map fun p => (name, p)) := by
  have hsorted : (names.filterMap fun name => (d.scene? name).map fun p => (name, p)).Nodup := by
    refine List.pairwise_filterMap.2 (hnames.imp fun hne a ha a' ha' heq => hne ?_)
    obtain ⟨p, -, rfl⟩ := Option.map_eq_some_iff.1 ha
    obtain ⟨p', -, rfl⟩ := Option.map_eq_some_iff.1 ha'
    exact congrArg Prod.fst heq
  -- without duplicates it is enough to have the same members
  rw [List.perm_ext_iff_of_nodup (List.Nodup.of_map _ hd) hsorted]
  rintro ⟨name, p⟩
  simp only [List.mem_filterMap, Option.map_eq_some_iff, Prod.mk.injEq]
  constructor
  · intro h
    exact ⟨name, hkeys _ h, p, lookup_of_mem hd h, rfl, rfl⟩
  · rintro ⟨_, -, _, hp, rfl, rfl⟩
    exact mem_of_lookup hp

/-- The scenes of a draft that has one under each name of a component and no others. -/
theorem perm_assigned {d : Draft} {components : List Component} {f : Component → PlacedScene}
    (hd : (d.assigned.map (·.1)).Nodup) (hnames : (components.map (·.name)).Nodup)
    (hscene : ∀ c ∈ components, d.scene? c.name = some (f c))
    (hother : ∀ name, (∀ c ∈ components, c.name ≠ name) → d.scene? name = none) :
    d.assigned.Perm (components.map fun c => (c.name, f c)) := by
  -- every assigned name is one of a component, as the others have no scene
  have hkeys : ∀ a ∈ d.assigned, a.1 ∈ components.map (·.name) := by
    intro a ha
    by_contra hname
    have hnone := hother a.1 fun c hc heq => hname (List.mem_map.2 ⟨c, hc, heq⟩)
    rw [scene?, lookup_of_mem hd ha] at hnone
    simp at hnone
  refine (perm_assigned_filterMap hd hnames hkeys).trans (List.Perm.of_eq ?_)
  rw [List.filterMap_map, ← List.filterMap_eq_map']
  refine List.filterMap_congr fun c hc => ?_
  rw [Function.comp_apply, hscene c hc, Option.map_some]

/-- An entry was there, or it was put. -/
private theorem mem_foldl_put {bs : List BoundScene} {as : List (String × PlacedScene)}
    {f : BoundScene → PlacedScene} {a : String × PlacedScene}
    (h : a ∈ bs.foldl (fun as b => put as b.component (f b)) as) :
    a ∈ as ∨ ∃ b ∈ bs, a = (b.component, f b) := by
  induction bs generalizing as with
  | nil => exact .inl h
  | cons b bs ih =>
    rcases ih h with h | ⟨b', hb', ha⟩
    · rcases mem_put h with h | rfl
      · exact .inl h
      · exact .inr ⟨b, by simp, rfl⟩
    · exact .inr ⟨b', by simp [hb'], ha⟩

/-- New names are put at the end, in order. -/
theorem foldl_put (bs : List BoundScene) (as : List (String × PlacedScene))
    (f : BoundScene → PlacedScene) (hbs : (as.map (·.1) ++ bs.map (·.component)).Nodup) :
    bs.foldl (fun as b => put as b.component (f b)) as =
      as ++ bs.map fun b => (b.component, f b) := by
  induction bs generalizing as with
  | nil => simp
  | cons b bs ih =>
    -- a new key replaces nothing
    have hb : as.filter (·.1 != b.component) = as := by
      rw [List.filter_eq_self]
      intro a ha
      simp only [bne_iff_ne]
      exact (List.nodup_append.1 hbs).2.2 _ (List.mem_map.2 ⟨a, ha, rfl⟩) _ (by simp)
    rw [List.foldl_cons, put, hb, ih]
    · simp
    · simpa using hbs

/-- The component of a name, where no other has it. -/
theorem named?_eq {components : List Component} {c : Component}
    (hnames : (components.map (·.name)).Nodup) (hc : c ∈ components) :
    Component.named? components c.name = some c := by
  rw [Component.named?]
  cases h : components.reverse.find? (·.name == c.name) with
  | none => simpa using List.find?_eq_none.1 h c (by simpa using hc)
  | some c' =>
    have hmem := List.mem_of_find?_eq_some h
    have hname : c'.name = c.name := by simpa using List.find?_some h
    -- two components of one name are one component
    rw [List.inj_on_of_nodup_map hnames (by simpa using hmem) hc hname]

section

variable {plan : Plan} {components : List Component}

theorem nodup_ofPlan (plan : Plan) (components : List Component) :
    ((ofPlan plan components).assigned.map (·.1)).Nodup :=
  nodup_foldl_put _ .nil

/-- The scenes with which a draft begins are those that components keep. -/
theorem exists_of_mem_assigned_ofPlan {a : String × PlacedScene}
    (h : a ∈ (ofPlan plan components).assigned) :
    ∃ b ∈ plan.kept, a = (b.component, ⟨b.scene, .kept b.component b.scene.box⟩) := by
  rcases mem_foldl_put h with h | h
  · simp at h
  · exact h

/-- All scenes of that draft were there before, and stand where they stood. -/
theorem mem_scenes_ofPlan {p : PlacedScene} (hp : p ∈ (ofPlan plan components).scenes) :
    (∃ b ∈ plan.kept, p = ⟨b.scene, .kept b.component b.scene.box⟩) ∨
      ∃ s ∈ plan.retained, p = ⟨s, .retained s.box⟩ := by
  rcases List.mem_append.1 hp with hp | hp
  · obtain ⟨a, ha, rfl⟩ := List.mem_map.1 hp
    obtain ⟨b, hb, rfl⟩ := exists_of_mem_assigned_ofPlan ha
    exact .inl ⟨b, hb, rfl⟩
  · obtain ⟨s, hs, rfl⟩ := List.mem_map.1 hp
    exact .inr ⟨s, hs, rfl⟩

/-- If no component keeps two scenes, none is replaced by another one. -/
theorem assigned_ofPlan (hkept : (plan.kept.map (·.component)).Nodup) :
    (ofPlan plan components).assigned =
      plan.kept.map fun b => (b.component, ⟨b.scene, .kept b.component b.scene.box⟩) := by
  rw [ofPlan, foldl_put, List.nil_append]
  exact hkept

/-- What is pending is a component. -/
theorem mem_of_mem_pending {c : Component} (h : c ∈ (ofPlan plan components).pending) :
    c ∈ components := by
  obtain ⟨name, -, hname⟩ := List.mem_filterMap.1 h
  exact List.mem_reverse.1 (List.mem_of_find?_eq_some hname)

/-- If scenes are kept for components only, there are scenes under no other names in the end. -/
theorem mem_names_of_mem_placeAll {settings : LayoutSettings}
    (hkept : plan.kept.map (·.component) ⊆ components.map (·.name)) {a : String × PlacedScene}
    (ha : a ∈ ((ofPlan plan components).placeAll components settings).assigned) :
    a.1 ∈ components.map (·.name) := by
  rcases (stages_placeAll _ components settings).mem_assigned ha with ha | ⟨c, hc, -, -, -, -, rfl⟩
  · obtain ⟨b, hb, rfl⟩ := exists_of_mem_assigned_ofPlan ha
    exact hkept (List.mem_map_of_mem hb)
  · exact List.mem_map_of_mem (mem_of_mem_pending hc)

/-! ## Plans that cover the components -/

variable (settings : LayoutSettings) (hnames : (components.map (·.name)).Nodup)
  (hplan : plan.Covers components)

include hnames hplan

/-- The draft of a plan begins with the scenes that components keep. -/
theorem assigned_ofPlan_eq : (ofPlan plan components).assigned =
    plan.kept.map fun b => (b.component, ⟨b.scene, .kept b.component b.scene.box⟩) :=
  assigned_ofPlan (List.nodup_append.1 (hplan.nodup hnames)).1

/-- What is pending in a plan is pending in its draft, in the order of the plan. -/
theorem map_name_pending : (ofPlan plan components).pending.map (·.name) = plan.pending := by
  rw [ofPlan, List.map_filterMap]
  refine (List.filterMap_congr fun name hname => ?_).trans List.filterMap_some
  obtain ⟨c, hc, rfl⟩ := List.mem_map.1 (hplan.subset (List.mem_append_right _ hname))
  rw [named?_eq hnames hc, Option.map_some]

/-- A component is pending in the draft if it is in the plan. -/
theorem mem_pending_iff {c : Component} (hc : c ∈ components) :
    c ∈ (ofPlan plan components).pending ↔ c.name ∈ plan.pending := by
  rw [← map_name_pending hnames hplan, List.mem_map]
  constructor
  · exact fun hpending => ⟨c, hpending, rfl⟩
  · rintro ⟨c', hc', hname⟩
    exact List.inj_on_of_nodup_map hnames (mem_of_mem_pending hc') hc hname ▸ hc'

theorem nodup_pending : ((ofPlan plan components).pending.map (·.name)).Nodup := by
  rw [map_name_pending hnames hplan]
  exact (List.nodup_append.1 (hplan.nodup hnames)).2.1

/-- A kept scene is placed as it is. -/
theorem scene?_placeAll_of_kept {b : BoundScene} (hb : b ∈ plan.kept) :
    ((ofPlan plan components).placeAll components settings).scene? b.component =
      some ⟨b.scene, .kept b.component b.scene.box⟩ := by
  have hnodup := List.nodup_append.1 (hplan.nodup hnames)
  -- no pending component has this name, so the stages leave its scene alone
  rw [(stages_placeAll _ components settings).scene?_of_forall_ne]
  · apply lookup_of_mem (nodup_ofPlan plan components)
    rw [assigned_ofPlan_eq hnames hplan]
    exact List.mem_map.2 ⟨b, hb, rfl⟩
  · intro c hc
    have hname : c.name ∈ plan.pending := by
      rw [← map_name_pending hnames hplan]
      exact List.mem_map_of_mem hc
    exact (hnodup.2.2 _ (List.mem_map_of_mem hb) _ hname).symm

/-- A component that is pending has a new scene. -/
theorem scene?_placeAll_of_pending {c : Component} (hc : c ∈ components)
    (hpending : c.name ∈ plan.pending) : ∃ box label, IsNewLabel settings c label ∧
      ((ofPlan plan components).placeAll components settings).scene? c.name =
        some (newScene c box label) := by
  exact (stages_placeAll _ components settings).scene?_of_mem (nodup_pending hnames hplan)
    ((mem_pending_iff hnames hplan hc).2 hpending) (exists_stageCondition hc)

end

/-! ## When all stages are done -/

section

variable {components : List Component} {prior : Storyboard} {options : ReconcileOptions}
  {c : Component} (settings : LayoutSettings)

open Plan

/-- The draft of a plan with a scene for every component. -/
def placed (components : List Component) (prior : Storyboard) (options : ReconcileOptions)
    (settings : LayoutSettings) : Draft :=
  (ofPlan (reconcile components prior options) components).placeAll components settings

/-- The left over scenes of the layout are those of the plan. -/
theorem orphans_placed : (placed components prior options settings).orphans =
    (reconcile components prior options).retained.map fun s => ⟨s, .retained s.box⟩ :=
  (stages_placeAll _ components settings).orphans

/-- Every scene of a component is one that it keeps or a new one. -/
theorem mem_assigned_placed {a : String × PlacedScene}
    (h : a ∈ (placed components prior options settings).assigned) :
    (∃ b ∈ (reconcile components prior options).kept,
      a = (b.component, ⟨b.scene, .kept b.component b.scene.box⟩)) ∨
    ∃ c ∈ components, ∃ box label, IsNewLabel settings c label ∧
      a = (c.name, newScene c box label) := by
  rcases (stages_placeAll _ components settings).mem_assigned h with h | ⟨c, hc, -, hnew⟩
  · exact .inl (exists_of_mem_assigned_ofPlan h)
  · exact .inr ⟨c, mem_of_mem_pending hc, hnew⟩

/-- Scenes are only under names of components. -/
theorem mem_names_of_mem_placed {a : String × PlacedScene}
    (h : a ∈ (placed components prior options settings).assigned) :
    a.1 ∈ components.map (·.name) := by
  refine mem_names_of_mem_placeAll (fun name hname => ?_) h
  obtain ⟨b, hb, rfl⟩ := List.mem_map.1 hname
  obtain ⟨c, hc, -, -, -, hname, -⟩ := exists_of_mem_kept hb
  exact List.mem_map.2 ⟨c, hc, hname.symm⟩

theorem nodup_placed : ((placed components prior options settings).assigned.map (·.1)).Nodup :=
  (stages_placeAll _ components settings).nodup (nodup_ofPlan _ _)

/-- There are no scenes under other names. -/
theorem scene?_placed_of_forall_ne {name : String} (hname : ∀ c ∈ components, c.name ≠ name) :
    (placed components prior options settings).scene? name = none := by
  rw [scene?, List.lookup_eq_none_iff]
  intro a ha
  obtain ⟨c, hc, heq⟩ := List.mem_map.1 (mem_names_of_mem_placed settings ha)
  rw [bne_iff_ne, ← heq]
  exact (hname c hc).symm

section

variable {f : Component → Option Scene} (hnames : (components.map (·.name)).Nodup)
  (hplan : (reconcile components prior options).IsSplitBy components f)

include hnames hplan

/-- A component that keeps a scene has it, where it was. -/
theorem scene?_placed_of_some {s : Scene} (hc : c ∈ components) (hs : f c = some s) :
    (placed components prior options settings).scene? c.name = some ⟨s, .kept c.name s.box⟩ :=
  scene?_placeAll_of_kept settings hnames hplan.covers (hplan.mem_kept hc hs)

/-- Any other component has a new scene. -/
theorem scene?_placed_of_none (hc : c ∈ components) (hs : f c = none) :
    ∃ box label, IsNewLabel settings c label ∧
      (placed components prior options settings).scene? c.name = some (newScene c box label) :=
  scene?_placeAll_of_pending settings hnames hplan.covers hc
    ((hplan.mem_pending_iff hnames hc).2 hs)

end

end

end Draft

end SceneBoard
