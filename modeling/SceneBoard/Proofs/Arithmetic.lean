import SceneBoard.Layout

/-!
# Placing scenes with a given arithmetic

A layout is defined over whole numbers; a program that places scenes has numbers of 64 bits. It adds
and multiplies them in two ways: plain operations, which must not leave the 64 bits, and clamped ones
(`Pixels.add`, `Pixels.sub`). An `Arithmetic` says what the operations do and `Layout.placeWith` is
the placing of scenes operation by operation: every number is worked out by the arithmetic, in the
order in which the program does it, all gaps of a row among them, and a number without a result
leaves the layout without one.

Three arithmetics matter. `machine` is that of the program, where a plain operation that leaves the
64 bits or divides by zero has no result. `strict` has none where a clamped operation would have to
clamp either, so a layout that it has is one for which nothing overflows and nothing is clamped.
`unbounded` is that of whole numbers. Each of them is exact where a result fits (`IsExact`).
-/

namespace SceneBoard

/-- The operations on numbers of pixels by which scenes are placed. -/
structure Arithmetic where
  add : Int → Int → Option Int
  mul : Int → Int → Option Int
  div : Int → Int → Option Int
  addClamped : Int → Int → Option Int
  subClamped : Int → Int → Option Int

namespace Arithmetic

open Draft

/-- Whole numbers. -/
def unbounded : Arithmetic where
  add a b := some (a + b)
  mul a b := some (a * b)
  div a b := if b = 0 then none else some (a.tdiv b)
  addClamped a b := some (a + b)
  subClamped a b := some (a - b)

/-- Numbers of 64 bits. -/
def machine : Arithmetic where
  add a b := Pixels.check? (a + b)
  mul a b := Pixels.check? (a * b)
  div a b := if b = 0 then none else Pixels.check? (a.tdiv b)
  addClamped a b := some (Pixels.add a b)
  subClamped a b := some (Pixels.sub a b)

/-- Numbers of 64 bits, of which none may be clamped. -/
def strict : Arithmetic where
  add a b := Pixels.check? (a + b)
  mul a b := Pixels.check? (a * b)
  div a b := if b = 0 then none else Pixels.check? (a.tdiv b)
  addClamped a b := Pixels.check? (a + b)
  subClamped a b := Pixels.check? (a - b)

/-- What fits in 64 bits is worked out as it is. -/
structure IsExact (A : Arithmetic) : Prop where
  add {a b : Int} : Pixels.Fits (a + b) → A.add a b = some (a + b)
  mul {a b : Int} : Pixels.Fits (a * b) → A.mul a b = some (a * b)
  div {a b : Int} : b ≠ 0 → Pixels.Fits (a.tdiv b) → A.div a b = some (a.tdiv b)
  addClamped {a b : Int} : Pixels.Fits (a + b) → A.addClamped a b = some (a + b)
  subClamped {a b : Int} : Pixels.Fits (a - b) → A.subClamped a b = some (a - b)

/-- Integers without bounds are exact. -/
theorem isExact_unbounded : unbounded.IsExact where
  add _ := rfl
  mul _ := rfl
  div hb _ := if_neg hb
  addClamped _ := rfl
  subClamped _ := rfl

/-- What fits is computed exactly, by operations that refuse what does not fit. -/
theorem isExact_strict : strict.IsExact where
  add h := if_pos h
  mul h := if_pos h
  div hb h := (if_neg hb).trans (if_pos h)
  addClamped h := if_pos h
  subClamped h := if_pos h

/-- What fits is computed exactly, by the operations of the machine. -/
theorem isExact_machine : machine.IsExact where
  add h := if_pos h
  mul h := if_pos h
  div hb h := (if_neg hb).trans (if_pos h)
  addClamped h := congrArg some (Pixels.add_eq h)
  subClamped h := congrArg some (Pixels.sub_eq h)

variable (A : Arithmetic) (settings : LayoutSettings)

/-! ## Pages -/

/-- A width fits into a gap. -/
def fits (g : Gap) (width : Int) : Option Bool := do
  let right ← A.add g.left width
  let free ← A.add right settings.gapMargin
  return free ≤ g.stop

/-- The gaps behind a place, at the given numbers of steps. -/
def gapsAt (start stop : Int) : List Nat → Option (List Gap)
  | [] => some []
  | j :: js => do
    let steps ← A.add j 1
    let distance ← A.mul settings.spacing steps
    let left ← A.add start distance
    let fits ← A.fits settings ⟨left, stop⟩ settings.defaultScene.width
    let gaps ← gapsAt start stop js
    return if fits then ⟨left, stop⟩ :: gaps else gaps

/-- The gaps between two places of the row. -/
def gapsBetween (start stop : Int) : Option (List Gap) := do
  let width ← A.subClamped stop start
  if width < settings.spacing then
    return []
  else
    let count ← A.div width settings.spacing
    A.gapsAt settings start stop (List.range count.toNat)

/-- The gaps between all places of the row and those behind them. -/
def gapsAlong : List Int → Option (List Gap)
  | start :: stop :: places => do
    let first ← A.gapsBetween settings start stop
    let others ← gapsAlong (stop :: places)
    return first ++ others
  | _ => some []

/-- The gaps of a row whose scenes stand at the given places. -/
def gaps (places : List Int) : Option (List Gap) :=
  if settings.spacing ≤ 0 then some [] else A.gapsAlong settings places

/-- The first gap into which a width fits, and the gaps without it. -/
def takeGap (width : Int) : List Gap → Option (Option Gap × List Gap)
  | [] => some (none, [])
  | g :: gs => do
    -- the gaps behind the first that fits are not looked at
    if ← A.fits settings g width then
      return (some g, gs)
    else
      let (found, others) ← takeGap width gs
      return (found, g :: others)

/-- Give pages new scenes in the gaps, or from `next` on where none fits. -/
def fillRow (d : Draft) : List Gap → Int → List Component → Option Draft
  | _, _, [] => some d
  | gaps, next, page :: pages => do
    let size := page.sceneSize settings
    let (found, others) ← A.takeGap settings size.width gaps
    match found with
    | some gap => fillRow (d.assign page ⟨size, gap.left, settings.topRow⟩ page.name) others next pages
    | none =>
      let behind ← A.addClamped next settings.spacing
      fillRow (d.assign page ⟨size, next, settings.topRow⟩ page.name) others behind pages

/-- Place the pages. -/
def placePages (d : Draft) (components : List Component) : Option Draft :=
  let (pages, rest) := d.take (·.category == .page)
  if pages.isEmpty then some rest
  else do
    let places := rest.rowPlaces components settings
    let gaps ← A.gaps settings places
    let next ← A.addClamped (places.getLast?.getD 0) settings.spacing
    A.fillRow settings rest gaps next pages

/-! ## Columns -/

/-- The first top that is free below a box. -/
def below (b : Box) : Option Int := do
  let bottom ← A.addClamped b.top b.size.height
  A.addClamped bottom settings.verticalSpacing

/-- The first free top of a column. -/
def columnTop (d : Draft) (left : Int) : Option Int :=
  d.scenes.foldlM (fun top p => do
    let b := p.scene.box
    if b.left = left ∧ settings.componentColumnTop ≤ b.top then
      return max top (← A.below settings b)
    else
      return top) settings.componentColumnTop

/-- Give components new scenes one below the other, the first at `top`. -/
def stack (d : Draft) (left : Int) (label : Component → String) :
    Int → List Component → Option Draft
  | _, [] => some d
  | top, c :: cs => do
    let box : Box := ⟨c.sceneSize settings, left, top⟩
    let next ← A.below settings box
    stack (d.assign c box (label c)) left label next cs

/-- Give the pending components that satisfy a condition new scenes in a column, of which the left
edge is worked out if there are any. -/
def fillColumn (d : Draft) (left : Option Int) (label : Component → String)
    (wanted : Component → Bool) : Option Draft :=
  let (column, rest) := d.take wanted
  if column.isEmpty then some rest
  else do
    let left ← left
    let top ← A.columnTop settings rest left
    A.stack settings rest left label top column

/-- The left edge of the column of a folder. -/
def folderLeft (index : Nat) : Option Int := do
  let distance ← A.mul index settings.columnSpacing
  A.add settings.folderColumnLeft distance

/-- Place the components of folders. -/
def placeFolders (d : Draft) (components : List Component) : Option Draft :=
  (folders components).zipIdx.foldlM
    (fun d f => A.fillColumn settings d (A.folderLeft settings f.2)
      (fun c => c.name ++ " (" ++ f.1 ++ ")") (·.category == .folder f.1)) d

/-! ## Closing up -/

/-- Where entries go that stand one spacing from each other, the first at `cursor`. -/
def follow : Int → List RowEntry → Option (List (Slot × Int))
  | _, [] => some []
  | cursor, e :: es => do
    -- this is done for the last entry too
    let next ← A.add cursor settings.spacing
    let others ← follow next es
    return (e.slot, cursor) :: others

/-- A place behind an anchor, if there is that anchor. -/
def behind (hasAnchor : Bool) (place cursor : Int) : Option Int :=
  if hasAnchor then A.add place settings.spacing else some cursor

/-- Where the scenes of a row go when it is closed up. -/
def targets (row : List RowEntry) : Option (List (Slot × Int)) := do
  let playground := row.find? (·.kind == .playground)
  let app := row.find? (·.kind == .app)
  let appPlace := appPlace settings playground.isSome
  -- the place behind the playground is worked out also where the application decides
  let cursor ← A.behind settings playground.isSome settings.playgroundLeft settings.playgroundLeft
  let cursor ← A.behind settings app.isSome appPlace cursor
  let plain ← A.follow settings cursor (row.filter (·.kind == .plain))
  return playground.toList.map (fun e => (e.slot, settings.playgroundLeft)) ++
    app.toList.map (fun e => (e.slot, appPlace)) ++ plain

end Arithmetic

/-! ## Layouts -/

/-- The draft with its scenes where the goals say. -/
def Draft.moveBy (d : Draft) (goals : List (Slot × Int)) : Draft :=
  let move (slot : Slot) (p : PlacedScene) : PlacedScene :=
    match goals.lookup slot with
    | some left => moveTo p left
    | none => p
  { d with
    assigned := d.assigned.map fun a => (a.1, move (.live a.1) a.2)
    orphans := d.orphans.zipIdx.map fun o => move (.orphan o.2) o.1 }

/-- The layout of a draft without pending components, of which the row is closed up by the goals. -/
def Draft.finish (d : Draft) (goals : List (Slot × Int)) (components : List Component)
    (settings : LayoutSettings) : Layout :=
  let scenes := distinctIds ((d.moveBy goals).inOrder components)
  { scenes
    relocations := scenes.filterMap (·.relocation?)
    repositioned := ((d.row components settings).filter fun e =>
      (goals.lookup e.slot).any (· != e.left)).length }

/-- The layout of a plan, worked out by an arithmetic. -/
def Layout.placeWith (A : Arithmetic) (plan : Plan) (components : List Component)
    (settings : LayoutSettings) : Option Layout := do
  let d := (Draft.ofPlan plan components).placeAnchors components settings
  let d ← A.placePages settings d components
  let d ← A.fillColumn settings d (some settings.componentColumnLeft) (·.name)
    (·.category == .component)
  let d ← A.placeFolders settings d components
  let goals ← A.targets settings (d.row components settings)
  return d.finish goals components settings

/-- A layout is that of its last draft, closed up by the goals of its row. -/
theorem Layout.place_eq (plan : Plan) (components : List Component) (settings : LayoutSettings) :
    let d := (Draft.ofPlan plan components).placeAll components settings
    Layout.place plan components settings =
      d.finish (Draft.targets settings (d.row components settings)) components settings :=
  rfl

end SceneBoard
