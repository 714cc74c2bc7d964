import SceneBoard.Layout.Draft

/-! # The top row

Pages stand side by side in the top row. A new page fills the first gap between scenes that is wide
enough, and otherwise goes to the end of the row. The playground and the application have places of
their own at its beginning. When everything is placed the row is closed up: the two anchors go to
their places, and the other scenes follow at one spacing from each other, in their order from left
to right.
-/

namespace SceneBoard

/-- The name of the component that holds the playground. -/
def playgroundName : String := "Playground"

/-- The name of the component that holds the application. -/
def appName : String := "App"

namespace Draft

/-! ## Anchors -/

/-- Give components new scenes of one box and label. -/
def placeAt (d : Draft) (wanted : Component → Bool) (box : Box) (label : String) : Draft :=
  let (components, rest) := d.take wanted
  components.foldl (fun d c => d.assign c box label) rest

/-- Where the application stands. -/
def appPlace (settings : LayoutSettings) (hasPlayground : Bool) : Int :=
  if hasPlayground then settings.appLeft else settings.playgroundLeft

/-- Place the playground and the application. -/
def placeAnchors (d : Draft) (components : List Component) (settings : LayoutSettings) : Draft :=
  let hasPlayground := components.any (·.name == playgroundName)
  let d := d.placeAt (·.name == playgroundName)
    ⟨settings.playgroundSize, settings.playgroundLeft, settings.topRow⟩ playgroundName
  d.placeAt (·.name == appName)
    ⟨settings.appSize, appPlace settings hasPlayground, settings.topRow⟩ settings.appLabel

/-! ## Pages -/

/-- A free place between two scenes of the row: its left edge and that of the scene behind it. -/
structure Gap where
  left : Int
  stop : Int
  deriving DecidableEq

/-- A width fits into a gap. -/
def Gap.fits (g : Gap) (settings : LayoutSettings) (width : Int) : Bool :=
  g.left + width + settings.gapMargin ≤ g.stop

/-- Insert a number into an ascending list without repetitions. -/
def insertAscending (n : Int) : List Int → List Int
  | [] => [n]
  | m :: ms => if n < m then n :: m :: ms else if n = m then m :: ms else m :: insertAscending n ms

/-- The numbers of a list in ascending order, without repetitions. -/
def ascending (ns : List Int) : List Int :=
  ns.foldl (fun sorted n => insertAscending n sorted) []

/-- The first gaps, up to `count` of them, between two places of the row: at every spacing from the
first place, if a scene of the default width fits there. -/
def gapsBetween (settings : LayoutSettings) (count : Nat) (start stop : Int) : List Gap :=
  let width := Pixels.sub stop start
  if width < settings.spacing then []
  -- the first candidate is one spacing behind the scene at `start`, which is taken
  else ((List.range (min count (width / settings.spacing).toNat)).map fun (j : Nat) =>
      (⟨start + settings.spacing * (j + 1), stop⟩ : Gap)).filter
    (·.fits settings settings.defaultScene.width)

/-- The gaps for `count` pages in a row whose scenes stand at the given places, which ascend. Between
two places more than `count` gaps are not needed: each is wider than those behind it, so they are
filled in their order. -/
def gaps (settings : LayoutSettings) (count : Nat) (places : List Int) : List Gap :=
  if settings.spacing ≤ 0 then []
  else (places.zip places.tail).flatMap fun p => gapsBetween settings count p.1 p.2

/-- Give pages new scenes in the gaps, or from `next` on where none fits. -/
def fillRow (d : Draft) (settings : LayoutSettings) : List Gap → Int → List Component → Draft
  | _, _, [] => d
  | gaps, next, page :: pages =>
    let size := page.sceneSize settings
    match gaps.find? (·.fits settings size.width) with
    -- a gap holds one page only, whatever is left of its width
    | some gap =>
      (d.assign page ⟨size, gap.left, settings.topRow⟩ page.name).fillRow settings
        (gaps.eraseP (·.fits settings size.width)) next pages
    | none =>
      (d.assign page ⟨size, next, settings.topRow⟩ page.name).fillRow settings gaps
        (Pixels.add next settings.spacing) pages

/-- The places at which scenes of the top row stand, from left to right. -/
def rowPlaces (d : Draft) (components : List Component) (settings : LayoutSettings) : List Int :=
  ascending ((d.scenes.filter (inTopRow components settings)).map (·.scene.box.left))

/-- Place the pages. -/
def placePages (d : Draft) (components : List Component) (settings : LayoutSettings) : Draft :=
  let (pages, rest) := d.take (·.category == .page)
  if pages.isEmpty then rest
  else
    -- an empty row ends at the origin
    let places := rest.rowPlaces components settings
    let next := Pixels.add (places.getLast?.getD 0) settings.spacing
    rest.fillRow settings (gaps settings pages.length places) next pages

/-! ## Closing up -/

/-- A scene of a draft: that of a component, or one of the orphans. -/
inductive Slot where
  | live (name : String)
  | orphan (index : Nat)
  deriving DecidableEq

/-- Which anchor a scene of the top row is, if any. -/
inductive RowKind where
  | playground
  | app
  | plain
  deriving DecidableEq

/-- The playground and the application are known by their component or by their label. -/
def rowKind (settings : LayoutSettings) (p : PlacedScene) : RowKind :=
  let component := p.origin.component?
  let label := p.scene.label
  if component = some playgroundName ∨ label = playgroundName then .playground
  else if component = some appName ∨ label = appName ∨ label = settings.appLabel then .app
  else .plain

/-- A scene of the top row, with what decides its order in the row: its left edge and, among equal
ones, its rank. -/
structure RowEntry where
  slot : Slot
  kind : RowKind
  left : Int
  rank : Nat

/-- The entry does not come after another one. -/
def RowEntry.le (a b : RowEntry) : Bool :=
  a.left < b.left || (a.left == b.left && a.rank ≤ b.rank)

/-- The position of the last component of a name; behind everything else if there is none. -/
def rankOf (components : List Component) (orphans : Nat) (name : String) : Nat :=
  match components.reverse.findIdx? (·.name == name) with
  | some i => components.length - 1 - i
  | none => components.length + orphans

/-- The scenes of the top row from left to right. Of scenes at one place, those of components come
first, in the order of the components, and then the orphans in theirs. -/
def row (d : Draft) (components : List Component) (settings : LayoutSettings) : List RowEntry :=
  let entry (slot : Slot) (rank : Nat) (p : PlacedScene) : Option RowEntry :=
    if inTopRow components settings p then
      some ⟨slot, rowKind settings p, p.scene.box.left, rank⟩
    else none
  -- ranks decide ties, so the order in which scenes were assigned does not show
  let live := d.assigned.filterMap fun a =>
    entry (.live a.1) (rankOf components d.orphans.length a.1) a.2
  let orphans := d.orphans.zipIdx.filterMap fun o =>
    entry (.orphan o.2) (components.length + o.2) o.1
  (live ++ orphans).mergeSort RowEntry.le

/-- Where a closed-up row begins behind its anchors. -/
def rowBase (settings : LayoutSettings) (hasPlayground hasApp : Bool) : Int :=
  if hasApp then appPlace settings hasPlayground + settings.spacing
  else if hasPlayground then settings.playgroundLeft + settings.spacing
  else settings.playgroundLeft

/-- Where the scenes of a row go when it is closed up. Of several playgrounds, or applications, only
the first has a place; the others stay where they are. -/
def targets (settings : LayoutSettings) (row : List RowEntry) : List (Slot × Int) :=
  let playground := row.find? (·.kind == .playground)
  let app := row.find? (·.kind == .app)
  let base := rowBase settings playground.isSome app.isSome
  playground.toList.map (fun e => (e.slot, settings.playgroundLeft)) ++
    app.toList.map (fun e => (e.slot, appPlace settings playground.isSome)) ++
    (row.filter (·.kind == .plain)).zipIdx.map fun e => (e.1.slot, base + e.2 * settings.spacing)

/-- A scene at another left edge. -/
def moveTo (p : PlacedScene) (left : Int) : PlacedScene :=
  { p with scene := { p.scene with box := { p.scene.box with left } } }

/-- Close up the top row. -/
def compact (d : Draft) (components : List Component) (settings : LayoutSettings) : Draft :=
  -- all goals are worked out before anything moves
  let goals := targets settings (d.row components settings)
  let move (slot : Slot) (p : PlacedScene) : PlacedScene :=
    match goals.lookup slot with
    | some left => moveTo p left
    | none => p
  { d with
    assigned := d.assigned.map fun a => (a.1, move (.live a.1) a.2)
    orphans := d.orphans.zipIdx.map fun o => move (.orphan o.2) o.1 }

/-- How many scenes closing up the top row moves. -/
def movedByCompact (d : Draft) (components : List Component) (settings : LayoutSettings) : Nat :=
  let row := d.row components settings
  let goals := targets settings row
  (row.filter fun e => (goals.lookup e.slot).any (· != e.left)).length

end Draft

end SceneBoard
