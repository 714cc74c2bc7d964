import SceneBoard.Layout.Column
import SceneBoard.Layout.Row
import SceneBoard.Layout.SceneIds

/-! # Layouts

The layout of a plan: every component has a scene, at its place of before or at a new one, and the
scenes that no component has follow. The stages are the anchors of the top row, the pages, the
column of the components, the columns of the folders and the closing up of the top row.
-/

namespace SceneBoard

/-- A scene that stands elsewhere than before. -/
structure Relocation where
  id : String
  fromLeft : Int
  fromTop : Int
  toLeft : Int
  toTop : Int
  deriving DecidableEq

/-- The scenes of a new storyboard and how they moved. -/
structure Layout where
  /-- Scenes of components in their order, then the others in the order of the file. -/
  scenes : List PlacedScene
  relocations : List Relocation
  /-- How many scenes moved when the top row was closed up, new ones included. -/
  repositioned : Nat
  deriving DecidableEq

/-- The move of a scene that was there before, if it moved. -/
def PlacedScene.relocation? (p : PlacedScene) : Option Relocation :=
  p.origin.previous?.bind fun before =>
    let box := p.scene.box
    if before.left = box.left ∧ before.top = box.top then none
    else some ⟨p.scene.id, before.left, before.top, box.left, box.top⟩

namespace Draft

/-- A draft in which no component is pending any more. -/
def placeAll (d : Draft) (components : List Component) (settings : LayoutSettings) : Draft :=
  let d := d.placeAnchors components settings
  let d := d.placePages components settings
  let d := d.placeComponents settings
  d.placeFolders components settings

/-- The scenes of a draft in their final order. -/
def inOrder (d : Draft) (components : List Component) : List PlacedScene :=
  (distinct (components.map (·.name))).filterMap d.scene? ++ d.orphans

end Draft

/-- The layout of a plan. -/
def Layout.place (plan : Plan) (components : List Component) (settings : LayoutSettings) : Layout :=
  let d := (Draft.ofPlan plan components).placeAll components settings
  -- ids are made distinct last, so that relocations are told under the final ids
  let scenes := distinctIds ((d.compact components settings).inOrder components)
  { scenes
    relocations := scenes.filterMap (·.relocation?)
    repositioned := d.movedByCompact components settings }

end SceneBoard
