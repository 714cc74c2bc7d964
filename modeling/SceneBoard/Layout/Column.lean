import SceneBoard.Distinct
import SceneBoard.Layout.Draft

/-! # Columns

New scenes of components stand in columns, one below the other: a column for the components of no
folder and one for each folder that has any, in the order in which the folders first occur. A
column goes on below the deepest scene that stands in it already.
-/

namespace SceneBoard.Draft

/-- The first free top of a column: the column's top, or below the deepest scene in it. -/
def columnTop (d : Draft) (settings : LayoutSettings) (left : Int) : Int :=
  (d.scenes.filterMap fun p =>
    let b := p.scene.box
    -- what stands above the top of the column does not belong to it
    if b.left = left ∧ settings.componentColumnTop ≤ b.top then
      some (Pixels.add b.bottom settings.verticalSpacing)
    else none).foldl max settings.componentColumnTop

/-- Give components new scenes one below the other, the first at `top`. -/
def stack (d : Draft) (settings : LayoutSettings) (left : Int) (label : Component → String) :
    Int → List Component → Draft
  | _, [] => d
  | top, c :: cs =>
    let box : Box := ⟨c.sceneSize settings, left, top⟩
    (d.assign c box (label c)).stack settings left label
      (Pixels.add box.bottom settings.verticalSpacing) cs

/-- Give the pending components that satisfy a condition new scenes in a column. -/
def fillColumn (d : Draft) (settings : LayoutSettings) (left : Int)
    (label : Component → String) (wanted : Component → Bool) : Draft :=
  let (column, rest) := d.take wanted
  rest.stack settings left label (rest.columnTop settings left) column

/-- Place the components of no folder. -/
def placeComponents (d : Draft) (settings : LayoutSettings) : Draft :=
  d.fillColumn settings settings.componentColumnLeft (·.name) (·.category == .component)

/-- The folders of components, in the order in which they first occur. -/
def folders (components : List Component) : List String :=
  distinct (components.filterMap fun c =>
    match c.category with
    | .folder name => some name
    | _ => none)

/-- The left edge of the column of a folder. -/
def folderLeft (settings : LayoutSettings) (index : Nat) : Int :=
  settings.folderColumnLeft + index * settings.columnSpacing

/-- Place the components of folders. -/
def placeFolders (d : Draft) (components : List Component) (settings : LayoutSettings) : Draft :=
  (folders components).zipIdx.foldl
    (fun d f => d.fillColumn settings (folderLeft settings f.2)
      (fun c => c.name ++ " (" ++ f.1 ++ ")") (·.category == .folder f.1)) d

end SceneBoard.Draft
