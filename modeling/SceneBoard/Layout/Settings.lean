import SceneBoard.Geometry

/-! # Layout settings

The measures of the canvas: where the top row and the columns are, how far apart scenes stand in
them, and the sizes of scenes whose component has none of its own. `LayoutSettings.problem?` finds
the first measure that the layout cannot work with.
-/

namespace SceneBoard

/-- The measures by which new scenes are placed and the top row is closed up. -/
structure LayoutSettings where
  /-- From one scene of the top row to the next, left edge to left edge. -/
  spacing : Int := 816
  /-- The size of a scene whose component has none. -/
  defaultScene : Size := ⟨700, 700⟩
  topRow : Int := 128
  componentColumnLeft : Int := 212
  componentColumnTop : Int := 1584
  /-- Between the scenes of a column. -/
  verticalSpacing : Int := 220
  /-- The left edge of the column of the first folder. -/
  folderColumnLeft : Int := 1148
  /-- From the column of one folder to that of the next. -/
  columnSpacing : Int := 936
  /-- What must stay free before the next scene when a gap of the top row is filled. -/
  gapMargin : Int := 20
  playgroundSize : Size := ⟨700, 759⟩
  playgroundLeft : Int := 212
  appSize : Size := ⟨744, 1133⟩
  /-- Where the application stands beside a playground; without one it takes its place. -/
  appLeft : Int := 992
  appLabel : String := "My App"
  deriving DecidableEq

/-- A measure that the layout cannot work with: its name and its value. -/
inductive LayoutProblem where
  /-- A step from scene to scene that is no side. -/
  | step (name : String) (value : Int)
  /-- A margin that is negative or too large. -/
  | margin (name : String) (value : Int)
  /-- A size out of range. -/
  | size (name : String) (value : Size)
  /-- A coordinate too far from the origin. -/
  | position (name : String) (value : Int)
  deriving DecidableEq

/-- The text of a problem. -/
def LayoutProblem.message : LayoutProblem → String
  | step name value =>
    "layout." ++ name ++ " must be between 1 and " ++ Text.decimalString Size.maxSide ++
      ", got " ++ Text.decimalString value
  | margin name value =>
    "layout." ++ name ++ " must be between 0 and " ++ Text.decimalString Size.maxSide ++
      ", got " ++ Text.decimalString value
  | size name value =>
    "layout." ++ name ++ " must have sides between 1 and " ++ Text.decimalString Size.maxSide ++
      ", got " ++ value.text
  | position name value =>
    "layout." ++ name ++ " must be within " ++ Text.decimalString maxCoordinate ++
      " of the origin, got " ++ Text.decimalString value

namespace LayoutSettings

/-- A margin between scenes. -/
def IsMargin (n : Int) : Prop := 0 ≤ n ∧ n ≤ Size.maxSide

instance (n : Int) : Decidable (IsMargin n) := inferInstanceAs (Decidable (_ ∧ _))

/-- The problems of a list of measures that do not satisfy a condition. -/
def problems {α : Type} (ok : α → Bool) (problem : String → α → LayoutProblem)
    (measures : List (String × α)) : List LayoutProblem :=
  (measures.filter fun m => !ok m.2).map fun m => problem m.1 m.2

/-- The measures that the layout cannot work with: steps, margins, sizes, positions. -/
def allProblems (s : LayoutSettings) : List LayoutProblem :=
  problems (fun n => Size.IsSide n) .step
      [("spacing", s.spacing), ("column_spacing", s.columnSpacing)] ++
    problems (fun n => IsMargin n) .margin
      [("vertical_spacing", s.verticalSpacing), ("gap_margin", s.gapMargin)] ++
    problems (fun z => z.InRange) .size
      [("default_scene", s.defaultScene), ("playground_size", s.playgroundSize),
       ("app_size", s.appSize)] ++
    problems (fun n => IsCoordinate n) .position
      [("top_row", s.topRow), ("component_column_left", s.componentColumnLeft),
       ("component_column_top", s.componentColumnTop),
       ("sub_folder_column_left", s.folderColumnLeft), ("playground_left", s.playgroundLeft),
       ("app_left", s.appLeft)]

/-- The first measure that the layout cannot work with. -/
def problem? (s : LayoutSettings) : Option LayoutProblem :=
  s.allProblems.head?

end LayoutSettings

end SceneBoard
