import SceneBoard.Scene

/-! # Placed scenes -/

namespace SceneBoard

/-- How a scene comes to be in a storyboard. -/
inductive Origin where
  /-- It was there before and its component still is. -/
  | kept (component : String) (previous : Box)
  /-- It is new. -/
  | placed (component : String)
  /-- It was there before, and no component is bound to it. -/
  | retained (previous : Box)
  deriving DecidableEq

/-- The component that a scene shows. -/
def Origin.component? : Origin → Option String
  | .kept component _ => some component
  | .placed component => some component
  | .retained _ => none

/-- Where a scene was before. -/
def Origin.previous? : Origin → Option Box
  | .kept _ previous => some previous
  | .placed _ => none
  | .retained previous => some previous

/-- A scene of a new storyboard. -/
structure PlacedScene where
  scene : Scene
  origin : Origin
  deriving DecidableEq

end SceneBoard
