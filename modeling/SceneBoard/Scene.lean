import SceneBoard.Geometry

/-! # Scenes -/

namespace SceneBoard

/-- One preview of a storyboard. -/
structure Scene where
  id : String
  box : Box
  label : String
  /-- The component that it shows, where its body tells. -/
  component : Option String
  /-- The text between its tags; empty for a scene that was never read from a storyboard. -/
  body : String
  deriving DecidableEq

end SceneBoard
