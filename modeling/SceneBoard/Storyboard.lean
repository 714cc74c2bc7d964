import SceneBoard.Scene

/-! # Storyboards

What a storyboard file holds as far as it is read back: its scenes and the import lines of
components, both in file order.
-/

namespace SceneBoard

/-- An import line of a storyboard and the component that it imports. -/
structure ImportLine where
  name : String
  line : String
  deriving DecidableEq

/-- The scenes and imports of a storyboard. -/
structure Storyboard where
  scenes : List Scene
  imports : List ImportLine
  deriving DecidableEq

/-- The storyboard of a project that has none yet. -/
def Storyboard.empty : Storyboard := ⟨[], []⟩

/-- The storyboard has a scene with this very id. -/
def Storyboard.hasScene (b : Storyboard) (id : String) : Bool :=
  b.scenes.any (·.id == id)

end SceneBoard
