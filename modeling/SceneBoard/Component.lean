import SceneBoard.Geometry
import SceneBoard.Text.Lowercase
import SceneBoard.Text.Search

/-! # Components

What is known of a user-interface component: its name, where its file lies and what its source
tells about it. A component owns the scene whose id derives from its name (`sceneId`), and it is
imported by the path of its file without the extension (`Component.modulePath`).
-/

namespace SceneBoard

/-- Where the file of a component lies, which decides where new scenes are placed. -/
inductive Category where
  /-- Directly inside a `components` folder. -/
  | component
  /-- In the named folder below `components`, or deeper inside it. -/
  | folder (name : String)
  /-- Anywhere else. -/
  | page
  deriving DecidableEq

/-- A component of the source tree. -/
structure Component where
  name : String
  /-- The path of its file below the source root, with forward slashes. -/
  path : String
  category : Category
  /-- Its parameters can take a style from outside. -/
  acceptsStyle : Bool
  /-- Its file exports it as the default. -/
  defaultExport : Bool
  /-- The size of its preview, where one was worked out. -/
  size : Option Size
  deriving DecidableEq

/-- The id of the scene that a component owns. -/
def sceneId (name : String) : String :=
  Text.lowercase name ++ "-scene"

namespace Component

/-- The id of the scene that the component owns. -/
def sceneId (c : Component) : String :=
  SceneBoard.sceneId c.name

/-- The path of its file without the extension: what follows the last dot is cut off with it,
unless a slash is among it. -/
def modulePath (c : Component) : String :=
  let cs := c.path.toList
  let tail := (cs.reverse.takeWhile (· != '.')).reverse
  if tail.length < cs.length && !tail.contains '/' then
    String.ofList (cs.take (cs.length - tail.length - 1))
  else c.path

/-- The component of a name: the last one that has it. -/
def named? (components : List Component) (name : String) : Option Component :=
  components.reverse.find? (·.name == name)

end Component

end SceneBoard
