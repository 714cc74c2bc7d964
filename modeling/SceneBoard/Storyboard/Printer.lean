import SceneBoard.Layout.Placed
import SceneBoard.Storyboard.Template

/-! # Writing a storyboard

The text of a storyboard: two fixed import lines, one import line for each component, the import
lines that retained scenes still need, and the scenes. A scene of a component is written anew from
the component's template; any other keeps the body that was read.
-/

namespace SceneBoard

/-- The import line of a component: by name, or as the default of its file. Slashes at the end of
the prefix do not count. -/
def Component.importLine (c : Component) (importPrefix : String) : String :=
  let dir := (importPrefix.toList.reverse.dropWhile (· == '/')).reverse
  let specifier := String.ofList dir ++ "/" ++ c.modulePath
  if c.defaultExport then "import " ++ c.name ++ " from '" ++ specifier ++ "'"
  else "import \x7b " ++ c.name ++ " \x7d from '" ++ specifier ++ "'"

namespace PlacedScene

/-- The template of a placed scene. -/
def template (components : List Component) (p : PlacedScene) : Template :=
  -- a scene of a component is written anew, whatever its body was
  match p.origin.component?.bind (Component.named? components) with
  | some c => .ofComponent c
  | none => .verbatim p.scene.body

/-- The text of a placed scene, tags included. -/
def text (components : List Component) (p : PlacedScene) : String :=
  let s := p.scene
  "    <Scene\n      id='" ++ s.id ++
    "'\n      commentId='" ++ s.id ++
    "'\n      style=\x7b\x7b\n        width: " ++ Text.decimalString s.box.size.width ++
    ",\n        height: " ++ Text.decimalString s.box.size.height ++
    ",\n        position: 'absolute',\n        left: " ++ Text.decimalString s.box.left ++
    ",\n        top: " ++ Text.decimalString s.box.top ++
    ",\n      \x7d\x7d\n      data-label='" ++ s.label ++
    "'\n    >" ++ (p.template components).body ++ "</Scene>\n"

end PlacedScene

namespace Storyboard

/-- The lines with which a storyboard begins. -/
def header : String :=
  "import * as React from 'react'\nimport \x7b Scene, Storyboard \x7d from 'utopia-api'\n"

/-- The text of a storyboard. -/
def render (scenes : List PlacedScene) (components : List Component) (importPrefix : String)
    (retainedImports : List String) : String :=
  header ++
    String.join (components.map fun c => c.importLine importPrefix ++ "\n") ++
    String.join (retainedImports.map (· ++ "\n")) ++
    "\nexport var storyboard = (\n  <Storyboard>\n" ++
    String.join (scenes.map (·.text components)) ++
    "  </Storyboard>\n)\n"

end Storyboard

end SceneBoard
