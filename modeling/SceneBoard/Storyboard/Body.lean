import SceneBoard.Distinct
import SceneBoard.Text.Pattern

/-! # Scene bodies

Which components the text between the tags of a scene refers to: its capitalized tags, and the
names that wrapping tags are given as `component={Name}`. The first of them is the component that
the scene shows.
-/

namespace SceneBoard.Body

open Text (Pattern)

/-- A character of a component name in markup. -/
def isTagChar (c : Char) : Bool :=
  c.isAlphanum || c == '_'

/-- A component name in markup, as the first group. -/
def tagName : Pattern :=
  .group 1 (.seq (.char Char.isUpper) (.many isTagChar))

/-- An opening tag of a component, up to the character behind its name. -/
def componentTag : Pattern :=
  .all [.text "<", tagName, .char fun c => c == ' ' || c == '\t' || c == '\n' || c == '>']

/-- A component that is handed to a wrapping tag. -/
def wrappedComponent : Pattern :=
  .all [.text "component=\x7b", tagName, .text "\x7d"]

/-- The tags that stand around a component instead of being one. -/
def wrappers : List String :=
  ["Scene", "Storyboard", "SafeComponentWrapper"]

/-- The component that a body shows: that of its first capitalized tag, or the one handed to a
wrapping tag if that is a wrapper. -/
def component? (body : String) : Option String :=
  (componentTag.capture? 1 body.toList).map fun tag =>
    let tag := String.ofList tag
    if wrappers.contains tag then
      match wrappedComponent.capture? 1 body.toList with
      | some name => String.ofList name
      | none => tag
    else tag

/-- The components that a body refers to: by tags, then by handing them to wrapping tags. -/
def references (body : String) : List String :=
  let names := componentTag.captures 1 body.toList ++ wrappedComponent.captures 1 body.toList
  distinct ((names.map String.ofList).filter fun name => !wrappers.contains name)

end SceneBoard.Body
