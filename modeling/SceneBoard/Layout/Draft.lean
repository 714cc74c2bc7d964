import SceneBoard.Component
import SceneBoard.Layout.Placed
import SceneBoard.Layout.Settings
import SceneBoard.Plan

/-! # Drafts

A `Draft` is a layout under way: the scenes that components have so far, each under the name of
its component, the scenes without a component, and the components that still need one. Its stages
take components from the pending ones and give them scenes.
-/

namespace SceneBoard

/-- A layout under way. -/
structure Draft where
  /-- The scenes of components, one for each name. -/
  assigned : List (String × PlacedScene)
  /-- The scenes without a component. -/
  orphans : List PlacedScene
  /-- The components that need a scene, in their order. -/
  pending : List Component

namespace Draft

/-- The assigned scenes with one more, which takes the place of an earlier one of its name. -/
def put (assigned : List (String × PlacedScene)) (name : String) (p : PlacedScene) :
    List (String × PlacedScene) :=
  assigned.filter (·.1 != name) ++ [(name, p)]

/-- The scene of a name. -/
def scene? (d : Draft) (name : String) : Option PlacedScene :=
  d.assigned.lookup name

/-- The draft with which the layout of a plan begins. -/
def ofPlan (plan : Plan) (components : List Component) : Draft where
  assigned := plan.kept.foldl
    (fun as b => put as b.component ⟨b.scene, .kept b.component b.scene.box⟩) []
  orphans := plan.retained.map fun s => ⟨s, .retained s.box⟩
  pending := plan.pending.filterMap (Component.named? components)

/-- All scenes of a draft. -/
def scenes (d : Draft) : List PlacedScene :=
  d.assigned.map (·.2) ++ d.orphans

/-- Give a component a new scene. -/
def assign (d : Draft) (c : Component) (box : Box) (label : String) : Draft :=
  let scene : Scene := ⟨c.sceneId, box, label, some c.name, ""⟩
  { d with assigned := put d.assigned c.name ⟨scene, .placed c.name⟩ }

/-- Take the pending components that satisfy a condition. -/
def take (d : Draft) (wanted : Component → Bool) : List Component × Draft :=
  (d.pending.filter wanted, { d with pending := d.pending.filter fun c => !wanted c })

end Draft

/-- The scene belongs to the top row: it stands there, or its component is a page. -/
def inTopRow (components : List Component) (settings : LayoutSettings) (p : PlacedScene) : Bool :=
  p.scene.box.top == settings.topRow ||
    (p.origin.component?.bind (Component.named? components)).any (·.category == .page)

/-- The size of a new scene. -/
def Component.sceneSize (c : Component) (settings : LayoutSettings) : Size :=
  c.size.getD settings.defaultScene

end SceneBoard
