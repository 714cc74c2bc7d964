import SceneBoard.Layout
import SceneBoard.Plan
import SceneBoard.Storyboard.Parser
import SceneBoard.Storyboard.Printer

/-! # Generating a storyboard

One generation: the previous storyboard is read and reconciled with the components, the scenes are
laid out, and the new storyboard is written.
-/

namespace SceneBoard

/-- The results of a generation. -/
structure Generation where
  plan : Plan
  layout : Layout
  text : String

/-- The storyboard in the text of a file, or the empty one if there is no file. -/
def Storyboard.ofPrevious (previous : Option String) : Storyboard :=
  (previous.map Storyboard.parse).getD .empty

/-- Generate the storyboard of components, given the previous text. -/
def generate (components : List Component) (previous : Option String) (options : ReconcileOptions)
    (settings : LayoutSettings) (importPrefix : String) : Generation :=
  let plan := Plan.reconcile components (Storyboard.ofPrevious previous) options
  let layout := Layout.place plan components settings
  { plan, layout
    text := Storyboard.render layout.scenes components importPrefix plan.retainedImports }

end SceneBoard
