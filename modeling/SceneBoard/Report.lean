import SceneBoard.Files.Path
import SceneBoard.Generation

/-! # Reports

What one run did.
-/

namespace SceneBoard

/-- What one run did. -/
structure Report where
  sourceRoot : Path
  output : Path
  /-- How many components were found. -/
  discovered : Nat
  /-- How many scenes were kept. -/
  kept : Nat
  /-- Ids of the new scenes. -/
  placed : List String
  pruned : List PrunedScene
  /-- Ids of the scenes that stay without a component. -/
  retained : List String
  superseded : List String
  relocated : List Relocation
  missing : List String
  written : Bool
  dryRun : Bool
  deriving DecidableEq

namespace Report

/-- The report on a generation that has not been written yet. -/
def ofGeneration (sourceRoot output : Path) (discovered : Nat) (dryRun : Bool) (g : Generation) :
    Report where
  sourceRoot := sourceRoot
  output := output
  discovered := discovered
  kept := g.plan.kept.length
  placed := (g.layout.scenes.filter (·.origin matches .placed _)).map (·.scene.id)
  pruned := g.plan.pruned
  retained := (g.layout.scenes.filter (·.origin matches .retained _)).map (·.scene.id)
  superseded := g.plan.superseded
  relocated := g.layout.relocations
  missing := g.plan.missing
  written := false
  dryRun := dryRun

/-- Nothing happened to the previous storyboard, apart from new scenes. -/
def isClean (r : Report) : Bool :=
  r.pruned.isEmpty && r.superseded.isEmpty && r.relocated.isEmpty

end Report

end SceneBoard
