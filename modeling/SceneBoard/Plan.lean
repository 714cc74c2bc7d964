import SceneBoard.Component
import SceneBoard.Distinct
import SceneBoard.Storyboard
import SceneBoard.Storyboard.Body

/-! # Reconciling a storyboard with the components

A `Plan` says what becomes of the scenes of a previous storyboard and of the components found now.
Components are bound to scenes in two rounds: first by the id that a component owns, regardless of
the case of ASCII letters, and then, for the components left over, by the name that a scene shows;
so that a match by name never takes a scene that another component owns. Scenes that stay unbound
are retained, superseded or pruned.
-/

namespace SceneBoard

/-- Switches of a reconciliation. -/
structure ReconcileOptions where
  /-- Keep the scenes of the previous storyboard at all. -/
  preserveExisting : Bool := true
  /-- Drop the scenes of components that are gone. -/
  prune : Bool := true
  /-- Report the components that had no scene. -/
  forceRegenMissing : Bool := true
  deriving DecidableEq

/-- A previous scene of a component that is still there. -/
structure BoundScene where
  component : String
  scene : Scene
  deriving DecidableEq

/-- A scene that is dropped because its component is gone. -/
structure PrunedScene where
  id : String
  component : String
  deriving DecidableEq

/-- What becomes of the previous scenes and of the components. -/
structure Plan where
  /-- Scenes bound to components, in the order of the components. -/
  kept : List BoundScene
  /-- Unbound scenes that stay, in the order of the file. -/
  retained : List Scene
  /-- Components without a scene, in their order. -/
  pending : List String
  /-- Unbound scenes whose component is gone. -/
  pruned : List PrunedScene
  /-- Ids of unbound scenes whose component has another scene. -/
  superseded : List String
  /-- Components whose own scene id did not occur. -/
  missing : List String
  /-- Import lines that retained scenes still need. -/
  retainedImports : List String
  deriving DecidableEq

namespace Plan

/-! ## Binding components to scenes -/

/-- A component and the position of the scene to which it is bound. -/
structure Binding where
  component : Component
  scene : Option Nat

/-- The position of the first scene that is free and wanted. -/
def firstFree (scenes : List Scene) (taken : List Nat) (wanted : Scene → Bool) : Option Nat :=
  (scenes.zipIdx.find? fun s => !taken.contains s.2 && wanted s.1).map (·.2)

/-- The positions of the scenes that are bound. -/
def boundScenes (bindings : List Binding) : List Nat :=
  bindings.filterMap (·.scene)

/-- One round: each component that is unbound takes the first free scene that it wants. -/
def bindRound (scenes : List Scene) (wants : Component → Scene → Bool) :
    List Nat → List Binding → List Binding
  | _, [] => []
  | taken, b :: bs =>
    match b.scene with
    -- bound in an earlier round
    | some _ => b :: bindRound scenes wants taken bs
    | none =>
      match firstFree scenes taken (wants b.component) with
      | some i => ⟨b.component, some i⟩ :: bindRound scenes wants (i :: taken) bs
      | none => b :: bindRound scenes wants taken bs

/-- The scene has the id that the component owns, in any case. -/
def ownsId (c : Component) (s : Scene) : Bool :=
  Text.sameIgnoringCase s.id c.sceneId

/-- The scene shows the component. -/
def showsName (c : Component) (s : Scene) : Bool :=
  s.component == some c.name

/-- The bindings after the first round. -/
def bindById (components : List Component) (scenes : List Scene) : List Binding :=
  bindRound scenes ownsId [] (components.map (⟨·, none⟩))

/-- The bindings after both rounds. -/
def bind (components : List Component) (scenes : List Scene) : List Binding :=
  let byId := bindById components scenes
  bindRound scenes showsName (boundScenes byId) byId

/-! ## What becomes of the scenes -/

/-- A scene as its component keeps it. It takes the id that the component owns, unless another
component, whose name differs only in case, already has its scene under that id. -/
def keep (ownedIds : List String) (c : Component) (s : Scene) : BoundScene :=
  let id := if Text.sameIgnoringCase s.id c.sceneId || !ownedIds.contains c.sceneId then c.sceneId
    else s.id
  ⟨c.name, { s with id, component := some c.name }⟩

/-- The fate of a scene to which no component is bound. -/
inductive Fate where
  | retained
  | superseded
  | pruned (component : String)

/-- An unbound scene stays if it is not known what it shows. If it shows a component that is there,
that one has another scene; if the component is gone, pruning decides. -/
def fate (live : List String) (prune : Bool) (s : Scene) : Fate :=
  match s.component with
  | none => .retained
  | some name =>
    if live.contains name then .superseded else if prune then .pruned name else .retained

/-- The import lines of components that retained scenes refer to and that are not there. -/
def importsFor (retained : List Scene) (live : List String) (imports : List ImportLine) :
    List String :=
  let referenced := retained.flatMap fun s => Body.references s.body
  (imports.filter fun i => referenced.contains i.name && !live.contains i.name).map (·.line)

/-- The components whose own scene id does not occur in a storyboard. -/
def missingFrom (components : List Component) (prior : Storyboard) : List String :=
  (components.filter fun c => !prior.hasScene c.sceneId).map (·.name)

/-- The plan for the components found, given the previous storyboard. -/
def reconcile (components : List Component) (prior : Storyboard) (options : ReconcileOptions) :
    Plan :=
  -- what is missing is told even where the previous scenes are not preserved
  let missing := if options.forceRegenMissing then missingFrom components prior else []
  let prior := if options.preserveExisting then prior else Storyboard.empty
  -- ids that a component already has by the first round are not given a second time
  let owned := (bindById components prior.scenes).filterMap fun b =>
    b.scene.map fun _ => b.component.sceneId
  let bindings := bind components prior.scenes
  let taken := boundScenes bindings
  let live := components.map (·.name)
  let unbound := (prior.scenes.zipIdx.filter fun s => !taken.contains s.2).map (·.1)
  let retained := unbound.filter fun s => fate live options.prune s matches .retained
  { kept := bindings.filterMap fun b =>
      (b.scene.bind (prior.scenes[·]?)).map (keep owned b.component)
    retained
    pending := (bindings.filter (·.scene.isNone)).map (·.component.name)
    pruned := unbound.filterMap fun s =>
      match fate live options.prune s with
      | .pruned component => some ⟨s.id, component⟩
      | _ => none
    superseded := (unbound.filter fun s => fate live options.prune s matches .superseded).map (·.id)
    missing
    retainedImports := importsFor retained live prior.imports }

end Plan

end SceneBoard
