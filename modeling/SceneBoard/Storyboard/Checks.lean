import SceneBoard.Storyboard.Parser
import SceneBoard.Text.Quoted
import SceneBoard.Text.Search

/-! # Checks on a storyboard text

Questions that can be asked of the text of a storyboard: where its scenes stand, whether one is
there, whether ids repeat, whether a component is imported. A check that fails says why.
-/

namespace SceneBoard

/-- Why a check failed. -/
inductive CheckFailure where
  | notFound (id : String) (ids : List String)
  | elsewhere (id : String) (left top expectedLeft expectedTop : Int)
  | present (id : String)
  | repeated (id : String)
  | notImported (component : String)
  deriving DecidableEq

/-- A place on the canvas. -/
def pointText (left top : Int) : String :=
  "(" ++ Text.decimalString left ++ ", " ++ Text.decimalString top ++ ")"

/-- The text of a failure. -/
def CheckFailure.message : CheckFailure → String
  | notFound id ids => "Scene " ++ id ++ " not found in " ++ Text.quotedList ids
  | elsewhere id left top expectedLeft expectedTop =>
    "Scene " ++ id ++ " is at " ++ pointText left top ++ ", expected " ++
      pointText expectedLeft expectedTop
  | present id => "Scene " ++ id ++ " should not be present"
  | repeated id => "Scene id " ++ id ++ " appears more than once"
  | notImported component => "Expected an import for " ++ component

namespace Storyboard

/-- The ids of the scenes, in file order. -/
def ids (b : Storyboard) : List String :=
  b.scenes.map (·.id)

/-- The scene of an id. -/
def scene (b : Storyboard) (id : String) : Option Scene :=
  b.scenes.find? (·.id == id)

/-- There is a scene with this id at this place. -/
def checkSceneAt (b : Storyboard) (id : String) (left top : Int) : Except CheckFailure Unit :=
  match b.scene id with
  | none => .error (.notFound id (b.ids.mergeSort fun a b => decide (a ≤ b)))
  | some s =>
    if s.box.left = left ∧ s.box.top = top then .ok ()
    else .error (.elsewhere id s.box.left s.box.top left top)

/-- There is no scene with this id. -/
def checkNoScene (b : Storyboard) (id : String) : Except CheckFailure Unit :=
  if b.hasScene id then .error (.present id) else .ok ()

/-- The id that a line sets, if it sets one. -/
def lineId? (line : List Char) : Option (List Char) :=
  match Text.trim line with
  | 'i' :: 'd' :: '=' :: '\x27' :: id => some (id.reverse.dropWhile (· == '\x27')).reverse
  | _ => none

/-- The first element of a list that has occurred before. -/
def firstRepeated? {α : Type} [DecidableEq α] : List α → List α → Option α
  | _, [] => none
  | seen, a :: as => if a ∈ seen then some a else firstRepeated? (a :: seen) as

/-- No two lines of a text set one id. -/
def checkUniqueIds (text : String) : Except CheckFailure Unit :=
  match firstRepeated? [] ((Text.lines text.toList).filterMap lineId?) with
  | some id => .error (.repeated (String.ofList id))
  | none => .ok ()

/-- A line of a text imports a component. -/
def checkImports (text component : String) : Except CheckFailure Unit :=
  let heads := ["import \x7b " ++ component ++ " \x7d from ", "import " ++ component ++ " from "]
  if (Text.lines text.toList).any fun line => heads.any (·.toList.isPrefixOf line) then .ok ()
  else .error (.notImported component)

end Storyboard

end SceneBoard
