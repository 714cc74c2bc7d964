import SceneBoard.Layout.Placed
import SceneBoard.Text.Decimal

/-! # Distinct scene ids

Scenes of a layout can end up with one id, for instance when the names of two components differ
only in case. The first of them keeps it and each later one gets a number, as in `card-scene-2`:
the least that makes an id that is not in use.
-/

namespace SceneBoard

/-- An id with a number behind it. -/
def numberedId (id : String) (n : Nat) : String :=
  id ++ "-" ++ String.ofList (Text.natDecimal n)

/-- The id with the least number, from 2 on, that is not taken. As many numbers as there are taken
ids, and one more, are enough to find one. -/
def freshId (taken : List String) (id : String) : String :=
  match (List.range (taken.length + 1)).find? fun n => !taken.contains (numberedId id (n + 2)) with
  | some n => numberedId id (n + 2)
  | none => id

/-- Number the ids of scenes that were seen before. -/
def renumber (taken seen : List String) : List PlacedScene → List PlacedScene
  | [] => []
  | p :: ps =>
    if seen.contains p.scene.id then
      -- the id that is given becomes taken as well
      let id := freshId taken p.scene.id
      { p with scene := { p.scene with id } } :: renumber (id :: taken) (id :: seen) ps
    else p :: renumber taken (p.scene.id :: seen) ps

/-- The scenes with distinct ids. -/
def distinctIds (ps : List PlacedScene) : List PlacedScene :=
  renumber (ps.map (·.scene.id)) [] ps

end SceneBoard
