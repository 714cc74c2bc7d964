import SceneBoard.Text.Decimal

/-! # Sizes and boxes

A `Size` is the width and height of a preview, a `Box` a size at a place on the canvas. Both can
hold any numbers; `Size.InRange` and `IsCoordinate` say which of them are read and laid out.
-/

namespace SceneBoard

/-- The size of a preview, in pixels. -/
structure Size where
  width : Int
  height : Int
  deriving DecidableEq, Inhabited

namespace Size

/-- The longest side that is accepted. -/
def maxSide : Int := 100000

/-- The size of a component whose own size cannot be worked out. -/
def fallback : Size := ⟨700, 700⟩

/-- A side that can be laid out. -/
def IsSide (n : Int) : Prop := 1 ≤ n ∧ n ≤ maxSide

instance (n : Int) : Decidable (IsSide n) := inferInstanceAs (Decidable (_ ∧ _))

/-- Both sides can be laid out. -/
def InRange (s : Size) : Prop := IsSide s.width ∧ IsSide s.height

instance (s : Size) : Decidable s.InRange := inferInstanceAs (Decidable (_ ∧ _))

/-- The text of a size, as in `120x40`. -/
def text (s : Size) : String :=
  Text.decimalString s.width ++ "x" ++ Text.decimalString s.height

end Size

/-- The greatest distance from the origin at which a scene may stand. -/
def maxCoordinate : Int := 10000000

/-- A place at which a scene may stand. -/
def IsCoordinate (n : Int) : Prop := -maxCoordinate ≤ n ∧ n ≤ maxCoordinate

instance (n : Int) : Decidable (IsCoordinate n) := inferInstanceAs (Decidable (_ ∧ _))

/-- A size placed on the canvas. -/
structure Box where
  size : Size
  left : Int
  top : Int
  deriving DecidableEq, Inhabited

namespace Box

/-- The lower edge. -/
def bottom (b : Box) : Int :=
  Pixels.add b.top b.size.height

/-- Both sides can be laid out, at a place where a scene may stand. -/
def InRange (b : Box) : Prop := b.size.InRange ∧ IsCoordinate b.left ∧ IsCoordinate b.top

instance (b : Box) : Decidable b.InRange := inferInstanceAs (Decidable (_ ∧ _))

/-- The text of a box, as in `120x40 @ (212,1584)`. -/
def text (b : Box) : String :=
  b.size.text ++ " @ (" ++ Text.decimalString b.left ++ "," ++ Text.decimalString b.top ++ ")"

end Box

end SceneBoard
