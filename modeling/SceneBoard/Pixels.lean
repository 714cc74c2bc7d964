/-! # Pixel counts

Lengths and coordinates are whole numbers of pixels that fit in 64 bits. They are computed as
integers; where a sum may leave the 64 bits it is clamped to them, by the two operations of this
file, and a length that would not fit is no length.
-/

namespace SceneBoard.Pixels

/-- The least number of pixels. -/
def least : Int := -9223372036854775808

/-- The greatest number of pixels. -/
def greatest : Int := 9223372036854775807

/-- The number fits in 64 bits. -/
def Fits (n : Int) : Prop := least ≤ n ∧ n ≤ greatest

instance (n : Int) : Decidable (Fits n) := inferInstanceAs (Decidable (_ ∧ _))

/-- The nearest number that fits. -/
def clamp (n : Int) : Int :=
  if n < least then least else if greatest < n then greatest else n

/-- A sum, clamped. -/
def add (a b : Int) : Int := clamp (a + b)

/-- A difference, clamped. -/
def sub (a b : Int) : Int := clamp (a - b)

/-- The number, if it fits. -/
def check? (n : Int) : Option Int :=
  if Fits n then some n else none

/-- Clamping leaves alone what fits. -/
theorem clamp_eq_self {n : Int} (h : Fits n) : clamp n = n := by
  unfold clamp
  obtain ⟨h₁, h₂⟩ := h
  rw [if_neg (by omega), if_neg (by omega)]

theorem add_eq {a b : Int} (h : Fits (a + b)) : add a b = a + b := clamp_eq_self h

theorem sub_eq {a b : Int} (h : Fits (a - b)) : sub a b = a - b := clamp_eq_self h

/-- A length is accepted exactly if it fits, and as it is. -/
theorem check?_eq_some_iff {n m : Int} : check? n = some m ↔ Fits n ∧ n = m := by
  unfold check?
  split <;> simp_all

end SceneBoard.Pixels
