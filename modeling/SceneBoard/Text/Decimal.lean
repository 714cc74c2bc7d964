import SceneBoard.Pixels

/-! # Decimal numbers

Whole numbers as text: written without leading zeros, with a minus sign before a negative one, and
read back from the digits 0 to 9. A number that does not fit in 64 bits is not read.
-/

namespace SceneBoard.Text

/-- A natural number in decimal digits. -/
def natDecimal (n : Nat) : List Char :=
  Nat.toDigits 10 n

/-- A whole number in decimal digits. -/
def decimal : Int → List Char
  | .ofNat n => natDecimal n
  | .negSucc n => '-' :: natDecimal (n + 1)

/-- The text of a whole number. -/
def decimalString (n : Int) : String :=
  String.ofList (decimal n)

/-- The value of a digit 0 to 9. -/
def digitValue (c : Char) : Nat :=
  c.toNat - '0'.toNat

/-- The value of a text of digits 0 to 9, at least one. -/
def readNat? (cs : List Char) : Option Nat :=
  if cs.isEmpty || !cs.all Char.isDigit then none
  else some (cs.foldl (fun n c => n * 10 + digitValue c) 0)

/-- The value of a text of digits after an optional sign, if it fits in 64 bits. -/
def readPixels? : List Char → Option Int
  | '-' :: cs => (readNat? cs).bind fun n => Pixels.check? (-(n : Int))
  | '+' :: cs => (readNat? cs).bind fun n => Pixels.check? n
  | cs => (readNat? cs).bind fun n => Pixels.check? n

end SceneBoard.Text
