/-! # TOML values

The values of a TOML document. Floating-point numbers and dates are recognised, but no setting of
this program is one, so what they are worth is not kept. A table remembers how it came about, which
decides whether later lines may add to it.

A document may hold numbers that are too large. They are an error only where they are looked at,
which `Value.fits` decides for a value and everything in it.
-/

namespace SceneBoard.Toml

/-- How a table came about. -/
inductive TableKind where
  /-- By a header of its own, or as the document. -/
  | header
  /-- As a parent in the header of another table. -/
  | implicit
  /-- By a dotted key. -/
  | dotted
  /-- In braces, as a value; nothing can be added to it. -/
  | inline
  deriving DecidableEq

/-- A value of a document. -/
inductive Value where
  | string (s : String)
  | integer (n : Int)
  /-- A floating-point number, and whether it is too large for one. -/
  | float (overflows : Bool)
  | boolean (b : Bool)
  | date
  | array (items : List Value)
  /-- Entries by key, in the order in which they were defined. -/
  | table (kind : TableKind) (entries : List (String × Value))
  /-- An array that headers in double brackets define, one table each. -/
  | tables (items : List (List (String × Value)))

/-- An integer fits in 128 bits, with or without a sign. -/
def fits128 (n : Int) : Bool :=
  -170141183460469231731687303715884105728 ≤ n && n ≤ 340282366920938463463374607431768211455

mutual

/-- No number in the value is too large. -/
def Value.fits : Value → Bool
  | .integer n => fits128 n
  | .float overflows => !overflows
  | .array items => Value.allFit items
  | .table _ entries => Value.entriesFit entries
  | .tables items => Value.tablesFit items
  | _ => true

/-- No number in the values is too large. -/
def Value.allFit : List Value → Bool
  | [] => true
  | v :: vs => v.fits && Value.allFit vs

/-- No number in the entries is too large. -/
def Value.entriesFit : List (String × Value) → Bool
  | [] => true
  | (_, v) :: es => v.fits && Value.entriesFit es

/-- No number in the tables is too large. -/
def Value.tablesFit : List (List (String × Value)) → Bool
  | [] => true
  | t :: ts => Value.entriesFit t && Value.tablesFit ts

end

/-- The entries of a table. -/
abbrev Entries := List (String × Value)

/-- The entries with one of them replaced, or added at the end. -/
def Entries.set (key : String) (value : Value) : Entries → Entries
  | [] => [(key, value)]
  | e :: es => if e.1 = key then (key, value) :: es else e :: Entries.set key value es

end SceneBoard.Toml
