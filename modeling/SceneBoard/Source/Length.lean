import SceneBoard.Text.Blank
import SceneBoard.Text.Decimal

/-! # Lengths in styles

A length as a style declares it, in pixels. Only the whole-number part that a length begins with
counts. Relative keywords, percentages, expressions and whatever else does not read as a number
with a known unit are no lengths, nor is a length that does not fit in 64 bits.
-/

namespace SceneBoard.Length

/-- A length unit and its size in pixels. -/
structure Scale where
  suffix : String
  pixels : Int

/-- The units. An `rem` is found before the `em` that it ends in. -/
def scales : List Scale :=
  [⟨"px", 1⟩, ⟨"rem", 16⟩, ⟨"em", 16⟩, ⟨"vh", 8⟩, ⟨"vw", 12⟩]

/-- The words that declare a length without telling it. -/
def keywords : List String :=
  ["100%", "auto", "inherit", "initial"]

/-- The whole number that a text begins with, after white space and a sign. -/
def leadingInt? (cs : List Char) : Option Int :=
  let read (digits : List Char) : Option Int :=
    (Text.readNat? (digits.takeWhile Char.isDigit)).bind fun n => Pixels.check? n
  match Text.trimLeft cs with
  -- the number without its sign must fit, which leaves out the least one
  | '-' :: digits => (read digits).map (- ·)
  | '+' :: digits => read digits
  | digits => read digits

/-- The rest of a text after a sign, if it begins with one. -/
def dropSign : List Char → List Char
  | '-' :: cs => cs
  | '+' :: cs => cs
  | cs => cs

/-- The text is an exponent or empty. -/
def isExponent : List Char → Bool
  | [] => true
  | c :: cs => (c == 'e' || c == 'E') && (Text.readNat? (dropSign cs)).isSome

/-- The text is a decimal number with digits before the point: `12`, `-3.`, `+0.5e-7`. -/
def isNumber (cs : List Char) : Bool :=
  let digits := dropSign cs
  !(digits.takeWhile Char.isDigit).isEmpty &&
    match digits.dropWhile Char.isDigit with
    | '.' :: places => isExponent (places.dropWhile Char.isDigit)
    | more => isExponent more

/-- The pixels of a length as written in a source, quotation marks included. -/
def pixels? (raw : String) : Option Int :=
  -- quotation marks do not count wherever they stand
  let value := (Text.trim raw.toList).filter fun c => c != '\x27' && c != '\x22'
  if keywords.any (·.toList == value) then none
  else match scales.find? (·.suffix.toList.isSuffixOf value) with
    | some scale =>
      (leadingInt? (value.take (value.length - scale.suffix.length))).bind fun n =>
        Pixels.check? (n * scale.pixels)
    | none => if isNumber value then leadingInt? value else none

end SceneBoard.Length
