import SceneBoard.Source.Kind
import SceneBoard.Source.Length

/-! # Preview sizes

The size of a component's preview, worked out from its source. An annotation comes first, then the
lengths that styles declare, then the kind of the component: for a side that is missing its ratio,
for both its default size. A side that the ratio would make too long or too short leaves the
fallback size.
-/

namespace SceneBoard

open Text (Pattern)

/-- Which rule gave a size. -/
inductive SizeSource where
  /-- An annotation in a comment. -/
  | annotated
  /-- Both sides are declared. -/
  | styles
  /-- One side is declared, the other follows from the ratio of the kind. -/
  | ratioOf (kind : Kind)
  /-- Nothing is declared. -/
  | defaultOf (kind : Kind)
  /-- The missing side cannot be laid out. -/
  | fallback
  deriving DecidableEq

/-- A size and the rule that gave it. -/
structure SizeInference where
  size : Size
  source : SizeSource
  deriving DecidableEq

/-- A side cannot be derived: the ratio, applied to the known side, leaves the accepted range. -/
structure RatioOverflow where
  known : Int
  ratio : Ratio
  deriving DecidableEq

/-- The text of the error. -/
def RatioOverflow.message (e : RatioOverflow) : String :=
  "aspect ratio " ++ e.ratio.text ++ " applied to " ++ Text.decimalString e.known ++
    " is out of range"

namespace SizeInference

/-! ## Patterns of declarations -/

/-- An annotated size: `@preferred-size 300x150`. -/
def preferredSize : Pattern :=
  .all [.text "@preferred-size", .blanks1, .group 1 (.many1 Text.isDigit), .text "x",
    .group 2 (.many1 Text.isDigit)]

/-- How far the brace reaches that closes a text in braces, counted from `n`, in a text that stands
in one brace, or in two if `inner` says so. There may not be more. -/
def closing? (inner : Bool) (n : Nat) : List Char → Option Nat
  | [] => none
  | c :: cs =>
    if c = '\x7b' then if inner then none else closing? true (n + 1) cs
    else if c = '\x7d' then if inner then closing? false (n + 1) cs else some (n + 1)
    else closing? inner (n + 1) cs

/-- A text in braces, in which braces may stand around texts without any. -/
def braced : Pattern :=
  .piece fun
    | '\x7b' :: cs => closing? false 1 cs
    | _ => none

/-- The style attribute that ends a tag. -/
def inlineStyle : Pattern :=
  .all [.text "style=", .blanks, braced, .blanks, .text ">"]

/-- A style assigned to an attribute or a variable. -/
def assignedStyle : Pattern :=
  .all [.text "style", .blanks, .text "=", .blanks, braced]

/-- A style among the properties of an object. -/
def styleProperty : Pattern :=
  .all [.text "style", .blanks, .text ":", .blanks, braced]

/-- A block element up to the end of its style. -/
def styledContainer : Pattern :=
  .all [.text "<",
    .oneOf [.text "div", .text "section", .text "main", .text "article", .text "aside"],
    .blanks1, .many (· != '>'), .text "style", .blanks, .text "=", .blanks, braced]

/-- The declarations, in the order in which they are searched. -/
def declarations : List Pattern :=
  [inlineStyle, assignedStyle, styleProperty, styledContainer]

/-- A character of a declared value. -/
def isValueChar (c : Char) : Bool :=
  c != '\x27' && c != '\x22' && c != ',' && c != '\x7d'

/-- A property and its value. -/
def property (name : String) : Pattern :=
  .all [.text name, .blanks, .text ":", .blanks,
    .maybe (.char fun c => c == '\x27' || c == '\x22'), .group 1 (.many1 isValueChar)]

/-- The side that a fragment declares for a property. Only the first value of the property counts,
and one that cannot be laid out is unknown. -/
def declared? (name : String) (fragment : List Char) : Option Int :=
  ((property name).capture? 1 fragment).bind fun value =>
    (Length.pixels? (String.ofList value)).filter fun n => Size.IsSide n

/-! ## Declared sides -/

/-- The lengths found so far. -/
structure Declared where
  width : Option Int
  height : Option Int
  maxWidth : Option Int

/-- Take from a fragment what is still unknown. -/
def Declared.absorb (d : Declared) (fragment : List Char) : Declared where
  width := d.width <|> declared? "width" fragment
  height := d.height <|> declared? "height" fragment
  maxWidth := d.maxWidth <|> declared? "maxWidth" fragment

/-- The pieces of a source that declare styles, in the order in which they count. -/
def fragments (source : List Char) : List (List Char) :=
  declarations.flatMap fun p => (p.findAll source).map (·.text)

/-- The lengths that a source declares. -/
def Declared.ofSource (source : List Char) : Declared :=
  (fragments source).foldl Declared.absorb ⟨none, none, none⟩

/-- The declared width; a greatest width stands in for one. -/
def Declared.width? (d : Declared) : Option Int :=
  d.width <|> d.maxWidth

/-! ## Sizes -/

/-- The annotated size. An annotation out of range is ignored. -/
def annotated? (source : List Char) : Option Size := do
  let m ← preferredSize.find? source
  let width ← Text.readPixels? (← m.group? 1)
  let height ← Text.readPixels? (← m.group? 2)
  if Size.InRange ⟨width, height⟩ then some ⟨width, height⟩ else none

/-- The quotient of natural numbers, rounded to the nearest whole number, a half upwards. -/
def roundDiv (n d : Nat) : Nat :=
  (2 * n + d) / (2 * d)

/-- A derived side, if it can be laid out. -/
def derived (known : Int) (ratio : Ratio) (side : Nat) : Except RatioOverflow Int :=
  if Size.IsSide side then .ok side else .error ⟨known, ratio⟩

/-- The height that goes with a width. -/
def heightFor (width : Int) (ratio : Ratio) : Except RatioOverflow Int :=
  derived width ratio (roundDiv (width.toNat * 1000) ratio.thousandths)

/-- The width that goes with a height. -/
def widthFor (height : Int) (ratio : Ratio) : Except RatioOverflow Int :=
  derived height ratio (roundDiv (height.toNat * ratio.thousandths) 1000)

/-- The size of the component in a file, or why the missing side cannot be derived. -/
def resolve (source fileName : String) : Except RatioOverflow SizeInference := do
  let cs := source.toList
  -- an annotation makes the rest of the source irrelevant
  if let some size := annotated? cs then
    return ⟨size, .annotated⟩
  let d := Declared.ofSource cs
  let kind := Kind.classify source fileName
  match d.width?, d.height with
  | some width, some height => return ⟨⟨width, height⟩, .styles⟩
  | some width, none => return ⟨⟨width, ← heightFor width kind.ratio⟩, .ratioOf kind⟩
  | none, some height => return ⟨⟨← widthFor height kind.ratio, height⟩, .ratioOf kind⟩
  | none, none => return ⟨kind.defaultSize, .defaultOf kind⟩

/-- The size of the component in a file. -/
def infer (source fileName : String) : SizeInference :=
  match resolve source fileName with
  | .ok inference => inference
  | .error _ => ⟨Size.fallback, .fallback⟩

end SizeInference

end SceneBoard
