import SceneBoard.Geometry
import SceneBoard.Text.Lowercase
import SceneBoard.Text.Pattern
import SceneBoard.Text.Search

/-! # Kinds of components

A component's kind is guessed from its file name and its source, and gives the size of a preview
whose size is not declared. The rules are tried in order and the first one that applies decides, so
that a file called `ButtonCard.jsx` holds a button.
-/

namespace SceneBoard

/-- What a component looks like. -/
inductive Kind where
  | button | card | tag | nav | layout | input | modal | icon | menu | form | list | table
  | fullWidth | generic
  deriving DecidableEq

/-- Width over height, in thousandths. -/
structure Ratio where
  thousandths : Nat
  deriving DecidableEq

/-- A natural number of thousandths as a decimal number without zeros at its end: `3`, `0.875`. -/
def Ratio.text (r : Ratio) : String :=
  let places := (Nat.toDigits 10 (1000 + r.thousandths % 1000)).drop 1
  let places := (places.reverse.dropWhile (· == '0')).reverse
  let whole := Text.natDecimal (r.thousandths / 1000)
  String.ofList (if places.isEmpty then whole else whole ++ '.' :: places)

namespace Kind

/-- The name of the kind. -/
def name : Kind → String
  | button => "button"
  | card => "card"
  | tag => "tag"
  | nav => "nav"
  | layout => "layout"
  | input => "input"
  | modal => "modal"
  | icon => "icon"
  | menu => "menu"
  | form => "form"
  | list => "list"
  | table => "table"
  | fullWidth => "full-width"
  | generic => "generic"

/-- The size of a preview of this kind when nothing is declared. -/
def defaultSize : Kind → Size
  | button => ⟨120, 40⟩
  | tag => ⟨110, 44⟩
  | nav => ⟨800, 80⟩
  | card => ⟨350, 400⟩
  | layout => ⟨600, 400⟩
  | input => ⟨240, 40⟩
  | modal => ⟨500, 300⟩
  | icon => ⟨32, 32⟩
  | menu => ⟨200, 300⟩
  | form => ⟨400, 500⟩
  | list => ⟨300, 400⟩
  | table => ⟨600, 400⟩
  | fullWidth => ⟨800, 600⟩
  | generic => ⟨400, 300⟩

/-- Width over height of a preview of this kind when one side is declared. -/
def ratio : Kind → Ratio
  | button => ⟨3000⟩
  | tag => ⟨2500⟩
  | nav => ⟨10000⟩
  | card => ⟨875⟩
  | layout => ⟨1500⟩
  | input => ⟨6000⟩
  | modal => ⟨1670⟩
  | icon => ⟨1000⟩
  | menu => ⟨670⟩
  | form => ⟨800⟩
  | list => ⟨750⟩
  | table => ⟨1500⟩
  | fullWidth => ⟨1330⟩
  | generic => ⟨1330⟩

/-- The size of every kind can be read back. -/
theorem defaultSize_inRange (k : Kind) : k.defaultSize.InRange := by
  cases k <;> decide

/-- The opening tag of a list. -/
def listMarkup : Text.Pattern :=
  .all [.text "<", .oneOf [.text "ul", .text "ol"], .wordEdge]

/-- A rule for a kind: words of the file name (in lower case) and texts of the source, any of which
is enough. -/
structure Rule where
  kind : Kind
  fileWords : List String
  sourceTexts : List String := []
  sourcePattern : Option Text.Pattern := none

/-- The rule applies to a source in a file, whose name is in lower case. -/
def Rule.applies (r : Rule) (source fileName : String) : Bool :=
  r.fileWords.any (Text.occursIn · fileName) ||
    r.sourceTexts.any (Text.occursIn · source) ||
    r.sourcePattern.any (·.occursIn source.toList)

/-- The rules, in the order in which they are tried. -/
def rules : List Rule :=
  [{ kind := button, fileWords := ["button"], sourceTexts := ["<button", "role=\"button\""] },
   { kind := card, fileWords := ["card"], sourceTexts := ["card", "Card"] },
   { kind := tag, fileWords := ["tag", "badge"] },
   { kind := nav, fileWords := ["nav", "header"] },
   { kind := layout, fileWords := ["layout", "page", "container"] },
   { kind := input, fileWords := ["input", "field"] },
   { kind := modal, fileWords := ["modal", "dialog"] },
   { kind := icon, fileWords := ["icon"] },
   { kind := menu, fileWords := ["menu", "dropdown"] },
   { kind := form, fileWords := ["form"] },
   { kind := list, fileWords := ["list"], sourcePattern := some listMarkup },
   { kind := table, fileWords := ["table"], sourceTexts := ["<table"] },
   { kind := fullWidth, fileWords := [],
     sourceTexts := ["width: '100%'", "width: \"100%\"", "width: 100%", "maxWidth"] }]

/-- The kind of the component in a file. -/
def classify (source fileName : String) : Kind :=
  match rules.find? (·.applies source (Text.lowercase fileName)) with
  | some r => r.kind
  | none => generic

end Kind

end SceneBoard
