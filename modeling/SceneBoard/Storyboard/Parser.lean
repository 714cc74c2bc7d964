import SceneBoard.Distinct
import SceneBoard.Storyboard
import SceneBoard.Storyboard.Body
import SceneBoard.Text.Decimal
import SceneBoard.Text.Pattern

/-! # Reading a storyboard

A storyboard is read by its scene blocks and its import lines; the rest of the file does not
matter. A block counts only if its style tells all four numbers and they are in range. Of several
blocks with one id, and of several imports of one name, the first counts.
-/

namespace SceneBoard.Storyboard

open Text (Pattern)

/-! ## Patterns -/

/-- A character inside a tag. -/
def inTag (c : Char) : Bool :=
  c != '>'

/-- A character inside single quotes. -/
def inQuotes (c : Char) : Bool :=
  c != '\x27'

/-- An attribute in single quotes, whose value is remembered under a number. -/
def quotedAttribute (name : String) (n : Nat) : Pattern :=
  .all [.text name, .text "=\x27", .group n (.many1 inQuotes), .text "\x27"]

/-- A scene block: id, comment id, style, label and body, remembered as groups 1 to 5. -/
def sceneBlock : Pattern :=
  .all [.text "<Scene", .many inTag, quotedAttribute "id" 1, .many inTag, quotedAttribute "commentId" 2,
    .many inTag, .text "style=\x7b\x7b", .group 3 (.many fun c => c != '\x7d'),
    .text "\x7d\x7d", .many inTag, quotedAttribute "data-label" 4, .many inTag, .text ">",
    .group 5 (.few fun _ => true), .text "</Scene>"]

/-- A character of an imported name behind the first. -/
def isImportChar (c : Char) : Bool :=
  Text.isWord c || c == '$'

/-- An imported name. -/
def importName : Pattern :=
  .seq (.char Char.isUpper) (.many isImportChar)

/-- A space or a tab. -/
def isSpaceOrTab (c : Char) : Bool :=
  c == ' ' || c == '\t'

/-- An import line of a component: of a name in braces, remembered as group 1, or of the default,
remembered as group 2. -/
def componentImport : Pattern :=
  .all [.anchor .lineStart, .text "import", .blanks1,
    .alt (.all [.text "\x7b", .blanks, .group 1 importName, .blanks, .text "\x7d"])
      (.group 2 importName),
    .blanks1, .text "from", .blanks1, .text "\x27", .many inQuotes, .text "\x27",
    .many isSpaceOrTab, .maybe (.text ";"), .many isSpaceOrTab, .anchor .lineEnd]

/-- A style property with a length that cannot be negative. -/
def lengthProperty (name : String) : Pattern :=
  .all [.text name, .text ":", .blanks, .group 1 (.many1 Text.isDigit)]

/-- A style property with a coordinate. -/
def coordinateProperty (name : String) : Pattern :=
  .all [.text name, .text ":", .blanks, .group 1 (.seq (.maybe (.text "-")) (.many1 Text.isDigit))]

/-! ## Reading -/

/-- The number that a style gives for a property. -/
def number? (property : Pattern) (style : List Char) : Option Int :=
  (property.capture? 1 style).bind Text.readPixels?

/-- The box that a style describes, if it tells all of it and it is in range. -/
def box? (style : List Char) : Option Box := do
  let width ← number? (lengthProperty "width") style
  let height ← number? (lengthProperty "height") style
  let left ← number? (coordinateProperty "left") style
  let top ← number? (coordinateProperty "top") style
  let box : Box := ⟨⟨width, height⟩, left, top⟩
  -- a box out of range makes its block incomplete
  if box.InRange then some box else none

/-- The scene of a block. -/
def scene? (m : Text.Match) : Option Scene := do
  let id ← m.group? 1
  let style ← m.group? 3
  let label ← m.group? 4
  let body ← m.group? 5
  let box ← box? style
  let body := String.ofList body
  return ⟨String.ofList id, box, String.ofList label, Body.component? body, body⟩

/-- The import of a line. -/
def importLine? (m : Text.Match) : Option ImportLine :=
  (m.group? 1 <|> m.group? 2).map fun name =>
    ⟨String.ofList name, String.ofList (Text.trimRight m.text)⟩

/-- The storyboard in a text. -/
def parse (text : String) : Storyboard where
  scenes := distinctBy Scene.id ((sceneBlock.findAll text.toList).filterMap scene?)
  imports := distinctBy ImportLine.name ((componentImport.findAll text.toList).filterMap importLine?)

end SceneBoard.Storyboard
