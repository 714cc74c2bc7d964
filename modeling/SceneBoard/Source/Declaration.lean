import SceneBoard.Source.Parameters
import SceneBoard.Text.Pattern

/-! # Declarations in a source file

Which names a source file declares as candidates for components: every named export, in source
order, and then each declaration of the name that the last default export refers to. What a text
must have to count as a source of user interface is here as well (`Source.hasMarkup`).
-/

namespace SceneBoard

open Text (Pattern)

/-- A declared name and the text of its parameter list. -/
structure Candidate where
  name : String
  parameters : String
  deriving DecidableEq

namespace Source

/-- A character that a declared name begins with. -/
def isNameStart (c : Char) : Bool :=
  c.isAlpha || c == '_' || c == '$'

/-- A character that a declared name goes on with. -/
def isNameRest (c : Char) : Bool :=
  Text.isWord c || c == '$'

/-- A declared name, as the first group. -/
def declaredName : Pattern :=
  .group 1 (.seq (.char isNameStart) (.many isNameRest))

/-- The keywords that introduce a declaration. -/
def declarator : Pattern :=
  .oneOf [.text "var", .text "const", .text "let", .text "function", .text "class"]

/-- An exported declaration up to its name. -/
def namedExport : Pattern :=
  .all [.wordEdge, .text "export", .blanks1, declarator, .blanks1, declaredName]

/-- A default export up to the name that it exports, of a variable or of a function or class
declared on the spot. -/
def defaultExport : Pattern :=
  .all [.wordEdge, .text "export", .blanks1, .text "default", .blanks1,
    .maybe (.oneOf
      [.all [.maybe (.seq (.text "async") .blanks1), .text "function", .blanks,
        .maybe (.text "*"), .blanks1],
       .seq (.text "class") .blanks1]),
    declaredName]

/-- Any declaration up to its name. -/
def declaration : Pattern :=
  .all [.wordEdge, declarator, .blanks1, declaredName]

/-- The names and parameter lists of the declarations that a pattern finds. -/
def declared (head : Pattern) (source : List Char) : List Candidate :=
  (head.findAll source).filterMap fun m =>
    (m.group? 1).map fun name =>
      ⟨String.ofList name, String.ofList (Parameters.following m.stop.rest)⟩

/-- The names that default exports refer to, in source order. The keywords of an anonymous function
or class are no names. -/
def defaultExports (source : String) : List String :=
  ((defaultExport.captures 1 source.toList).map String.ofList).filter fun name =>
    ["function", "class", "async"].all (· != name)

/-- The candidates for components in a source. -/
def candidates (source : String) : List Candidate :=
  declared namedExport source.toList ++
    -- of several default exports the last one counts
    match (defaultExports source).getLast? with
    | some name => (declared declaration source.toList).filter (·.name == name)
    | none => []

/-! ## Signs of user interface -/

/-- Markup that is returned from a function. -/
def markupReturn : Pattern :=
  .all [.oneOf [.seq .wordEdge (.text "return"), .text "=>"], .blanks, .maybe (.text "("), .blanks,
    .text "<"]

/-- Texts any of which shows that a source renders user interface. -/
def signs : List String :=
  ["import React", "import * as React", "extends React.Component", "extends Component",
   "useState", "useEffect", "useContext"]

/-- The source looks as if it rendered user interface. -/
def hasMarkup (source : String) : Bool :=
  (Text.occursIn "<" source && (Text.occursIn "/>" source || Text.occursIn "</" source)) ||
    signs.any (Text.occursIn · source) || markupReturn.occursIn source.toList

/-- A text in braces without a brace that closes it earlier. -/
def destructuring : Pattern :=
  .all [.text "\x7b", .many (· != '\x7d'), .text "\x7d"]

/-- A parameter list can take a style from outside: it names one, takes all properties or takes
them apart. -/
def acceptsStyle (parameters : String) : Bool :=
  ["style", "props", "..."].any (Text.occursIn · parameters) ||
    destructuring.occursIn parameters.toList

end Source

end SceneBoard
