import SceneBoard.Component
import SceneBoard.Text.Lowercase
import SceneBoard.Text.Search

/-! # Selecting source files

Which files of a source tree are read, by extension and by keywords in their names, and what the
place of a file in the tree says about its components.
-/

namespace SceneBoard

/-- The rules for selecting and sizing. -/
structure Selection where
  /-- A file is skipped if its name or path has one of these in it, whatever their case. -/
  ignore : List String :=
    ["index", "utils", "router", "spec", "mock", "helpers", "constants", "types"]
  /-- A file is not skipped if its name has one of these in it, whatever their case. -/
  forceInclude : List String := []
  /-- The accepted extensions, without the dot. -/
  extensions : List String := ["jsx", "js", "tsx", "ts"]
  /-- Sizes are worked out for the files below a `components` folder. -/
  autoSize : Bool := true
  deriving DecidableEq

/-- The text has the keyword in it, in any case; the text is in lower case. -/
def mentions (lowered keyword : String) : Bool :=
  Text.occursIn (Text.lowercase keyword) lowered

/-- The file with this base name and path below the source root is skipped. -/
def Selection.ignores (s : Selection) (baseName path : String) : Bool :=
  let base := Text.lowercase baseName
  let path := Text.lowercase path
  s.ignore.any (fun k => mentions base k || mentions path k) && !s.forceInclude.any (mentions base)

/-- The category of the components in a file, by the first folder called `components` among those
that hold it. -/
def Category.ofPath (path : String) : Category :=
  match (Text.pieces '/' path).dropLast.dropWhile (· != "components") with
  | [] => .page
  | [_] => .component
  | _ :: name :: _ => .folder name

end SceneBoard
