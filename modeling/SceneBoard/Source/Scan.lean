import SceneBoard.Component
import SceneBoard.Distinct
import SceneBoard.Files.Workspace
import SceneBoard.Source.Declaration
import SceneBoard.Source.Selection
import SceneBoard.Source.SizeInference

/-! # Scanning a source tree

The components of a source tree: the candidates of its selected files, in the order of the files,
whose names begin with a capital letter. A name counts where it occurs first.
-/

namespace SceneBoard

/-- The source root is missing or is no folder. -/
structure RootNotFound where
  root : Path
  deriving DecidableEq

/-- The text of the error. -/
def RootNotFound.message (e : RootNotFound) : String :=
  "Source directory not found: " ++ e.root.text

namespace Source

/-- The first character of a name is a capital letter. -/
def isCapitalized (name : String) : Bool :=
  name.toList.head?.any Char.isUpper

/-- The components of a file at a path below the source root. -/
def componentsOf (selection : Selection) (path fileName source : String) : List Component :=
  if !hasMarkup source then []
  else
    let category := Category.ofPath path
    let size := if selection.autoSize && category != .page then
      some (SizeInference.infer source fileName).size else none
    let defaults := defaultExports source
    ((candidates source).filter fun c => isCapitalized c.name).map fun c =>
      { name := c.name, path, category, size
        acceptsStyle := acceptsStyle c.parameters
        defaultExport := defaults.contains c.name }

/-- The components of a file, given the names that lead to it and its bytes. A file that is not
selected, or is no text, has none. -/
def componentsAt (selection : Selection) (place : List String) (content : ByteArray) :
    List Component :=
  match place.getLast? with
  | none => []
  | some fileName =>
    let path := "/".intercalate place
    -- what is not selected is not even read as text
    if !(extension? fileName).any selection.extensions.contains ||
        selection.ignores (baseName fileName) path then []
    else match Workspace.textOf? content with
      | some source => componentsOf selection path fileName source
      | none => []

/-- The files below a source root that can be opened: their paths, which begin with that of the root,
must not be too long. -/
def openFiles (root : Path) (folder : Folder) : List (List String × ByteArray) :=
  folder.filesInOrder.filter fun f =>
    (Workspace.refusal? (root.join ⟨"/".intercalate f.1⟩)).isNone

/-- The components of files, each given by the names that lead to it and its bytes. -/
def componentsIn (selection : Selection) (files : List (List String × ByteArray)) :
    List Component :=
  distinctBy Component.name (files.flatMap fun f => componentsAt selection f.1 f.2)

/-- The components of a source tree. -/
def scan (w : Workspace) (root : Path) (selection : Selection) :
    Except RootNotFound (List Component) :=
  match w.folder? root with
  | some folder => .ok (componentsIn selection (openFiles root folder))
  | none => .error ⟨root⟩

end Source

end SceneBoard
