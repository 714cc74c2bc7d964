import SceneBoard.Files.Workspace
import SceneBoard.Text.Decimal

/-! # Storing a storyboard

The storyboard file is replaced as a whole: the new text is written to a file beside it, which is
then given its name. Whatever fails, the file that was there keeps its content, and no other file is
left behind.
-/

namespace SceneBoard.Workspace

/-- The text of the previous storyboard; none if there is no file, or none that can be read. -/
def previousText (w : Workspace) (p : Path) : Option String :=
  (w.readText p).toOption

/-- The file beside a file into which its new content is written first. -/
def draftPath (w : Workspace) (p : Path) : Path :=
  p.withName ("." ++ p.fileName?.getD "" ++ "." ++ String.ofList (Text.natDecimal w.process) ++
    ".tmp")

/-- The workspace after an attempt to remove a file. -/
def discard (w : Workspace) (p : Path) : Workspace :=
  (w.removeFile p).toOption.getD w

/-- Make the folder in which a file is to stand. -/
def makeParent (w : Workspace) (p : Path) : Workspace × Except DiskError Unit :=
  match p.parent? with
  | some parent => w.makeFolders parent
  | none => (w, .ok ())

/-- Replace the content of a file, making the folders above it. -/
def replaceFile (w : Workspace) (p : Path) (text : String) : Workspace × Except DiskError Unit :=
  match w.makeParent p with
  | (w, .error e) => (w, .error e)
  | (w, .ok ()) =>
    -- until the draft gets its name, the file itself is not touched
    let draft := w.draftPath p
    match w.writeFile draft text.toUTF8 with
    -- there may be a draft with a part of the text
    | (w, .error e) => (w.discard draft, .error e)
    | (w, .ok ()) =>
      match w.moveFile draft p with
      | (w, .error e) => (w.discard draft, .error e)
      | (w, .ok ()) => (w, .ok ())

end SceneBoard.Workspace
