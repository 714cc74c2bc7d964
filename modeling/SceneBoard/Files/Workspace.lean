import SceneBoard.Files.Folder
import SceneBoard.Files.Path

/-! # Workspaces

A `Workspace` is a file system without links, with a current folder. A path is followed piece by
piece: two dots lead to the folder above, and every piece but the last must be a folder. Reading
never changes a workspace.

An operation that writes can fail for two reasons. Where the folders forbid it, nothing changes. Where
they allow it, it can still go wrong, since a right is missing, there is no room left or the device
fails: the `faults` of a workspace say so for the operations to come, and a file that is being written
may then be left with a part of its content. Only removing never goes wrong in this way, as it takes no
room and no right that making did not take.
-/

namespace SceneBoard

/-- Why the file system refuses. -/
inductive DiskError where
  | notFound
  /-- The device cannot be written or read. -/
  | deviceFailed
  /-- A right is missing. -/
  | accessDenied
  | busy
  | alreadyExists
  | notAFolder
  | isAFolder
  /-- There is no room left on the device. -/
  | noRoom
  | readOnly
  /-- A name on the way, or the whole path, is longer than the file system takes. -/
  | nameTooLong
  /-- There is a NUL character in the path, where the file system takes a path to end. -/
  | nulInPath
  /-- The bytes of a file are no text. -/
  | notText
  deriving DecidableEq

/-- The text of a refusal. -/
def DiskError.message : DiskError → String
  | notFound => "No such file or directory (os error 2)"
  | deviceFailed => "Input/output error (os error 5)"
  | accessDenied => "Permission denied (os error 13)"
  | busy => "Device or resource busy (os error 16)"
  | alreadyExists => "File exists (os error 17)"
  | notAFolder => "Not a directory (os error 20)"
  | isAFolder => "Is a directory (os error 21)"
  | noRoom => "No space left on device (os error 28)"
  | readOnly => "Read-only file system (os error 30)"
  | nameTooLong => "File name too long (os error 36)"
  | nulInPath => "file name contained an unexpected NUL byte"
  | notText => "stream did not contain valid UTF-8"

/-- What goes wrong with an operation that the folders allow. -/
inductive Fault where
  /-- It is refused before anything has changed. -/
  | refused (e : DiskError)
  /-- A file that is written breaks off behind so many bytes. Any other operation is done as a whole or
  not at all, so it is refused. -/
  | cutOff (length : Nat) (e : DiskError)
  deriving DecidableEq

/-- Why the operation fails. -/
def Fault.error : Fault → DiskError
  | refused e => e
  | cutOff _ e => e

/-- A file system, the folder in which paths begin, and the number of the process that works
there. -/
structure Workspace where
  disk : Folder
  here : List String
  process : Nat
  /-- What goes wrong with the operations to come that write, one after the other. Those behind the end
  of the list go well. -/
  faults : List (Option Fault) := []

namespace Workspace

/-! ## Following paths -/

/-- The number of bytes that a name can have. -/
def nameLimit : Nat :=
  255

/-- The number of bytes that a path can have. -/
def pathLimit : Nat :=
  4095

/-- Why a path is refused as it stands, before any of it is followed. -/
def refusal? (p : Path) : Option DiskError :=
  if p.text.toList.contains '\x00' then some .nulInPath
  else if p.text = "" then some .notFound
  else if pathLimit < p.text.utf8ByteSize then some .nameTooLong
  else none

/-- Follow the pieces of a path from an entry. The folders above it are given, the nearest first, each
with the name that was followed there; the result is the place that is reached. -/
def walk (above : List (String × Folder)) : Entry → List String → Except DiskError (List String)
  | _, [] => .ok (above.map (·.1)).reverse
  | .file _, _ :: _ => .error .notAFolder
  | .folder f, s :: more =>
    if Path.isIdle s then walk above (.folder f) more
    else if s = ".." then
      match above with
      -- the root is its own parent
      | [] => walk [] (.folder f) more
      | (_, parent) :: above => walk above (.folder parent) more
    else if nameLimit < s.utf8ByteSize then .error .nameTooLong
    else
      match f.find? s with
      | some e => walk ((s, f) :: above) e more
      | none => .error .notFound

/-- Follow the pieces of a path, from the root if it is absolute and from here if not. -/
def follow (w : Workspace) (p : Path) (segments : List String) : Except DiskError (List String) :=
  walk [] (.folder w.disk) (if p.isAbsolute then segments else w.here ++ segments)

/-- The place to which a path leads. -/
def resolve (w : Workspace) (p : Path) : Except DiskError (List String) :=
  match refusal? p with
  | some e => .error e
  | none => w.follow p p.segments

/-- What stands at the end of a path. -/
def entry (w : Workspace) (p : Path) : Except DiskError Entry :=
  match w.resolve p with
  | .error e => .error e
  | .ok place =>
    match w.disk.entry? place with
    | some e => .ok e
    | none => .error .notFound

/-- Something stands at the end of the path. -/
def has (w : Workspace) (p : Path) : Bool :=
  (w.entry p).isOk

/-- The folder at the end of a path. -/
def folder? (w : Workspace) (p : Path) : Option Folder :=
  match w.entry p with
  | .ok (.folder f) => some f
  | _ => none

/-- The text that bytes encode. -/
def textOf? (content : ByteArray) : Option String :=
  String.fromUTF8? content

/-- The text of a file. -/
def readText (w : Workspace) (p : Path) : Except DiskError String :=
  match w.entry p with
  | .error e => .error e
  | .ok (.folder _) => .error .isAFolder
  | .ok (.file content) =>
    match textOf? content with
    | some text => .ok text
    | none => .error .notText

/-! ## Writing -/

/-- Where something is to be written: in which folder and under which name, and whether a slash
stands behind the name. The name is missing if the path ends in dots or is the root. -/
structure Target where
  folder : List String
  name : Option String
  slash : Bool

/-- The pieces of a path without the empty ones at its end. -/
def trimSegments (segments : List String) : List String :=
  (segments.reverse.dropWhile (· == "")).reverse

/-- Where a path leads for writing: all pieces but the last are followed. -/
def target (w : Workspace) (p : Path) : Except DiskError Target :=
  match refusal? p with
  | some e => .error e
  | none =>
    let kept := trimSegments p.segments
    match w.follow p kept.dropLast with
    | .error e => .error e
    | .ok folder =>
      if !w.disk.isFolderAt folder then .error .notAFolder
      else
        let name := kept.getLast?.filter fun s => !(Path.isIdle s || s == "..")
        if name.any (nameLimit < ·.utf8ByteSize) then .error .nameTooLong
        else .ok ⟨folder, name, kept.length < p.segments.length⟩

/-- The workspace with an entry set in a folder. -/
def setEntry (w : Workspace) (folder : List String) (name : String) (e : Entry) : Workspace :=
  { w with disk := w.disk.modify (·.set name e) folder }

/-- The workspace with an entry removed from a folder. -/
def removeEntry (w : Workspace) (folder : List String) (name : String) : Workspace :=
  { w with disk := w.disk.modify (·.remove name) folder }

/-- What goes wrong with the next operation. -/
def fault? (w : Workspace) : Option Fault :=
  w.faults.head?.join

/-- The workspace in which one more operation has been tried. -/
def tried (w : Workspace) : Workspace :=
  { w with faults := w.faults.tail }

/-- Make a folder in a folder that is there. -/
def makeFolder (w : Workspace) (p : Path) : Workspace × Except DiskError Unit :=
  match w.target p with
  | .error e => (w, .error e)
  | .ok t =>
    match t.name with
    | none => (w, .error .alreadyExists)
    | some name =>
      if (w.disk.entry? (t.folder ++ [name])).isSome then (w, .error .alreadyExists)
      else match w.fault? with
        | some f => (w.tried, .error f.error)
        | none => (w.tried.setEntry t.folder name (.folder .empty), .ok ())

/-- Make the folder of a path; it does not matter if it is there. -/
def ensureFolder (w : Workspace) (p : Path) : Workspace × Except DiskError Unit :=
  match w.makeFolder p with
  | (w, .ok ()) => (w, .ok ())
  | (w, .error e) => if (w.folder? p).isSome then (w, .ok ()) else (w, .error e)

/-- Make the folder of a path and, as far as they are missing, those above it. The folders that were
made stay even if one cannot be made. -/
def makeFoldersUpTo : Nat → Workspace → Path → Workspace × Except DiskError Unit
  | 0, w, _ => (w, .error .notFound)
  | depth + 1, w, p =>
    if p.text = "" then (w, .ok ())
    else match w.ensureFolder p with
      | (w, .ok ()) => (w, .ok ())
      -- something above is missing
      | (w, .error .notFound) =>
        match p.parent? with
        | none => (w, .error .notFound)
        | some parent =>
          match makeFoldersUpTo depth w parent with
          | (w, .error e) => (w, .error e)
          | (w, .ok ()) => w.ensureFolder p
      | (w, .error e) => (w, .error e)

/-- Make the folder of a path and all folders above it. -/
def makeFolders (w : Workspace) (p : Path) : Workspace × Except DiskError Unit :=
  makeFoldersUpTo (p.segments.length + 1) w p

/-- Write a file in a folder that is there, in place of the one of its name. A file that breaks off
stays, with what was stored up to then. -/
def writeFile (w : Workspace) (p : Path) (content : ByteArray) :
    Workspace × Except DiskError Unit :=
  match w.target p with
  | .error e => (w, .error e)
  | .ok t =>
    match t.name with
    | none => (w, .error .isAFolder)
    | some name =>
      if w.disk.isFolderAt (t.folder ++ [name]) || t.slash then (w, .error .isAFolder)
      else match w.fault? with
        | some (.refused e) => (w.tried, .error e)
        | some (.cutOff length e) =>
          (w.tried.setEntry t.folder name (.file (content.extract 0 length)), .error e)
        | none => (w.tried.setEntry t.folder name (.file content), .ok ())

/-- Remove a file. -/
def removeFile (w : Workspace) (p : Path) : Except DiskError Workspace :=
  match w.target p with
  | .error e => .error e
  | .ok t =>
    match t.name with
    | none => .error .isAFolder
    | some name =>
      match w.disk.entry? (t.folder ++ [name]) with
      | none => .error .notFound
      | some (.folder _) => .error .isAFolder
      | some (.file _) =>
        if t.slash then .error .notAFolder else .ok (w.removeEntry t.folder name)

/-- Remove a folder with everything in it. -/
def removeFolder (w : Workspace) (p : Path) : Except DiskError Workspace :=
  match w.target p with
  | .error e => .error e
  | .ok t =>
    match t.name with
    | none => .error .busy
    | some name =>
      match w.disk.entry? (t.folder ++ [name]) with
      | none => .error .notFound
      | some (.file _) => .error .notAFolder
      | some (.folder _) => .ok (w.removeEntry t.folder name)

/-- Give a file another path, in place of the file that is there. -/
def moveFile (w : Workspace) (old new : Path) : Workspace × Except DiskError Unit :=
  match w.target old, w.target new with
  | .error e, _ => (w, .error e)
  | _, .error e => (w, .error e)
  | .ok o, .ok n =>
    match o.name, n.name with
    | some oldName, some newName =>
      match w.disk.entry? (o.folder ++ [oldName]) with
      | some (.file content) =>
        -- a slash behind a name asks for a folder, and this is a file
        if o.slash || n.slash then (w, .error .notAFolder)
        else if w.disk.isFolderAt (n.folder ++ [newName]) then (w, .error .isAFolder)
        else match w.fault? with
          | some f => (w.tried, .error f.error)
          | none =>
            ((w.tried.removeEntry o.folder oldName).setEntry n.folder newName (.file content), .ok ())
      | _ => (w, .error .notFound)
    | _, _ => (w, .error .busy)

end Workspace

end SceneBoard
