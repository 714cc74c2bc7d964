/-! # Folders

What a folder holds: files with their bytes, and further folders. A folder is a list of entries, so
that everything on it is recursion over one type. Entries are looked up, set and removed along
places, that is along the names that lead to them from the folder.
-/

namespace SceneBoard

/-- The entries of a folder. -/
inductive Folder where
  | empty
  | file (name : String) (content : ByteArray) (rest : Folder)
  | folder (name : String) (inner : Folder) (rest : Folder)

/-- What a name in a folder stands for. -/
inductive Entry where
  | file (content : ByteArray)
  | folder (inner : Folder)

namespace Folder

/-- The folder that begins with one more entry. -/
def cons (name : String) : Entry → Folder → Folder
  | .file content, rest => .file name content rest
  | .folder inner, rest => .folder name inner rest

/-- The entry of a name. -/
def find? (name : String) : Folder → Option Entry
  | .empty => none
  | .file n content rest => if n = name then some (.file content) else rest.find? name
  | .folder n inner rest => if n = name then some (.folder inner) else rest.find? name

/-- The folder with an entry replaced, or added at the end. -/
def set (name : String) (e : Entry) : Folder → Folder
  | .empty => cons name e .empty
  | .file n content rest =>
    if n = name then cons name e rest else .file n content (rest.set name e)
  | .folder n inner rest =>
    if n = name then cons name e rest else .folder n inner (rest.set name e)

/-- The folder without the entry of a name. -/
def remove (name : String) : Folder → Folder
  | .empty => .empty
  | .file n content rest => if n = name then rest else .file n content (rest.remove name)
  | .folder n inner rest => if n = name then rest else .folder n inner (rest.remove name)

/-- The entry at a place; the folder itself stands at the empty place. -/
def entry? : List String → Folder → Option Entry
  | [], f => some (.folder f)
  | name :: place, f =>
    match f.find? name with
    | some (.folder inner) => inner.entry? place
    | some (.file content) => if place = [] then some (.file content) else none
    | none => none

/-- There is a folder at the place. -/
def isFolderAt (f : Folder) (place : List String) : Bool :=
  match f.entry? place with
  | some (.folder _) => true
  | _ => false

/-- Change the folder at a place, if there is one. -/
def modify (change : Folder → Folder) : List String → Folder → Folder
  | [], f => change f
  | name :: place, f =>
    match f.find? name with
    | some (.folder inner) => f.set name (.folder (modify change place inner))
    | _ => f

/-- All files of a folder and below it, each with the place that leads to it. -/
def files : Folder → List (List String × ByteArray)
  | .empty => []
  | .file name content rest => ([name], content) :: rest.files
  | .folder name inner rest => inner.files.map (fun f => (name :: f.1, f.2)) ++ rest.files

/-- A place does not come after another one: names are compared one by one, by code points, and a
place comes before those below it. -/
def placeLe : List String → List String → Bool
  | [], _ => true
  | _ :: _, [] => false
  | a :: as, b :: bs => if a = b then placeLe as bs else a < b

/-- All files in the order of a walk that enters the folders and visits the entries of each by
name. -/
def filesInOrder (f : Folder) : List (List String × ByteArray) :=
  f.files.mergeSort fun a b => placeLe a.1 b.1

end Folder

end SceneBoard
