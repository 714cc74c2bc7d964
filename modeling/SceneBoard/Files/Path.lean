import SceneBoard.Text.Search

/-! # Paths

A path is kept as it was written. Its parts are what lies between slashes, without the empty ones
and without dots, except that a dot at the beginning of a relative path counts. The parent of a path
and the joining of two keep the way in which the path was written.
-/

namespace SceneBoard

/-- A path as written. -/
structure Path where
  text : String
  deriving DecidableEq

/-- A part of a path. -/
inductive PathPart where
  /-- The slash at the beginning of an absolute path. -/
  | root
  /-- The dot at the beginning of a relative path. -/
  | here
  /-- Two dots. -/
  | up
  | name (s : String)
  deriving DecidableEq

/-- The text of a part. -/
def PathPart.text : PathPart → String
  | root => "/"
  | here => "."
  | up => ".."
  | name s => s

namespace Path

/-- The pieces between slashes, empty ones included. -/
def segments (p : Path) : List String :=
  Text.pieces '/' p.text

/-- The path begins with a slash. -/
def isAbsolute (p : Path) : Bool :=
  p.text.toList.head? == some '/'

/-- A piece that does not count as a part, unless it is the first. -/
def isIdle (segment : String) : Bool :=
  segment == "" || segment == "."

/-- The part that a piece is. -/
def partOf (segment : String) : Option PathPart :=
  if isIdle segment then none else if segment = ".." then some .up else some (.name segment)

/-- The parts of a path. -/
def parts (p : Path) : List PathPart :=
  match p.segments with
  | [] => []
  | first :: more =>
    (if p.isAbsolute then [.root] else if first = "." then [.here] else (partOf first).toList) ++
      more.filterMap partOf

/-- The parts of a path with slashes between them. -/
def slashed (p : Path) : String :=
  "/".intercalate (p.parts.map (·.text))

/-! ## From the end -/

/-- The pieces of a path, the last one first. -/
def trail (p : Path) : List String :=
  p.segments.reverse

/-- The path of a trail. -/
def ofTrail (pieces : List String) : Path :=
  ⟨"/".intercalate pieces.reverse⟩

/-- A trail without the idle pieces it begins with. The first piece of the path stays. -/
def dropIdle : List String → List String
  | [] => []
  | [first] => [first]
  | s :: more => if isIdle s then dropIdle more else s :: more

/-- The name at the end of the path of a trail, if it ends in one. -/
def trailName? (pieces : List String) : Option String :=
  match (dropIdle pieces).head?.bind partOf with
  | some (.name s) => some s
  | _ => none

/-- The trail of a path without its last part; none if it has no part or is the root. -/
def trailParent? (pieces : List String) : Option (List String) :=
  match dropIdle pieces with
  | [] => none
  -- an empty first piece is no part, or stands for the root
  | [first] => if first = "" then none else some [""]
  | _ :: more =>
    match dropIdle more with
    | [""] => some ["", ""]
    | kept => some kept

/-- The name at the end of a path, if it ends in one. -/
def fileName? (p : Path) : Option String :=
  trailName? p.trail

/-- The path without its last part; none if it has no part or is the root. -/
def parent? (p : Path) : Option Path :=
  (trailParent? p.trail).map ofTrail

/-! ## Joining -/

/-- A path below another one; an absolute path stays as it is. -/
def join (base p : Path) : Path :=
  if p.isAbsolute || base.text = "" then p
  else if base.text.toList.getLast? = some '/' then ⟨base.text ++ p.text⟩
  else ⟨base.text ++ "/" ++ p.text⟩

/-- The path with another name at its end. -/
def withName (p : Path) (name : String) : Path :=
  match p.fileName?, p.parent? with
  | some _, some parent => parent.join ⟨name⟩
  | _, _ => p.join ⟨name⟩

/-- The absolute path of a place, given by the names that lead to it from the root. -/
def ofPlace (place : List String) : Path :=
  ⟨"/" ++ "/".intercalate place⟩

end Path

/-- The part of a file name before its last dot; all of it if the dot is its first character. -/
def baseName (name : String) : String :=
  let cs := name.toList
  let tail := cs.reverse.takeWhile (· != '.')
  if cs.length ≤ tail.length + 1 then name
  else String.ofList (cs.take (cs.length - tail.length - 1))

/-- The part of a file name behind its last dot, if that is not its first character. -/
def extension? (name : String) : Option String :=
  let cs := name.toList
  let tail := cs.reverse.takeWhile (· != '.')
  if cs.length ≤ tail.length + 1 then none else some (String.ofList tail.reverse)

end SceneBoard
