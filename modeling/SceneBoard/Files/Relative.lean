import SceneBoard.Files.Workspace

/-! # Relative paths between folders

How one folder is reached from another, as a bundler wants it: beginning with a dot. Both paths are
first made absolute. As much of a path as exists is followed; what does not exist yet is kept as
written.
-/

namespace SceneBoard.Workspace

/-- The number of bytes of the longest place on the way along pieces. For the place where the way
begins and those above it the numbers are given, the nearest first. -/
def longestPlace : List Nat → List String → Nat
  | _, [] => 0
  | sizes, s :: more =>
    if Path.isIdle s then longestPlace sizes more
    else if s = ".." then longestPlace sizes.tail more
    else
      let size := sizes.headD 0 + 1 + s.utf8ByteSize
      max size (longestPlace (size :: sizes) more)

/-- The place to which the pieces of an absolute path lead. They are followed one by one, so it is the
places on the way that must not be too long, not the path. -/
def canonical? (w : Workspace) (segments : List String) : Option (List String) :=
  match walk [] (.folder w.disk) segments with
  | .ok place => if longestPlace [] segments ≤ pathLimit then some place else none
  | .error _ => none

/-- The absolute form of a path. -/
def absolute (w : Workspace) (p : Path) : Path :=
  if p.isAbsolute then p else (Path.ofPlace w.here).join p

/-- Follow as much of a path, given by its trail, as exists, and put the names behind it. A path whose
missing end is not made of names gives `whole`. -/
def normalizeFrom (w : Workspace) (whole : Path) : Nat → List String → List String → Path
  | 0, _, _ => whole
  | depth + 1, trail, names =>
    match w.canonical? trail.reverse with
    -- from here on nothing exists, so the names stay as they were written
    | some place => Path.ofPlace (place ++ names)
    | none =>
      match Path.trailParent? trail, Path.trailName? trail with
      | some parent, some name => normalizeFrom w whole depth parent (name :: names)
      | _, _ => whole

/-- The absolute path of what a path leads to, as far as it is there. -/
def normalize (w : Workspace) (p : Path) : Path :=
  let whole := w.absolute p
  let trail := whole.trail
  w.normalizeFrom whole (trail.length + 1) trail []

/-- Two lists without the beginning that they have in common. -/
def dropCommon {α : Type} [DecidableEq α] : List α → List α → List α × List α
  | a :: as, b :: bs => if a = b then dropCommon as bs else (a :: as, b :: bs)
  | as, bs => (as, bs)

/-- The path that leads from one folder to another: up as often as needed, then down. -/
def relative (w : Workspace) (source target : Path) : String :=
  let (up, down) := dropCommon (w.normalize source).parts (w.normalize target).parts
  let steps := up.map (fun _ => "..") ++ down.map (·.text)
  match steps with
  | [] => "."
  | ".." :: _ => "/".intercalate steps
  | _ => "./" ++ "/".intercalate steps

end SceneBoard.Workspace
