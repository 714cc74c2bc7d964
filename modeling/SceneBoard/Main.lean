import SceneBoard.Cli

/-! # The program

The command on the disk of the machine. What a call can see of the disk is read into a workspace,
the call is made there, and the storyboard that it leaves is stored. Links are read as what they
lead to.
-/

namespace SceneBoard.Disk

/-- A path leads to a folder. -/
def isFolder (path : String) : IO Bool :=
  try (← IO.FS.realPath path).isDir catch _ => return false

/-- What stands at a path, with everything below it; nothing if it cannot be read. -/
partial def readEntry (path : String) : IO (Option Entry) :=
  try
    let real ← IO.FS.realPath path
    if ← real.isDir then
      let mut folder := Folder.empty
      for e in ← real.readDir do
        if let some inner ← readEntry e.path.toString then
          folder := Folder.cons e.fileName inner folder
      return some (.folder folder)
    else
      return some (.file (← IO.FS.readBinFile real))
  catch _ => return none

/-- The workspace with what was read at the end of a path. -/
def withEntry (w : Workspace) (p : Path) : Option Entry → Workspace
  | some (.file content) => (w.writeFile p content).1
  | some (.folder inner) =>
    let w := (w.makeFolders p).1
    match w.resolve p with
    | .ok place => { w with disk := w.disk.modify (fun _ => inner) place }
    | .error _ => w
  | none => w

/-- The workspace with the folders on the way of a path, as far as they exist, and the file at which
the way ends too early, if it does. -/
def readWay (w : Workspace) (p : Path) : IO Workspace := do
  let mut w := w
  let segments := p.segments
  for i in [0:segments.length] do
    let head := "/".intercalate (segments.take i)
    if ← isFolder head then
      w := (w.makeFolders ⟨head⟩).1
    else
      w := withEntry w ⟨head⟩ (← readEntry head)
  return w

/-- The workspace with what stands at a path. -/
def readPath (w : Workspace) (p : Path) : IO Workspace := do
  return withEntry (← readWay w p) p (← readEntry p.text)

/-- The workspace in which the program was called, with nothing read yet. -/
def workspace : IO Workspace := do
  let here := (← IO.currentDir).toString
  -- the number becomes part of a file name, so it has to stay short
  let process := (← IO.monoNanosNow) % 100000
  let w : Workspace := { disk := .empty, here := [], process }
  return { (w.makeFolders ⟨here⟩).1 with here := (Text.pieces '/' here).filter (· != "") }

/-- The workspace with all that a call with these arguments looks at. -/
def read (a : Arguments) : IO Workspace := do
  let mut w ← workspace
  if let some path := a.config then
    w ← readPath w path
  match Config.load w a.config a.runFlags with
  | .error _ => return w
  | .ok config => readPath (← readPath w config.sourceRoot) config.output

/-- Store the text of a storyboard, whole or not at all. -/
def store (w : Workspace) (output : Path) (text : String) : IO Unit := do
  if let some parent := output.parent? then
    if parent.text != "" then
      IO.FS.createDirAll parent.text
  let draft := (w.draftPath output).text
  try
    IO.FS.writeFile draft text
    IO.FS.rename draft output.text
  catch e =>
    -- a draft that cannot be used is not left behind
    try IO.FS.removeFile draft catch _ => pure ()
    throw e

/-- Make a call with the given arguments. -/
def call (arguments : List String) : IO CommandResult := do
  match Arguments.ofList arguments with
  | .error _ => return (execute (← workspace) arguments).2
  | .ok a =>
    let w ← read a
    let (after, result) := a.execute w
    if let .ok config := Config.load w a.config a.runFlags then
      if result.exitCode == 0 && !config.dryRun then
        if let some text := after.previousText config.output then
          store w config.output text
    return result

end SceneBoard.Disk

def main (arguments : List String) : IO UInt32 := do
  let result ← SceneBoard.Disk.call arguments
  let output ← IO.getStdout
  output.putStr result.output
  output.flush
  if let some line := result.error then
    (← IO.getStderr).putStrLn line
  return result.exitCode.toUInt32
