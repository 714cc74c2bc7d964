import SceneBoard.Config
import SceneBoard.Files.Store
import SceneBoard.Report
import SceneBoard.Source.Scan

/-! # Runs

A run scans the source tree, generates the storyboard from the previous one and stores it, unless it
is a dry run. A run that fails leaves the previous storyboard as it was.
-/

namespace SceneBoard

/-- Why a run failed. -/
inductive RunError where
  /-- The source tree cannot be scanned. -/
  | scan (e : RootNotFound)
  /-- The configuration file cannot be read from the disk. -/
  | disk (e : DiskError)
  /-- The storyboard cannot be stored. -/
  | write (path : Path) (e : DiskError)
  /-- The configuration cannot be used. -/
  | config (e : ConfigError)
  deriving DecidableEq

/-- The text of the error. -/
def RunError.message : RunError → String
  | scan e => "Scan error: " ++ e.message
  | disk e => "IO error: " ++ e.message
  | write path e => "Failed to write " ++ path.text ++ ": " ++ e.message
  | config e => "Configuration error: " ++ e.message

/-- The text of what is behind the error, where that is an error of its own. -/
def RunError.cause? : RunError → Option String
  | scan e => some e.message
  | disk e => some e.message
  | write _ e => some e.message
  | config _ => none

/-- What a run that succeeded leaves: the report and the text of the storyboard. -/
structure RunOutcome where
  report : Report
  text : String

namespace Config

/-- Read a configuration file, and the configuration that it makes with the switches. -/
def ofFile (w : Workspace) (path : Path) (flags : RunFlags) : Except RunError Config :=
  if !w.has path then .error (.config (.notFound path))
  else match w.readText path with
    | .error e => .error (.disk e)
    | .ok text =>
      match ConfigFile.ofText text with
      | .error e => .error (.config e)
      | .ok file => .ok (make w path.parent? file flags)

/-- The configuration of the switches and, if there is one, of a configuration file. -/
def load (w : Workspace) (path : Option Path) (flags : RunFlags) : Except RunError Config :=
  match path with
  | some path => ofFile w path flags
  | none => .ok (make w none {} flags)

end Config

/-- The components and the generation of a run, before anything is written. -/
def Config.generation (w : Workspace) (config : Config) :
    Except RootNotFound (List Component × Generation) :=
  match Source.scan w config.sourceRoot config.selection with
  | .error e => .error e
  | .ok components =>
    .ok (components, generate components (w.previousText config.output) config.reconcile
      config.layout config.importPrefix)

/-- Run with a configuration: the workspace afterwards, and the outcome. -/
def Config.run (w : Workspace) (config : Config) : Workspace × Except RunError RunOutcome :=
  match config.generation w with
  | .error e => (w, .error (.scan e))
  | .ok (components, g) =>
    let report :=
      Report.ofGeneration config.sourceRoot config.output components.length config.dryRun g
    -- a dry run ends before anything is written
    if config.dryRun then (w, .ok ⟨report, g.text⟩)
    else match w.replaceFile config.output g.text with
      | (w, .error e) => (w, .error (.write config.output e))
      | (w, .ok ()) => (w, .ok ⟨{ report with written := true }, g.text⟩)

end SceneBoard
