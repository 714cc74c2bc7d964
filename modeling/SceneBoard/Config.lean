import SceneBoard.Config.File
import SceneBoard.Files.Relative
import SceneBoard.Source.Selection

/-! # Configurations

Everything that one run needs, settled before it begins: the switches of the command line over the
configuration file over the defaults. Relative paths in a configuration file begin in its own
folder. Reconciliation can only be switched off, by either side.
-/

namespace SceneBoard

/-- The switches of a run. -/
structure RunFlags where
  source : Option Path := none
  output : Option Path := none
  includeUtils : Bool := false
  includeIndex : Bool := false
  verbose : Bool := false
  preserveExisting : Bool := true
  prune : Bool := true
  forceRegenMissing : Bool := true
  dryRun : Bool := false
  deriving DecidableEq

/-- Everything that one run needs. -/
structure Config where
  sourceRoot : Path
  output : Path
  importPrefix : String
  selection : Selection
  reconcile : ReconcileOptions
  layout : LayoutSettings
  verbose : Bool
  dryRun : Bool
  deriving DecidableEq

namespace Config

/-- A path of a configuration file, given the folder in which that lies. -/
def locate (folder : Option Path) (p : Path) : Path :=
  match folder with
  | some folder => folder.join p
  | none => p

/-- The files to select, without the ignored keywords that switches take back. -/
def selectionOf (file : ConfigFile) (flags : RunFlags) : Selection :=
  let d : Selection := {}
  let ignore := (file.ignore.getD d.ignore).filter fun keyword =>
    !(flags.includeUtils && keyword == "utils") && !(flags.includeIndex && keyword == "index")
  { ignore
    forceInclude := file.forceInclude.getD d.forceInclude
    extensions := file.extensions.getD d.extensions
    autoSize := file.autoSize.getD d.autoSize }

/-- The options of a reconciliation: what neither side switches off. -/
def reconcileOf (file : ConfigFile) (flags : RunFlags) : ReconcileOptions where
  preserveExisting := file.reconcile.preserveExisting && flags.preserveExisting
  prune := file.reconcile.prune && flags.prune
  forceRegenMissing := file.reconcile.forceRegenMissing && flags.forceRegenMissing

/-- The prefix by which a storyboard reaches the source root. -/
def importPrefixFor (w : Workspace) (output sourceRoot : Path) : String :=
  w.relative (output.parent?.getD ⟨""⟩) sourceRoot

/-- The configuration of a file in a folder and of switches. -/
def make (w : Workspace) (folder : Option Path) (file : ConfigFile) (flags : RunFlags) : Config :=
  let sourceRoot := (flags.source <|> file.source.map (locate folder)).getD ⟨"src"⟩
  let output := (flags.output <|> file.output.map (locate folder)).getD ⟨"utopia/storyboard.js"⟩
  -- switches are relative to the current folder, the file's paths to the file's folder
  { sourceRoot, output
    importPrefix := file.importPrefix.getD (importPrefixFor w output sourceRoot)
    selection := selectionOf file flags
    reconcile := reconcileOf file flags
    layout := file.layout
    verbose := flags.verbose
    dryRun := flags.dryRun }

end Config

end SceneBoard
