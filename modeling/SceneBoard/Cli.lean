import SceneBoard.Cli.Arguments
import SceneBoard.Cli.Output

/-! # The command

One call of the command in a workspace: what it prints and leaves behind.
-/

namespace SceneBoard

/-- What a call of the command gives back. -/
structure CommandResult where
  exitCode : Nat
  output : String
  /-- The line on the error stream, if the run failed. -/
  error : Option String

/-- The line of a failed run: what was being done, what went wrong and what is behind it. -/
def RunError.line (doing : String) (e : RunError) : String :=
  ": ".intercalate (["Error", doing, e.message] ++ e.cause?.toList)

/-- What was being done when the configuration could not be loaded. -/
def loadingText (path : Option Path) : String :=
  match path with
  | some path => "Failed to load config from " ++ path.text
  | none => "Failed to build configuration"

/-- Run with arguments that were read. -/
def Arguments.execute (w : Workspace) (a : Arguments) : Workspace × CommandResult :=
  match Config.load w a.config a.runFlags with
  | .error e => (w, ⟨1, "", some (e.line (loadingText a.config))⟩)
  | .ok config =>
    match config.run w with
    | (w, .error e) =>
      (w, ⟨1, "", some (e.line ("Failed to generate storyboard from " ++ config.sourceRoot.text))⟩)
    | (w, .ok outcome) => (w, ⟨0, outcome.output a.format, none⟩)

/-- One call of the command, with the arguments behind its name. -/
def execute (w : Workspace) (arguments : List String) : Workspace × CommandResult :=
  match Arguments.ofList arguments with
  | .ok a => a.execute w
  | .error .help => (w, ⟨0, helpText, none⟩)
  | .error .version => (w, ⟨0, versionText, none⟩)
  | .error _ => (w, ⟨2, "", none⟩)

end SceneBoard
