import SceneBoard.Cli.Arguments
import SceneBoard.Run
import SceneBoard.Storyboard.Checks
import SceneBoard.Text.Json

/-! # What the command prints

A run that succeeded prints a summary of its report or, on a dry run, the storyboard itself; in the
JSON format it prints the report, on a dry run with the storyboard in it. Help and version are fixed
texts.
-/

namespace SceneBoard

/-- The help text. -/
def helpText : String :=
  "Scan a component tree and generate or update a positioned storyboard\n\n" ++
  "Usage: storyboard [OPTIONS]\n\n" ++
  "Options:\n" ++
  "      --src <DIR>        Source directory to scan [default: src]\n" ++
  "      --output <FILE>    Storyboard file to write [default: utopia/storyboard.js]\n" ++
  "      --config <FILE>    TOML file overriding paths, keyword lists and layout constants\n" ++
  "      --include-utils    Include utility files (utils.js, etc.)\n" ++
  "      --include-index    Include index files\n" ++
  "  -v, --verbose          Show detailed logs, including each component's full path\n" ++
  "  -q, --quiet            Only log warnings\n" ++
  "      --no-preserve      Create a fresh storyboard, discarding existing scene positions\n" ++
  "      --no-prune         Keep scenes whose component no longer exists\n" ++
  "      --no-force-regen   Don't report components whose scene is missing\n" ++
  "      --dry-run          Print the generated storyboard instead of writing it\n" ++
  "      --format <FORMAT>  [default: plain] [possible values: plain, json]\n" ++
  "  -h, --help             Print help\n" ++
  "  -V, --version          Print version\n"

/-- The version text. -/
def versionText : String :=
  "storyboard 0.3.0\n"

namespace Report

/-- A line with a label and a list, if there is anything to list. -/
def listLine (label : String) (items : List String) : String :=
  if items.isEmpty then "" else "  " ++ label ++ ": " ++ ", ".intercalate items ++ "\n"

/-- The line of a scene that moved. -/
def movedLine (r : Relocation) : String :=
  "  moved " ++ r.id ++ " from " ++ pointText r.fromLeft r.fromTop ++ " to " ++
    pointText r.toLeft r.toTop ++ "\n"

/-- The summary of a report. -/
def summary (r : Report) : String :=
  let count (n : Nat) : String := Text.decimalString n
  "Storyboard updated: " ++ r.output.text ++ "\n" ++
    "  " ++ count r.discovered ++ " components found, " ++ count r.kept ++ " scenes kept, " ++
    count r.placed.length ++ " placed\n" ++
    listLine "placed" r.placed ++
    listLine "missing scenes" r.missing ++
    listLine "pruned" (r.pruned.map fun p => p.id ++ " (" ++ p.component ++ ")") ++
    listLine "retained" r.retained ++
    listLine "superseded" r.superseded ++
    String.join (r.relocated.map movedLine) ++
    if r.isClean && r.placed.isEmpty then "  no changes to the layout\n" else ""

open Text (JsonLines) in
/-- The report in JSON, with the text of the storyboard on a dry run. Fields are in alphabetical
order. -/
def json (r : Report) (storyboard : String) : JsonLines :=
  let strings (ss : List String) : JsonLines := .array (ss.map .string)
  let point (left top : Int) : JsonLines := .array [.number left, .number top]
  .object
    ([("discovered", .number r.discovered),
      ("dry_run", .boolean r.dryRun),
      ("kept", .number r.kept),
      ("missing", strings r.missing),
      ("output", .string r.output.text),
      ("placed", strings r.placed),
      ("pruned", .array (r.pruned.map fun p =>
        .object [("component", .string p.component), ("id", .string p.id)])),
      ("relocated", .array (r.relocated.map fun m =>
        .object [("from", point m.fromLeft m.fromTop), ("id", .string m.id),
          ("to", point m.toLeft m.toTop)])),
      ("retained", strings r.retained),
      ("source_root", .string r.sourceRoot.text)] ++
      (if r.dryRun then [("storyboard", .string storyboard)] else []) ++
      [("superseded", strings r.superseded),
       ("written", .boolean r.written)])

end Report

/-- What a run that succeeded prints. -/
def RunOutcome.output (o : RunOutcome) : OutputFormat → String
  | .json => (o.report.json o.text).text ++ "\n"
  | .plain => if o.report.dryRun then o.text else o.report.summary

end SceneBoard
