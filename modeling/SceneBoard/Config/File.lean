import SceneBoard.Files.Path
import SceneBoard.Layout.Settings
import SceneBoard.Plan
import SceneBoard.Toml.Document

/-! # Configuration files

A configuration file is a TOML document with overrides. Its top level knows no other keys than those
of `ConfigFile`; the tables of options, measures and sizes ignore what they do not know. Such a table
may also be given as an array of its values in their order, and a date counts as a table of nothing
known. All measures must be such that the layout can work with them.
-/

namespace SceneBoard

open Toml (Value Entries)

/-- Why a configuration cannot be used. -/
inductive ConfigError where
  /-- There is no such file. -/
  | notFound (path : Path)
  /-- The file is no TOML document, or not one of settings. -/
  | unreadable
  /-- A measure of the layout is out of its range. -/
  | layout (problem : LayoutProblem)
  deriving DecidableEq

/-- The text of the error. -/
def ConfigError.message : ConfigError → String
  | notFound path => "config file not found: " ++ path.text
  | unreadable => "TOML parse error"
  | layout problem => problem.message

/-- The overrides that a configuration file can hold. -/
structure ConfigFile where
  source : Option Path := none
  output : Option Path := none
  importPrefix : Option String := none
  ignore : Option (List String) := none
  forceInclude : Option (List String) := none
  extensions : Option (List String) := none
  autoSize : Option Bool := none
  reconcile : ReconcileOptions := {}
  layout : LayoutSettings := {}
  deriving DecidableEq

namespace ConfigFile

/-! ## Reading values -/

/-- The string that a value is. -/
def string? : Value → Option String
  | .string s => some s
  | _ => none

/-- The boolean that a value is. -/
def boolean? : Value → Option Bool
  | .boolean b => some b
  | _ => none

/-- The number of pixels that a value is. -/
def pixels? : Value → Option Int
  | .integer n => Pixels.check? n
  | _ => none

/-- The strings of which a value is an array. -/
def strings? : Value → Option (List String)
  | .array items => items.mapM string?
  | _ => none

/-- The fields of a value that stands for a structure with the given field names. A table may have
others, if there is no number in them that is too large; more items of an array than there are names
are not looked at. -/
def fields? (names : List String) : Value → Option Entries
  | .table _ entries =>
    if entries.all fun e => names.contains e.1 || e.2.fits then some entries else none
  | .array items => some (names.zip items)
  | .tables items => some (names.zip (items.map (.table .header)))
  | .date => some []
  | _ => none

/-- A field that must be there. -/
def required? {α : Type} (read : Value → Option α) (fields : Entries) (name : String) : Option α :=
  (fields.lookup name).bind read

/-- A field that may be missing; if it is there, it must be readable. -/
def optional? {α : Type} (read : Value → Option α) (fields : Entries) (name : String) :
    Option (Option α) :=
  match fields.lookup name with
  | none => some none
  | some v => (read v).map some

/-- A field with a default. -/
def field? {α : Type} (read : Value → Option α) (fields : Entries) (name : String) (default : α) :
    Option α :=
  (optional? read fields name).map (·.getD default)

/-- The size that a value is. -/
def size? (v : Value) : Option Size := do
  let fields ← fields? ["width", "height"] v
  return ⟨← required? pixels? fields "width", ← required? pixels? fields "height"⟩

/-- The options that a value gives. -/
def reconcile? (v : Value) : Option ReconcileOptions := do
  let fields ← fields? ["preserve_existing", "prune", "force_regen_missing"] v
  let d : ReconcileOptions := {}
  return { preserveExisting := ← field? boolean? fields "preserve_existing" d.preserveExisting
           prune := ← field? boolean? fields "prune" d.prune
           forceRegenMissing := ← field? boolean? fields "force_regen_missing" d.forceRegenMissing }

/-- The names of the measures, in their order. -/
def layoutFields : List String :=
  ["spacing", "default_scene", "top_row", "component_column_left", "component_column_top",
   "vertical_spacing", "sub_folder_column_left", "column_spacing", "gap_margin",
   "playground_size", "playground_left", "app_size", "app_left", "app_label"]

/-- The measures that a value gives. -/
def layout? (v : Value) : Option LayoutSettings := do
  let fields ← fields? layoutFields v
  let d : LayoutSettings := {}
  return { spacing := ← field? pixels? fields "spacing" d.spacing
           defaultScene := ← field? size? fields "default_scene" d.defaultScene
           topRow := ← field? pixels? fields "top_row" d.topRow
           componentColumnLeft :=
             ← field? pixels? fields "component_column_left" d.componentColumnLeft
           componentColumnTop := ← field? pixels? fields "component_column_top" d.componentColumnTop
           verticalSpacing := ← field? pixels? fields "vertical_spacing" d.verticalSpacing
           folderColumnLeft := ← field? pixels? fields "sub_folder_column_left" d.folderColumnLeft
           columnSpacing := ← field? pixels? fields "column_spacing" d.columnSpacing
           gapMargin := ← field? pixels? fields "gap_margin" d.gapMargin
           playgroundSize := ← field? size? fields "playground_size" d.playgroundSize
           playgroundLeft := ← field? pixels? fields "playground_left" d.playgroundLeft
           appSize := ← field? size? fields "app_size" d.appSize
           appLeft := ← field? pixels? fields "app_left" d.appLeft
           appLabel := ← field? string? fields "app_label" d.appLabel }

/-! ## Reading documents -/

/-- The keys of the top level. -/
def keys : List String :=
  ["src", "output", "import_prefix", "ignore", "force_include", "extensions", "auto_size",
   "reconcile", "layout"]

/-- The overrides in the entries of a document. -/
def ofEntries? (entries : Entries) : Option ConfigFile :=
  if !entries.all (keys.contains ·.1) then none
  else do
    let path? (v : Value) : Option Path := (string? v).map Path.mk
    return { source := ← optional? path? entries "src"
             output := ← optional? path? entries "output"
             importPrefix := ← optional? string? entries "import_prefix"
             ignore := ← optional? strings? entries "ignore"
             forceInclude := ← optional? strings? entries "force_include"
             extensions := ← optional? strings? entries "extensions"
             autoSize := ← optional? boolean? entries "auto_size"
             reconcile := ← field? reconcile? entries "reconcile" {}
             layout := ← field? layout? entries "layout" {} }

/-- The overrides in the text of a configuration file. -/
def ofText (text : String) : Except ConfigError ConfigFile :=
  match (Toml.parse? text).bind ofEntries? with
  | none => .error .unreadable
  | some file =>
    match file.layout.problem? with
    | some problem => .error (.layout problem)
    | none => .ok file

end ConfigFile

end SceneBoard
