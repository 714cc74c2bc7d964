import SceneBoard.Config

/-! # Command-line arguments

Arguments are read from left to right. A switch is given by its long name, or a few by a letter; an
option has a value, behind an equals sign or as the next argument. Nothing may be given twice, and
there are no other arguments. What is wrong first decides, except that a value is only looked at
when the next option is reached, and that `verbose` with `quiet` is found at the end.
-/

namespace SceneBoard

/-- How much is logged. -/
inductive LogLevel where
  | warn
  | info
  | debug
  deriving DecidableEq

/-- How the outcome is printed. -/
inductive OutputFormat where
  | plain
  | json
  deriving DecidableEq

/-- The arguments of a run. -/
structure Arguments where
  source : Option Path := none
  output : Option Path := none
  config : Option Path := none
  includeUtils : Bool := false
  includeIndex : Bool := false
  verbose : Bool := false
  quiet : Bool := false
  noPreserve : Bool := false
  noPrune : Bool := false
  noForceRegen : Bool := false
  dryRun : Bool := false
  format : OutputFormat := .plain
  deriving DecidableEq

/-- Why arguments are not those of a run. -/
inductive ArgumentError where
  /-- Help is asked for. -/
  | help
  /-- The version is asked for. -/
  | version
  | unknown
  /-- A value is missing or not one of those that are allowed. -/
  | invalidValue
  /-- An option is given twice, or together with one that excludes it. -/
  | conflict
  /-- A switch is given a value. -/
  | tooManyValues
  deriving DecidableEq

/-- The switches. -/
inductive Switch where
  | includeUtils | includeIndex | verbose | quiet | noPreserve | noPrune | noForceRegen | dryRun
  | help | version
  deriving DecidableEq

/-- The options with a value. -/
inductive ValueOption where
  | source | output | config | format
  deriving DecidableEq

/-- What a long name stands for. -/
inductive ArgumentName where
  | switch (s : Switch)
  | value (o : ValueOption)

namespace ArgumentName

/-- The long names. -/
def long : List (String × ArgumentName) :=
  [("src", .value .source), ("output", .value .output), ("config", .value .config),
   ("include-utils", .switch .includeUtils), ("include-index", .switch .includeIndex),
   ("verbose", .switch .verbose), ("quiet", .switch .quiet),
   ("no-preserve", .switch .noPreserve), ("no-prune", .switch .noPrune),
   ("no-force-regen", .switch .noForceRegen), ("dry-run", .switch .dryRun),
   ("format", .value .format), ("help", .switch .help), ("version", .switch .version)]

/-- The letters. -/
def short : List (Char × Switch) :=
  [('v', .verbose), ('q', .quiet), ('h', .help), ('V', .version)]

end ArgumentName

namespace Arguments

/-- Set a switch, which must not have been set. -/
def setSwitch (a : Arguments) : Switch → Except ArgumentError Arguments
  | .includeUtils =>
    if a.includeUtils then .error .conflict else .ok { a with includeUtils := true }
  | .includeIndex =>
    if a.includeIndex then .error .conflict else .ok { a with includeIndex := true }
  | .verbose => if a.verbose then .error .conflict else .ok { a with verbose := true }
  | .quiet => if a.quiet then .error .conflict else .ok { a with quiet := true }
  | .noPreserve => if a.noPreserve then .error .conflict else .ok { a with noPreserve := true }
  | .noPrune => if a.noPrune then .error .conflict else .ok { a with noPrune := true }
  | .noForceRegen =>
    if a.noForceRegen then .error .conflict else .ok { a with noForceRegen := true }
  | .dryRun => if a.dryRun then .error .conflict else .ok { a with dryRun := true }
  | .help => .error .help
  | .version => .error .version

/-- The path that a value is; it must not be empty. -/
def path? (value : String) : Except ArgumentError Path :=
  if value = "" then .error .invalidValue else .ok ⟨value⟩

/-- The format that a value names. -/
def format? (value : String) : Except ArgumentError OutputFormat :=
  if value = "plain" then .ok .plain
  else if value = "json" then .ok .json
  else .error .invalidValue

end Arguments

/-- Arguments that are being read. -/
structure ArgumentReader where
  arguments : Arguments
  /-- A format was given. -/
  hasFormat : Bool
  /-- The option whose value is still to be looked at, and its value if it has one. -/
  pending : Option (ValueOption × Option String)

namespace ArgumentReader

/-- Set an option, which must not have been set, to a value. -/
def setOption (r : ArgumentReader) (o : ValueOption) (value : String) :
    Except ArgumentError ArgumentReader :=
  let a := r.arguments
  match o with
  | .source =>
    if a.source.isSome then .error .conflict
    else (Arguments.path? value).map fun p => { r with arguments := { a with source := some p } }
  | .output =>
    if a.output.isSome then .error .conflict
    else (Arguments.path? value).map fun p => { r with arguments := { a with output := some p } }
  | .config =>
    if a.config.isSome then .error .conflict
    else (Arguments.path? value).map fun p => { r with arguments := { a with config := some p } }
  | .format =>
    if r.hasFormat then .error .conflict
    else (Arguments.format? value).map fun f =>
      { r with arguments := { a with format := f }, hasFormat := true }

/-- Look at the value of the pending option. -/
def settle (r : ArgumentReader) : Except ArgumentError ArgumentReader :=
  match r.pending with
  | none => .ok r
  | some (_, none) => .error .invalidValue
  | some (o, some value) => { r with pending := none }.setOption o value

/-- Set a switch. -/
def switch (r : ArgumentReader) (s : Switch) : Except ArgumentError ArgumentReader := do
  let r ← r.settle
  return { r with arguments := ← r.arguments.setSwitch s }

/-- Read a long name with the value behind its equals sign, if there is one. -/
def readLong (r : ArgumentReader) (name : String) (value : Option String) :
    Except ArgumentError ArgumentReader :=
  match ArgumentName.long.lookup name, value with
  | none, _ => .error .unknown
  | some (.switch s), none => r.switch s
  | some (.switch _), some _ => .error .tooManyValues
  | some (.value o), some value => do (← r.settle).setOption o value
  | some (.value o), none => do return { ← r.settle with pending := some (o, none) }

/-- Read letters. -/
def readShort (r : ArgumentReader) : List Char → Except ArgumentError ArgumentReader
  | [] => .ok r
  | c :: cs =>
    match ArgumentName.short.lookup c with
    | none => .error .unknown
    | some s =>
      match r.switch s with
      | .error e => .error e
      | .ok r => r.readShort cs

/-- Read an argument that does not begin with a dash: the value of the option before it. -/
def readPlain (r : ArgumentReader) (value : String) : Except ArgumentError ArgumentReader :=
  match r.pending with
  -- the value is kept, and looked at when the next option or the end is reached
  | some (o, none) => .ok { r with pending := some (o, some value) }
  | _ => .error .unknown

/-- Read an argument. -/
def read (r : ArgumentReader) (argument : String) : Except ArgumentError ArgumentReader :=
  match argument.toList with
  | '-' :: '-' :: cs =>
    let name := String.ofList (cs.takeWhile (· != '='))
    match cs.dropWhile (· != '=') with
    | [] => r.readLong name none
    | _ :: value => r.readLong name (some (String.ofList value))
  | '-' :: c :: cs => r.readShort (c :: cs)
  | _ => r.readPlain argument

/-- Read arguments. Behind two dashes only unknown ones could follow. -/
def readAll (r : ArgumentReader) : List String → Except ArgumentError ArgumentReader
  | [] => .ok r
  | argument :: arguments =>
    if argument = "--" then if arguments.isEmpty then .ok r else .error .unknown
    else match r.read argument with
      | .error e => .error e
      | .ok r => r.readAll arguments

end ArgumentReader

namespace Arguments

/-- Read the arguments of the program, without its name. -/
def ofList (arguments : List String) : Except ArgumentError Arguments := do
  let r ← (ArgumentReader.mk {} false none).readAll arguments
  let r ← r.settle
  if r.arguments.verbose && r.arguments.quiet then .error .conflict else .ok r.arguments

/-- How much is logged. -/
def logLevel (a : Arguments) : LogLevel :=
  if a.verbose then .debug else if a.quiet then .warn else .info

/-- The switches of the run. -/
def runFlags (a : Arguments) : RunFlags where
  source := a.source
  output := a.output
  includeUtils := a.includeUtils
  includeIndex := a.includeIndex
  verbose := a.verbose
  preserveExisting := !a.noPreserve
  prune := !a.noPrune
  forceRegenMissing := !a.noForceRegen
  dryRun := a.dryRun

end Arguments

end SceneBoard
