import SceneBoard.Toml.Quote

/-! # Reading a TOML document

A document is read line by line into a table. A key may be defined once; a table may be defined by
one header, after it was named as a parent in the headers of others; and dotted keys add only to
tables that dotted keys, or no line at all, have defined. Every violation makes the document
unreadable, and so does every error of the notation.

The readers take a number of steps as their bound. It is never less than the number of characters
that are left, and each step reads at least one.
-/

namespace SceneBoard.Toml

/-- A text without the spaces and tabs it begins with. -/
def skipSpaces (cs : List Char) : List Char :=
  cs.dropWhile isSpace

/-- A text without the comment it begins with, if it begins with one; none if the comment holds a
control character. -/
def skipComment? : List Char → Option (List Char)
  | '#' :: cs =>
    match cs.dropWhile isText with
    | [] => some []
    | more => (afterLineEnd? more).map fun _ => more
  | cs => some cs

/-- A text without the spaces, comments and line ends it begins with. -/
def skipTrivia? : Nat → List Char → Option (List Char)
  | 0, _ => none
  | fuel + 1, cs =>
    match skipComment? (skipSpaces cs) with
    | none => none
    | some more =>
      match afterLineEnd? more with
      | some next => skipTrivia? fuel next
      | none => some more

/-- The text behind the end of a line, on which only a comment may stand; nothing at the end of the
document. -/
def endLine? (cs : List Char) : Option (List Char) :=
  match skipComment? (skipSpaces cs) with
  | none => none
  | some [] => some []
  | some more => afterLineEnd? more

/-! ## Keys -/

/-- The number of parts that a key can have, and of brackets and braces that can stand around a
value. -/
def maxDepth : Nat :=
  80

/-- Read the parts of a key, with the spaces around them. -/
def parts? : Nat → List Char → Option (List String × List Char)
  | 0, _ => none
  | fuel + 1, cs => do
    let (part, more) ← simpleKey? (fuel + 1) (skipSpaces cs)
    match skipSpaces more with
    | '.' :: next =>
      let (parts, rest) ← parts? fuel next
      return (part :: parts, rest)
    | rest => return ([part], rest)

/-- Read a key, dotted or not, with the spaces around it. -/
def key? (fuel : Nat) (cs : List Char) : Option (List String × List Char) :=
  (parts? fuel cs).filter fun r => r.1.length ≤ maxDepth

/-! ## Adding to tables -/

/-- Change the table that a path leads to, where `kind` says how the table came about from which the
path starts. What is missing on the way is created. Behind an array of tables the path goes on in its
last table; no path goes into an inline table, and none of a dotted key into a table that a header
has opened. -/
def descend? (isDotted : Bool) (change : TableKind → Entries → Option Entries) :
    TableKind → Entries → List String → Option Entries
  | kind, entries, [] => change kind entries
  | _, entries, key :: path =>
    match entries.lookup key with
    | none =>
      let kind := if isDotted then .dotted else .implicit
      (descend? isDotted change kind [] path).map fun inner => entries.set key (.table kind inner)
    | some (.table kind inner) =>
      if kind = .inline ∨ (isDotted ∧ kind = .header) then none
      else
        (descend? isDotted change kind inner path).map fun inner =>
          entries.set key (.table kind inner)
    | some (.tables items) =>
      match items.getLast? with
      | none => none
      | some last =>
        (descend? isDotted change .header last path).map fun last =>
          entries.set key (.tables (items.dropLast ++ [last]))
    | _ => none

/-- Define a key in a table, dotted or not. The table to which a dotted key adds must be one that
dotted keys have defined, or new. -/
def define? (path : List String) (value : Value) (entries : Entries) : Option Entries :=
  match path.getLast? with
  | none => none
  | some key =>
    let add (kind : TableKind) (entries : Entries) : Option Entries :=
      if (path.length = 1 ∨ kind = .dotted) ∧ (entries.lookup key).isNone then
        some (entries.set key value)
      else none
    descend? true add .header entries path.dropLast

/-- Open the table of a header: a new one, or one that so far was only named as a parent. -/
def openTable? (key : String) (entries : Entries) : Option Entries :=
  match entries.lookup key with
  | none => some (entries.set key (.table .header []))
  | some (.table .implicit inner) => some (entries.set key (.table .header inner))
  | _ => none

/-- Open one more table of an array. -/
def openItem? (key : String) (entries : Entries) : Option Entries :=
  match entries.lookup key with
  | none => some (entries.set key (.tables [[]]))
  | some (.tables items) => some (entries.set key (.tables (items ++ [[]])))
  | _ => none

/-- Open the table that a header names. -/
def openHeader? (isItem : Bool) (path : List String) (entries : Entries) : Option Entries :=
  match path.getLast? with
  | none => none
  | some key =>
    descend? false (fun _ => if isItem then openItem? key else openTable? key) .header entries
      path.dropLast

/-! ## Values -/

/-- Read an unquoted value. A date and a time may stand apart by one space. -/
def readScalar? (cs : List Char) : Option (Value × List Char) :=
  let word := cs.takeWhile isScalarChar
  let more := cs.dropWhile isScalarChar
  match afterDate? word, more with
  -- a digit behind the space begins the time of the date
  | some [], ' ' :: d :: next =>
    if d.isDigit then
      let time := (d :: next).takeWhile isScalarChar
      (scalar? (word ++ ' ' :: time)).map (·, (d :: next).dropWhile isScalarChar)
    else (scalar? word).map (·, more)
  | _, _ => (scalar? word).map (·, more)

mutual

/-- Read a value that stands in as many brackets and braces as `depth` says. -/
def value? : Nat → Nat → List Char → Option (Value × List Char)
  | 0, _, _ => none
  | fuel + 1, depth, cs =>
    match cs with
    | '[' :: more =>
      if depth < maxDepth then
        (items? fuel (depth + 1) more).map fun r => (.array r.1, r.2)
      else none
    | '\x7b' :: more =>
      if depth < maxDepth then
        (inlineEntries? fuel (depth + 1) [] more).map fun r => (.table .inline r.1, r.2)
      else none
    | '\x22' :: _ => (string? fuel cs).map fun r => (.string r.1, r.2)
    | '\x27' :: _ => (string? fuel cs).map fun r => (.string r.1, r.2)
    | _ => readScalar? cs

/-- Read the items of an array behind its opening bracket or a comma. -/
def items? : Nat → Nat → List Char → Option (List Value × List Char)
  | 0, _, _ => none
  | fuel + 1, depth, cs => do
    let cs ← skipTrivia? (fuel + 1) cs
    match cs with
    | ']' :: rest => return ([], rest)
    | _ =>
      let (item, more) ← value? fuel depth cs
      let more ← skipTrivia? (fuel + 1) more
      match more with
      | ']' :: rest => return ([item], rest)
      | ',' :: next =>
        let (items, rest) ← items? fuel depth next
        return (item :: items, rest)
      | _ => none

/-- Read the entries of an inline table behind its opening brace or a comma. Comments and line ends
may stand around keys and values, but not inside a dotted key. -/
def inlineEntries? : Nat → Nat → Entries → List Char → Option (Entries × List Char)
  | 0, _, _, _ => none
  | fuel + 1, depth, entries, cs => do
    let cs ← skipTrivia? (fuel + 1) cs
    match cs with
    | '\x7d' :: rest => return (entries, rest)
    | _ =>
      let (path, more) ← key? (fuel + 1) cs
      let more ← skipTrivia? (fuel + 1) more
      let more ← expect? '=' more
      let more ← skipTrivia? (fuel + 1) more
      let (value, more) ← value? fuel depth more
      let entries ← define? path value entries
      let more ← skipTrivia? (fuel + 1) more
      match more with
      | '\x7d' :: rest => return (entries, rest)
      | ',' :: next => inlineEntries? fuel depth entries next
      | _ => none

end

/-! ## Documents -/

/-- Read a header behind its first bracket: whether it opens an item of an array, and its path. -/
def header? (fuel : Nat) (cs : List Char) : Option ((Bool × List String) × List Char) := do
  let (isItem, cs) := match cs with
    | '[' :: more => (true, more)
    | cs => (false, cs)
  let (path, more) ← key? fuel cs
  let more ← expect? ']' more
  let more ← if isItem then expect? ']' more else some more
  return ((isItem, path), more)

/-- Read the lines of a document; keys are defined in the table of the path `here`. -/
def lines? : Nat → List String → Entries → List Char → Option Entries
  | 0, _, _, _ => none
  | fuel + 1, here, entries, cs => do
    let cs ← skipTrivia? (fuel + 1) cs
    match cs with
    | [] => return entries
    | '[' :: more =>
      let ((isItem, path), more) ← header? (fuel + 1) more
      let entries ← openHeader? isItem path entries
      let rest ← endLine? more
      lines? fuel path entries rest
    | _ =>
      let (path, more) ← key? (fuel + 1) cs
      let more ← expect? '=' more
      let (value, more) ← value? (fuel + 1) 0 (skipSpaces more)
      let entries ← descend? false (fun _ => define? path value) .header entries here
      let rest ← endLine? more
      lines? fuel here entries rest

/-- The entries of a document, if it can be read. A byte order mark at its beginning does not
count. -/
def parse? (text : String) : Option Entries :=
  let cs := match text.toList with
    | '\ufeff' :: cs => cs
    | cs => cs
  lines? (cs.length + 1) [] [] cs

end SceneBoard.Toml
