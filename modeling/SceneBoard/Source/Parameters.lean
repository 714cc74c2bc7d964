import SceneBoard.Text.Blank
import SceneBoard.Text.Search
import SceneBoard.Text.Word

/-! # Parameter lists

The parameter list of a declaration is the text between the parentheses that follow its head:
directly, as in `function Card(a, b)`, or behind an initializer, as in `const Card = (a, b) => …`,
with an optional type annotation, `async`, a function keyword and a generic clause in between. A
single bare parameter, as in `props => …`, counts as well.
-/

namespace SceneBoard.Parameters

/-- Cut off a fixed text at the beginning. -/
def after? (word : String) (cs : List Char) : Option (List Char) :=
  if word.toList.isPrefixOf cs then some (cs.drop word.length) else none

/-! ## Groups in parentheses -/

/-- Where a scan stands with respect to quoted literals. -/
inductive Quoting where
  | outside
  | inside (quote : Char)
  /-- Inside a literal, behind a backslash. -/
  | escaped (quote : Char)

/-- A character that begins a quoted literal. -/
def isQuote (c : Char) : Bool :=
  c == '\x27' || c == '\x22' || c == '\x60'

/-- The text up to the parenthesis that closes `depth` open ones, if it is closed at all.
Parentheses in quoted literals do not count. -/
def untilClosed : Quoting → Nat → List Char → Option (List Char)
  | _, _, [] => none
  | .escaped q, depth, c :: cs => (untilClosed (.inside q) depth cs).map (c :: ·)
  | .inside q, depth, c :: cs =>
    let next := if c = '\\' then .escaped q else if c = q then .outside else .inside q
    (untilClosed next depth cs).map (c :: ·)
  | .outside, depth, c :: cs =>
    if isQuote c then (untilClosed (.inside c) depth cs).map (c :: ·)
    else if c = '(' then (untilClosed .outside (depth + 1) cs).map (c :: ·)
    else if c = ')' then
      -- the parenthesis that closes the group is not part of its text
      if depth ≤ 1 then some [] else (untilClosed .outside (depth - 1) cs).map (c :: ·)
    else (untilClosed .outside depth cs).map (c :: ·)

/-- The text behind a generic clause `<…>`, or the whole text if there is none. -/
def skipGenerics? : List Char → Option (List Char)
  | '<' :: cs =>
    match cs.dropWhile (· != '>') with
    | [] => none
    | _ :: more => some (Text.trimLeft more)
  | cs => some cs

/-- The inner text of the parenthesised group with which a text begins, behind an optional generic
clause. -/
def group? (cs : List Char) : Option (List Char) :=
  match skipGenerics? cs with
  | some ('(' :: more) => untilClosed .outside 1 more
  | _ => none

/-! ## Type annotations -/

/-- The rest of a text from the equals sign that ends a type annotation, where `depth` brackets are
open. An equals sign inside brackets or before a closing angle bracket belongs to the type; a
semicolon or the end of the line outside brackets ends the declaration. -/
def skipType? : Int → List Char → Option (List Char)
  | _, [] => none
  | depth, c :: cs =>
    -- the kinds of brackets are not told apart
    if c = '<' || c = '(' || c = '[' || c = '\x7b' then skipType? (depth + 1) cs
    else if c = '>' || c = ')' || c = ']' || c = '\x7d' then skipType? (depth - 1) cs
    else if c = '=' && depth = 0 && cs.head? != some '>' then some (c :: cs)
    -- the declaration ends without an initializer
    else if (c = ';' || c = '\n') && depth = 0 then none
    else skipType? depth cs

/-! ## Parameter lists -/

/-- A character of a parameter or function name. -/
def isNameChar (c : Char) : Bool :=
  Text.isAlphanumeric c || c == '_' || c == '$'

/-- The text begins a group: a parenthesis or a generic clause. -/
def beginsGroup : List Char → Bool
  | c :: _ => c == '(' || c == '<'
  | [] => false

/-- The parameters of a function expression: of a group, or a single bare one before an arrow. -/
def ofFunction (cs : List Char) : List Char :=
  if beginsGroup cs then (group? cs).getD []
  else
    -- a bare parameter counts only before an arrow
    let name := cs.takeWhile isNameChar
    if !name.isEmpty && (after? "=>" (Text.trimLeft (cs.dropWhile isNameChar))).isSome then name
    else []

/-- The text behind `async`, the function keyword and the function's name, where they stand. -/
def skipFunctionHead (cs : List Char) : List Char :=
  let cs := match after? "async" cs with
    | some more => Text.trimLeft more
    | none => cs
  match after? "function" cs with
  | some more =>
    Text.trimLeft ((more.dropWhile fun c => Text.isBlank c || c == '*').dropWhile isNameChar)
  | none => cs

/-- The parameters in the initializer that follows an equals sign. -/
def ofInitializer : List Char → List Char
  | '=' :: '>' :: _ => []
  | '=' :: '=' :: _ => []
  | '=' :: cs => ofFunction (skipFunctionHead (Text.trimLeft cs))
  | _ => []

/-- The parameter list of the declaration whose head a text follows; empty if it has none. -/
def following (cs : List Char) : List Char :=
  let cs := Text.trimLeft cs
  if beginsGroup cs then (group? cs).getD []
  else match cs with
    | ':' :: annotated =>
      match skipType? 0 annotated with
      | some more => ofInitializer more
      | none => []
    | _ => ofInitializer cs

end SceneBoard.Parameters
