import SceneBoard.Toml.Scalar

/-! # Strings in TOML

The four forms of strings: basic strings in double quotes, with escapes; literal strings in single
quotes, without; and both in triple quotes over several lines. In a string of several lines a line
end right behind the opening quotes does not count, the others stay as they are written, and a
backslash at the end of a line joins the next word to it.
-/

namespace SceneBoard.Toml

/-- A character that may stand in a string, and in a comment, as it is. -/
def isText (c : Char) : Bool :=
  c == '\t' || (0x20 ≤ c.toNat && c.toNat != 0x7F)

/-- The character of a code point, if it is one. -/
def charOf? (n : Nat) : Option Char :=
  if n.isValidChar then some (Char.ofNat n) else none

/-- The character that a code point in `n` hexadecimal digits stands for, and the rest. -/
def hexEscape? (n : Nat) (cs : List Char) : Option (Char × List Char) :=
  let ds := cs.take n
  if ds.length = n ∧ ds.all isHexDigit then (charOf? (digitsValue 16 ds)).map (·, cs.drop n)
  else none

/-- The character that an escape stands for, behind its backslash, and the rest. -/
def escape? : List Char → Option (Char × List Char)
  | 'b' :: cs => some ('\x08', cs)
  | 't' :: cs => some ('\t', cs)
  | 'n' :: cs => some ('\n', cs)
  | 'f' :: cs => some ('\x0c', cs)
  | 'r' :: cs => some ('\r', cs)
  | 'e' :: cs => some ('\x1b', cs)
  | '\x22' :: cs => some ('\x22', cs)
  | '\\' :: cs => some ('\\', cs)
  | 'x' :: cs => hexEscape? 2 cs
  | 'u' :: cs => hexEscape? 4 cs
  | 'U' :: cs => hexEscape? 8 cs
  | _ => none

/-- Add a character to the string that is read. -/
def withChar (c : Char) (r : Option (List Char × List Char)) : Option (List Char × List Char) :=
  r.map fun r => (c :: r.1, r.2)

/-- Read a basic string behind its opening quote. -/
def basicString? : Nat → List Char → Option (List Char × List Char)
  | 0, _ => none
  | _ + 1, [] => none
  | fuel + 1, c :: cs =>
    if c = '\x22' then some ([], cs)
    else if c = '\\' then (escape? cs).bind fun e => withChar e.1 (basicString? fuel e.2)
    else if isText c then withChar c (basicString? fuel cs)
    else none

/-- Read a literal string behind its opening quote. -/
def literalString? : List Char → Option (List Char × List Char)
  | [] => none
  | c :: cs =>
    if c = '\x27' then some ([], cs)
    else if isText c then withChar c (literalString? cs)
    else none

/-- The number of equal characters with which a text begins, up to five. -/
def quoteRun (q : Char) (cs : List Char) : Nat :=
  ((cs.take 5).takeWhile (· == q)).length

/-- The text behind a line end, if it begins with one. -/
def afterLineEnd? : List Char → Option (List Char)
  | '\n' :: cs => some cs
  | '\r' :: '\n' :: cs => some cs
  | _ => none

/-- A space or a tab. -/
def isSpace (c : Char) : Bool :=
  c == ' ' || c == '\t'

/-- A text without the spaces, tabs and line ends it begins with. -/
def skipLayout : List Char → List Char
  | '\n' :: cs => skipLayout cs
  | '\r' :: '\n' :: cs => skipLayout cs
  | c :: cs => if isSpace c then skipLayout cs else c :: cs
  | [] => []

/-- The text behind a joined line end, whose backslash is cut off: it has nothing but spaces before
the line end, and the spaces and line ends behind it count to it. -/
def afterJoin? (cs : List Char) : Option (List Char) :=
  (afterLineEnd? (cs.dropWhile isSpace)).map skipLayout

/-- Read a string of several lines behind its opening quotes. Up to two quotes may stand inside it,
and before the closing ones. -/
def multilineString? (q : Char) (escapes : Bool) : Nat → List Char → Option (List Char × List Char)
  | 0, _ => none
  | _ + 1, [] => none
  | fuel + 1, c :: cs =>
    if c = q ∧ 3 ≤ quoteRun q (c :: cs) then
      -- of up to five quotes the last three close the string
      let run := quoteRun q (c :: cs)
      some (List.replicate (run - 3) q, (c :: cs).drop run)
    else if escapes ∧ c = '\\' then
      match afterJoin? cs with
      | some more => multilineString? q escapes fuel more
      | none => (escape? cs).bind fun e => withChar e.1 (multilineString? q escapes fuel e.2)
    -- a carriage return must be part of a line end
    else if isText c ∨ (afterLineEnd? (c :: cs)).isSome then
      withChar c (multilineString? q escapes fuel cs)
    else none

/-- A text without the line end with which it begins. -/
def dropLineEnd (cs : List Char) : List Char :=
  (afterLineEnd? cs).getD cs

/-- Read a string of any form; the text begins with its opening quote. -/
def string? (fuel : Nat) (cs : List Char) : Option (String × List Char) :=
  let read := match cs with
    | '\x22' :: '\x22' :: '\x22' :: more =>
      multilineString? '\x22' true fuel (dropLineEnd more)
    | '\x27' :: '\x27' :: '\x27' :: more =>
      multilineString? '\x27' false fuel (dropLineEnd more)
    | '\x22' :: more => basicString? fuel more
    | '\x27' :: more => literalString? more
    | _ => none
  read.map fun r => (String.ofList r.1, r.2)

/-- Read a key without dots: a bare one or a string of one line. -/
def simpleKey? (fuel : Nat) (cs : List Char) : Option (String × List Char) :=
  let isBare (c : Char) : Bool := c.isAlphanum || c == '_' || c == '-'
  match cs with
  | '\x22' :: more => (basicString? fuel more).map fun r => (String.ofList r.1, r.2)
  | '\x27' :: more => (literalString? more).map fun r => (String.ofList r.1, r.2)
  | _ =>
    let bare := cs.takeWhile isBare
    if bare.isEmpty then none else some (String.ofList bare, cs.dropWhile isBare)

end SceneBoard.Toml
