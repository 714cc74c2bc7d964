import SceneBoard.Text.Decimal

/-! # JSON text

JSON laid out over lines: every item of an array and every field of an object has lines of its own,
indented by two spaces, and an empty array or object is a pair of brackets. A value is given by its
lines, so that values are put together from the lines of their parts.
-/

namespace SceneBoard.Text

/-- A value, as the lines that write it. -/
abbrev JsonLines := List String

namespace JsonLines

/-- A control character by its number, in four hexadecimal digits. -/
def controlEscape (c : Char) : List Char :=
  let digits := Nat.toDigits 16 c.toNat
  ['\\', 'u'] ++ List.replicate (4 - digits.length) '0' ++ digits

/-- A character as it stands in a string. -/
def stringChar (c : Char) : List Char :=
  if c = '\x22' then ['\\', '\x22']
  else if c = '\\' then ['\\', '\\']
  else if c = '\x08' then ['\\', 'b']
  else if c = '\x0c' then ['\\', 'f']
  else if c = '\n' then ['\\', 'n']
  else if c = '\r' then ['\\', 'r']
  else if c = '\t' then ['\\', 't']
  else if c.toNat < 0x20 then controlEscape c
  else [c]

/-- A string in quotation marks. -/
def stringText (s : String) : String :=
  "\"" ++ String.ofList (s.toList.flatMap stringChar) ++ "\""

/-- A string. -/
def string (s : String) : JsonLines := [stringText s]

/-- A whole number. -/
def number (n : Int) : JsonLines := [decimalString n]

/-- A truth value. -/
def boolean (b : Bool) : JsonLines := [if b then "true" else "false"]

/-- Lines with a comma behind the last. -/
def withComma (lines : JsonLines) : JsonLines :=
  match lines.getLast? with
  | none => []
  | some last => lines.dropLast ++ [last ++ ","]

/-- The lines of several parts, with commas between them. -/
def separated : List JsonLines → JsonLines
  | [] => []
  | [part] => part
  | part :: parts => withComma part ++ separated parts

/-- Parts in brackets. -/
def enclosed (opening closing : String) (parts : List JsonLines) : JsonLines :=
  if parts.isEmpty then [opening ++ closing]
  else [opening] ++ (separated parts).map ("  " ++ ·) ++ [closing]

/-- An array. -/
def array (items : List JsonLines) : JsonLines :=
  enclosed "[" "]" items

/-- A field of an object. -/
def field (name : String) (value : JsonLines) : JsonLines :=
  match value with
  | [] => []
  | first :: more => (stringText name ++ ": " ++ first) :: more

/-- An object. -/
def object (fields : List (String × JsonLines)) : JsonLines :=
  enclosed "\x7b" "\x7d" (fields.map fun f => field f.1 f.2)

/-- The text of a value. -/
def text (value : JsonLines) : String :=
  "\n".intercalate value

end JsonLines

end SceneBoard.Text
