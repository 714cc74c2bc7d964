import SceneBoard.Text.Printable

/-! # Quoted text

Text in double quotes with every character in sight: the quotation mark and the backslash are
escaped, four control characters have letters, and what is not printable, or would attach to the
character before it, is given by its code point.
-/

namespace SceneBoard.Text

/-- A character by its code point, in lower-case hexadecimal digits. -/
def codePointEscape (c : Char) : List Char :=
  ['\\', 'u', '\x7b'] ++ Nat.toDigits 16 c.toNat ++ ['\x7d']

/-- A character as it stands in a quoted text. -/
def quotedChar (c : Char) : List Char :=
  if c = '\x00' then ['\\', '0']
  else if c = '\t' then ['\\', 't']
  else if c = '\r' then ['\\', 'r']
  else if c = '\n' then ['\\', 'n']
  else if c = '\x22' then ['\\', '\x22']
  else if c = '\\' then ['\\', '\\']
  else if isExtending c || !isPrintable c then codePointEscape c
  else [c]

/-- A text in double quotes. -/
def quoted (s : String) : String :=
  "\"" ++ String.ofList (s.toList.flatMap quotedChar) ++ "\""

/-- Quoted texts in brackets. -/
def quotedList (ss : List String) : String :=
  "[" ++ ", ".intercalate (ss.map quoted) ++ "]"

end SceneBoard.Text
