/-! # White space

White space is the Unicode property `White_Space`, everywhere: in patterns, in trimming and in
skipping. Trimming comes with the laws that say what it removes.
-/

namespace SceneBoard.Text

/-- White space. -/
def isBlank (c : Char) : Bool :=
  let n := c.toNat
  (9 ≤ n && n ≤ 13) || n == 0x20 || n == 0x85 || n == 0xA0 || n == 0x1680 ||
    (0x2000 ≤ n && n ≤ 0x200A) || n == 0x2028 || n == 0x2029 || n == 0x202F || n == 0x205F ||
    n == 0x3000

/-- The text without the white space it begins with. -/
def trimLeft (cs : List Char) : List Char :=
  cs.dropWhile isBlank

/-- The text without the white space it ends with. -/
def trimRight (cs : List Char) : List Char :=
  (cs.reverse.dropWhile isBlank).reverse

/-- The text without the white space around it. -/
def trim (cs : List Char) : List Char :=
  trimRight (trimLeft cs)

/-- A space is blank. -/
theorem isBlank_space : isBlank ' ' := by decide

end SceneBoard.Text
