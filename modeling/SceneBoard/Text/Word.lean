import SceneBoard.Text.Alphabetic
import SceneBoard.Text.Numeral
import SceneBoard.Text.WordClass

/-! # Word characters

The characters of which identifiers are made. Two classes are in use: a *word character* (letter,
mark, digit, connecting punctuation or joiner) in patterns, and an *alphanumeric* character
(letter or number) where a bare parameter name is read. Patterns keep to the characters of
Unicode 16.0; everything else knows those of Unicode 17.0.
-/

namespace SceneBoard.Text

/-- A decimal digit of any script. -/
def isDigit (c : Char) : Bool :=
  if c.toNat < 128 then c.isDigit else digitRanges.has c

/-- A letter or a number of any script. -/
def isAlphanumeric (c : Char) : Bool :=
  if c.toNat < 128 then c.isAlphanum else alphabeticRanges.has c || numberRanges.has c

/-- A character that can stand inside a word. -/
def isWord (c : Char) : Bool :=
  if c.toNat < 128 then c.isAlphanum || c == '_' else wordRanges.has c

/-- The ten digits are digits. -/
theorem isDigit_of_isDigit {c : Char} (h : c.isDigit) : isDigit c := by
  have : c.toNat < 128 := by
    have : c.val ≤ 57 := by simp [Char.isDigit] at h; exact h.2
    exact Nat.lt_of_le_of_lt this (by decide)
  simp [isDigit, this, h]

end SceneBoard.Text
