import SceneBoard.Text.Blank
import SceneBoard.Text.Word

/-!
# White space and names

White space is apart from the characters of which names are made, so a name ends where white space
begins; and trimming takes off just the white space before a text that begins with none.
-/

namespace SceneBoard.Text

/-! ## Classes of characters -/

/-- Sets of which every two ranges are apart have no character in common. -/
theorem Ranges.has_eq_false_of_apart {r s : Ranges} {x : Char}
    (h : r.all fun a => s.all fun b => a.2 < b.1 || b.2 < a.1) (hx : r.has x) :
    s.has x = false := by
  rw [Bool.eq_false_iff]
  intro hs
  -- two ranges that have one character in common overlap
  obtain ⟨a, ha, hax⟩ := Ranges.has_eq_true_iff.1 hx
  obtain ⟨b, hb, hbx⟩ := Ranges.has_eq_true_iff.1 hs
  have hab := List.all_eq_true.1 (List.all_eq_true.1 h a ha) b hb
  simp only [Bool.or_eq_true, decide_eq_true_eq] at hab
  omega

/-- The ranges of white space. -/
private def blankRanges : Ranges :=
  [(9, 13), (0x20, 0x20), (0x85, 0x85), (0xA0, 0xA0), (0x1680, 0x1680), (0x2000, 0x200A),
   (0x2028, 0x2029), (0x202F, 0x202F), (0x205F, 0x205F), (0x3000, 0x3000)]

/-- The ranges have every blank. -/
private theorem has_blankRanges {x : Char} (h : isBlank x) : blankRanges.has x := by
  simp only [isBlank, Bool.or_eq_true, Bool.and_eq_true, decide_eq_true_eq, beq_iff_eq] at h
  simp only [Ranges.has, blankRanges, List.any_cons, List.any_nil, Bool.or_eq_true,
    Bool.and_eq_true, decide_eq_true_eq, Bool.false_eq_true, or_false]
  omega

section

variable {x : Char}

/-- Among the first characters no blank is a letter, a digit or an underscore. -/
private theorem isAlphanum_eq_false_of_isBlank (h : isBlank x) (hx : x.toNat < 128) :
    x.isAlphanum = false ∧ x ≠ '_' := by
  have hcodes : ∀ n < 128, isBlank (Char.ofNat n) →
      (Char.ofNat n).isAlphanum = false ∧ Char.ofNat n ≠ '_' := by decide
  simpa using hcodes x.toNat hx (by simpa using h)

/-- White space stands in no word. -/
theorem isWord_eq_false_of_isBlank (h : isBlank x) : isWord x = false := by
  unfold isWord
  split
  · rename_i hx
    simp [isAlphanum_eq_false_of_isBlank h hx]
  · exact Ranges.has_eq_false_of_apart (by decide +kernel) (has_blankRanges h)

/-- White space is no digit. -/
theorem isDigit_eq_false_of_isBlank (h : isBlank x) : isDigit x = false := by
  unfold isDigit
  split
  · rename_i hx
    have hnone := (isAlphanum_eq_false_of_isBlank h hx).1
    simp only [Char.isAlphanum, Bool.or_eq_false_iff] at hnone
    exact hnone.2
  · exact Ranges.has_eq_false_of_apart (by decide +kernel) (has_blankRanges h)

/-- White space is neither letter nor number. -/
theorem isAlphanumeric_eq_false_of_isBlank (h : isBlank x) : isAlphanumeric x = false := by
  unfold isAlphanumeric
  split
  · rename_i hx
    exact (isAlphanum_eq_false_of_isBlank h hx).1
  · rw [Ranges.has_eq_false_of_apart (by decide +kernel) (has_blankRanges h),
      Ranges.has_eq_false_of_apart (by decide +kernel) (has_blankRanges h), Bool.or_false]

end

/-! ## Trimming -/

section

variable {blanks cs : List Char}

/-- What belongs to a class is dropped up to a character that does not. -/
theorem dropWhile_append_of_head? {p : Char → Bool} {xs : List Char} (hxs : ∀ x ∈ xs, p x)
    (hcs : ∀ x ∈ cs.head?, p x = false) : (xs ++ cs).dropWhile p = cs := by
  rw [List.dropWhile_append_of_pos hxs]
  cases cs with
  | nil => rfl
  | cons c cs => rw [List.dropWhile_cons_of_neg (by simp [hcs c rfl])]

/-- Trimming takes off white space up to a character that is none. -/
theorem trimLeft_append (hblanks : ∀ x ∈ blanks, isBlank x)
    (hcs : ∀ x ∈ cs.head?, isBlank x = false) : trimLeft (blanks ++ cs) = cs :=
  dropWhile_append_of_head? hblanks hcs

/-- Trimming stops at a character that is no white space, wherever it stands. -/
theorem trimLeft_append_cons {c : Char} (hc : isBlank c = false) (xs cs : List Char) :
    trimLeft (xs ++ c :: cs) = trimLeft xs ++ c :: cs := by
  rw [trimLeft, List.dropWhile_append, List.dropWhile_cons_of_neg (by simp [hc])]
  split
  · rename_i hempty
    rw [trimLeft, List.isEmpty_iff.1 hempty, List.nil_append]
  · rfl

/-- What white space stands before begins with a character that is none only if the rest does. -/
theorem head?_append_ne {d : Char} (hblanks : ∀ x ∈ blanks, isBlank x) (hd : isBlank d = false)
    (hcs : cs.head? ≠ some d) : (blanks ++ cs).head? ≠ some d := by
  cases blanks with
  | nil => exact hcs
  | cons b _ =>
    intro hb
    obtain rfl : b = d := by simpa using hb
    simp [hblanks b (by simp)] at hd

end

end SceneBoard.Text
