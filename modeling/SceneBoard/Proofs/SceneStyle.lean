import SceneBoard.Proofs.SceneBlock
import SceneBoard.Proofs.StyleGrammar

/-!
# Numbers in a style

A whole number in decimal digits is read back (`readPixels?_decimal`), a property of a style tells
its number where its name stands first (`tells_propertyChars`), and so the style that is written for
a box in range gives that box (`box?_boxChars`).
-/

namespace SceneBoard

/-! ## Decimal numbers -/

namespace Text

theorem isDigit_of_mem_natDecimal {n : Nat} {x : Char} (h : x ∈ natDecimal n) : x.isDigit :=
  Nat.isDigit_of_mem_toDigits (by decide) (by decide) h

theorem natDecimal_ne_nil (n : Nat) : natDecimal n ≠ [] :=
  Nat.toDigits_ne_nil

/-- A number is read back from its digits. -/
theorem readNat?_natDecimal (n : Nat) : readNat? (natDecimal n) = some n := by
  have hall : (natDecimal n).all Char.isDigit = true :=
    List.all_eq_true.2 fun x hx => isDigit_of_mem_natDecimal hx
  have hfold : (natDecimal n).foldl (fun n c => n * 10 + digitValue c) 0 = n := by
    have h := @Nat.ofDigitChars_ten_toDigits n
    rw [Nat.ofDigitChars_eq_foldl] at h
    simpa only [natDecimal, digitValue, Nat.mul_comm] using h
  simp [readNat?, natDecimal_ne_nil, hall, hfold]

/-- A number is not written in two ways. -/
theorem natDecimal_injective {m n : Nat} (h : natDecimal m = natDecimal n) : m = n := by
  have := readNat?_natDecimal m
  rw [h, readNat?_natDecimal] at this
  exact (Option.some.inj this).symm

/-- Without a sign a length is read as its digits say, if it fits. -/
private theorem readPixels?_of_isDigit {cs : List Char} (h : ∀ x ∈ cs, x.isDigit) :
    readPixels? cs = (readNat? cs).bind fun n => Pixels.check? n := by
  unfold readPixels?
  split
  · -- a sign is no digit
    exact absurd (h '-' (by simp)) (by decide)
  · exact absurd (h '+' (by simp)) (by decide)
  · rfl

/-- A number that fits is read back. -/
theorem readPixels?_decimal {n : Int} (h : Pixels.Fits n) : readPixels? (decimal n) = some n := by
  have hcheck : Pixels.check? n = some n := Pixels.check?_eq_some_iff.2 ⟨h, rfl⟩
  cases n with
  | ofNat n =>
    have hread : readPixels? (natDecimal n) = (readNat? (natDecimal n)).bind fun n =>
        Pixels.check? n := readPixels?_of_isDigit fun x => isDigit_of_mem_natDecimal
    rw [readNat?_natDecimal, Option.bind_some] at hread
    rw [decimal, hread]
    exact hcheck
  | negSucc n =>
    have hread : readPixels? ('-' :: natDecimal (n + 1)) =
        (readNat? (natDecimal (n + 1))).bind fun n => Pixels.check? (-(n : Int)) := rfl
    rw [readNat?_natDecimal, Option.bind_some] at hread
    rw [decimal, hread]
    exact hcheck

/-- A number is written with digits and a minus sign. -/
theorem not_mem_decimal {n : Int} {x : Char} (hx : x.isDigit = false) (hsign : x ≠ '-') :
    x ∉ decimal n := by
  have hdigits (n : Nat) : x ∉ natDecimal n := fun h => by
    simp [isDigit_of_mem_natDecimal h] at hx
  cases n with
  | ofNat n => exact hdigits n
  | negSucc n => simp [decimal, hsign, hdigits]

end Text

/-! ## Properties of a style -/

namespace Storyboard

open Text Text.Pattern

/-- A property on a line of its own. -/
def propertyChars (name : String) (value : List Char) : List Char :=
  "\n        ".toList ++ ((name ++ ":").toList ++ (' ' :: (value ++ [','])))

/-- A number is written with its digits, behind a minus sign if it is negative. -/
private theorem isFigure_decimal {signed : Bool} {n : Int} (h : signed ∨ 0 ≤ n) :
    IsFigure signed (decimal n) := by
  have hdigits (n : Nat) : IsDigits (natDecimal n) :=
    ⟨natDecimal_ne_nil n, fun x hx => isDigit_of_isDigit (isDigit_of_mem_natDecimal hx)⟩
  cases n with
  | ofNat n => exact .plain (hdigits n)
  | negSucc n =>
    refine .minus (h.resolve_right ?_) (hdigits (n + 1))
    omega

/-- A property tells its number if its name does not stand before it. -/
theorem tells_propertyChars {signed : Bool} {name : String} {n : Int} {pre post : List Char}
    (hfits : Pixels.Fits n) (hsign : signed ∨ 0 ≤ n)
    (hclear : ∀ v, Clear (name ++ ":").toList (pre ++ "\n        ".toList) v) :
    Tells signed name (pre ++ (propertyChars name (decimal n) ++ post)) n := by
  -- what stands around the figure: a blank before it and a comma behind it
  have hname : (name ++ ":").toList = name.toList ++ ":".toList := String.toList_append
  have hblank : ∀ x ∈ [' '], isBlank x := by simp [isBlank_space]
  have hcomma : ∀ x ∈ (',' :: post).head?, ¬ Text.isDigit x := by
    simp only [List.head?_cons, Option.mem_some_iff, forall_eq']
    decide
  unfold propertyChars
  rw [hname] at hclear ⊢
  generalize "\n        ".toList = indent at hclear ⊢
  -- the gap goes to what stands before the name, the comma to what stands behind the digits
  have hsplit : pre ++ ((indent ++ ((name.toList ++ ":".toList) ++
      (' ' :: (decimal n ++ [','])))) ++ post) =
      (pre ++ indent) ++ ((name.toList ++ (":".toList ++ ([' '] ++ decimal n))) ++
        (',' :: post)) := by
    simp only [List.append_assoc, List.cons_append, List.nil_append]
  refine ⟨pre ++ indent, _, decimal n, ',' :: post, hsplit, .mk hblank (isFigure_decimal hsign),
    hcomma, readPixels?_decimal hfits, ?_⟩
  rintro before piece after heq ⟨⟨figure, hpiece⟩, -⟩
  rw [hsplit] at heq
  by_contra hlt
  -- a piece that stands earlier begins in the text before the name, or in the gap
  obtain ⟨s, hs⟩ : before <+: pre ++ indent :=
    List.prefix_of_prefix_length_le ⟨_, heq.symm⟩ (List.prefix_append _ _) (by omega)
  have hne : s ≠ [] := by
    rintro rfl
    simp [← hs] at hlt
  rw [← hs, List.append_assoc, List.append_cancel_left_eq] at heq
  -- the name would stand before the place where it stands first
  have hearlier : name.toList ++ ":".toList <+: piece ++ after := by
    cases hpiece with
    | mk hgap hfigure => simp
  rw [← heq] at hearlier
  exact hclear _ s ⟨before, hs⟩ hne hearlier

/-! ## The style of a box -/

/-- The style of a box, between the braces. -/
def boxChars (b : Box) : List Char :=
  propertyChars "width" (decimal b.size.width) ++ (propertyChars "height" (decimal b.size.height) ++
    ("\n        position: 'absolute',".toList ++ (propertyChars "left" (decimal b.left) ++
      (propertyChars "top" (decimal b.top) ++ "\n      ".toList))))

/-- A text that begins with no character of a property does not begin inside it. -/
theorem clear_propertyChars {a : Char} {t v : List Char} {name : String} {n : Int}
    (ha : a.isDigit = false) (hsign : a ≠ '-') (hcomma : a ≠ ',')
    (hgap : apart (a :: t) "\n        ".toList) (hname : apart (a :: t) (name ++ ":").toList)
    (hspace : a ≠ ' ') : Clear (a :: t) (propertyChars name (decimal n)) v := by
  unfold propertyChars
  refine clear_append.2 ⟨clear_of_apart hgap, clear_append.2 ⟨clear_of_apart hname, ?_⟩⟩
  refine clear_of_head_not_mem ?_
  simp [hspace, hcomma, not_mem_decimal ha hsign]

/-- The style of a box has none of the characters that end it. -/
theorem isStyle_boxChars (b : Box) : IsStyle (boxChars b) := by
  have hproperty {x : Char} {name : String} {n : Int} (hx : x.isDigit = false) (hsign : x ≠ '-')
      (hgap : x ∉ "\n        ".toList) (hname : x ∉ (name ++ ":").toList) (hend : x ∉ [' ', ',']) :
      x ∉ propertyChars name (decimal n) := by
    simp only [List.mem_cons, List.not_mem_nil, or_false, not_or] at hend
    unfold propertyChars
    rw [List.mem_append, List.mem_append, not_or, not_or]
    exact ⟨hgap, hname, by simp [hend, not_mem_decimal hx hsign]⟩
  have hbox {x : Char} (hx : x.isDigit = false) (hsign : x ≠ '-')
      (hgap : x ∉ "\n        ".toList) (hend : x ∉ [' ', ','])
      (hnames : ∀ name ∈ ["width", "height", "left", "top"], x ∉ (name ++ ":").toList)
      (hposition : x ∉ "\n        position: 'absolute',".toList) (hlast : x ∉ "\n      ".toList) :
      x ∉ boxChars b := by
    unfold boxChars
    rw [List.mem_append, List.mem_append, List.mem_append, List.mem_append, List.mem_append]
    -- a character that is in no name and is no digit is in none of the parts
    simp only [not_or]
    exact ⟨hproperty hx hsign hgap (hnames _ (by simp)) hend,
      hproperty hx hsign hgap (hnames _ (by simp)) hend, hposition,
      hproperty hx hsign hgap (hnames _ (by simp)) hend,
      hproperty hx hsign hgap (hnames _ (by simp)) hend, hlast⟩
  exact
    { equals := hbox (by decide) (by decide) (by decide) (by decide) (by decide) (by decide) (by decide)
      greater := hbox (by decide) (by decide) (by decide) (by decide) (by decide) (by decide) (by decide)
      brace := hbox (by decide) (by decide) (by decide) (by decide) (by decide) (by decide) (by decide) }

/-- A box in range fits in 64 bits. -/
private theorem Box.InRange.fits {b : Box} (h : b.InRange) :
    Pixels.Fits b.size.width ∧ Pixels.Fits b.size.height ∧ Pixels.Fits b.left ∧
      Pixels.Fits b.top := by
  obtain ⟨⟨⟨hw₁, hw₂⟩, hh₁, hh₂⟩, ⟨hl₁, hl₂⟩, ht₁, ht₂⟩ := h
  unfold Pixels.Fits Pixels.least Pixels.greatest
  unfold Size.maxSide at *
  unfold maxCoordinate at *
  omega

/-- The style that is written for a box in range describes that box. -/
theorem box?_boxChars {b : Box} (h : b.InRange) : box? (boxChars b) = some b := by
  obtain ⟨hw, hh, hl, ht⟩ := Box.InRange.fits h
  -- for each property: its name does not stand in the properties before it
  have hwidth : Tells false "width" (boxChars b) b.size.width := by
    refine @tells_propertyChars _ _ _ [] _ hw (.inr (by have := h.1.1.1; omega)) fun v => ?_
    exact clear_of_apart (by decide)
  have hheight : Tells false "height" (boxChars b) b.size.height := by
    refine tells_propertyChars hh (.inr (by have := h.1.2.1; omega)) fun v => clear_append.2 ⟨?_, ?_⟩
    · exact clear_propertyChars (by decide) (by decide) (by decide) (by decide) (by decide) (by decide)
    · exact clear_of_apart (by decide)
  have hleft : Tells true "left" (boxChars b) b.left := by
    have hsplit : boxChars b = (propertyChars "width" (decimal b.size.width) ++
        (propertyChars "height" (decimal b.size.height) ++
          "\n        position: 'absolute',".toList)) ++ (propertyChars "left" (decimal b.left) ++
            (propertyChars "top" (decimal b.top) ++ "\n      ".toList)) := by
      simp only [boxChars, List.append_assoc]
    rw [hsplit]
    refine tells_propertyChars hl (.inl rfl) fun v => ?_
    rw [List.append_assoc, List.append_assoc]
    refine clear_append.2 ⟨?_, clear_append.2 ⟨?_, ?_⟩⟩
    · exact clear_propertyChars (by decide) (by decide) (by decide) (by decide) (by decide) (by decide)
    · exact clear_propertyChars (by decide) (by decide) (by decide) (by decide) (by decide) (by decide)
    · exact clear_append.2 ⟨clear_of_apart (by decide), clear_of_apart (by decide)⟩
  have htop : Tells true "top" (boxChars b) b.top := by
    have hsplit : boxChars b = (propertyChars "width" (decimal b.size.width) ++
        (propertyChars "height" (decimal b.size.height) ++
          ("\n        position: 'absolute',".toList ++ propertyChars "left" (decimal b.left)))) ++
            (propertyChars "top" (decimal b.top) ++ "\n      ".toList) := by
      simp only [boxChars, List.append_assoc]
    rw [hsplit]
    refine tells_propertyChars ht (.inl rfl) fun v => ?_
    rw [List.append_assoc, List.append_assoc, List.append_assoc]
    refine clear_append.2 ⟨?_, clear_append.2 ⟨?_, clear_append.2 ⟨?_, clear_append.2 ⟨?_, ?_⟩⟩⟩⟩
    · exact clear_propertyChars (by decide) (by decide) (by decide) (by decide) (by decide) (by decide)
    · exact clear_propertyChars (by decide) (by decide) (by decide) (by decide) (by decide) (by decide)
    · exact clear_of_apart (by decide)
    · exact clear_propertyChars (by decide) (by decide) (by decide) (by decide) (by decide) (by decide)
    · exact clear_of_apart (by decide)
  -- the four numbers, and that they are in range
  exact box?_eq_some_iff.2 ⟨hwidth, hheight, hleft, htop, h⟩

end Storyboard

end SceneBoard
