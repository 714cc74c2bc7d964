import Mathlib.Data.List.TakeWhile
import SceneBoard.Proofs.Leftmost
import SceneBoard.Proofs.WhiteSpace
import SceneBoard.Storyboard.Parser

/-!
# Numbers of a style

Which number a style tells for a property, said by the text of the style: it is the one that stands
at the first place where the name, a colon, white space and digits follow each other, and it goes as
far as the digits do (`Tells`). This is the number that is read, for a length and for a coordinate
(`number?_lengthProperty_eq_some_iff`, `number?_coordinateProperty_eq_some_iff`), so a box is
read from a style exactly when the style tells all of it and it is in range (`box?_eq_some_iff`).
-/

namespace SceneBoard.Storyboard

open Text Text.Pattern

/-! ## The grammar -/

/-- Digits of any script. -/
structure IsDigits (s : List Char) : Prop where
  ne_nil : s ≠ []
  digits : ∀ x ∈ s, Text.isDigit x

/-- How a number is written: in digits, behind a minus sign where there may be one. -/
inductive IsFigure (signed : Bool) : List Char → Prop where
  | plain {s : List Char} (h : IsDigits s) : IsFigure signed s
  | minus {s : List Char} (hsigned : signed) (h : IsDigits s) : IsFigure signed ('-' :: s)

/-- A property with its number. -/
inductive IsProperty (signed : Bool) (name : String) (figure : List Char) : List Char → Prop where
  | mk {gap : List Char} (hgap : ∀ x ∈ gap, isBlank x) (hfigure : IsFigure signed figure) :
      IsProperty signed name figure (name.toList ++ (":".toList ++ (gap ++ figure)))

/-- A piece of a style that is a property with all digits of its number. -/
def IsPropertyPiece (signed : Bool) (name : String) (_before piece after : List Char) : Prop :=
  (∃ figure, IsProperty signed name figure piece) ∧ ∀ x ∈ after.head?, ¬ Text.isDigit x

/-- The style tells a number for a property: the one at the first place where the property stands
with a number. -/
def Tells (signed : Bool) (name : String) (style : List Char) (n : Int) : Prop :=
  ∃ before property figure after, style = before ++ (property ++ after) ∧
    IsProperty signed name figure property ∧ (∀ x ∈ after.head?, ¬ Text.isDigit x) ∧
    readPixels? figure = some n ∧
    ∀ before' property' after', style = before' ++ (property' ++ after') →
      IsPropertyPiece signed name before' property' after' → before.length ≤ before'.length

/-- The style tells all of a box, and the box is in range. -/
structure TellsBox (style : List Char) (b : Box) : Prop where
  width : Tells false "width" style b.size.width
  height : Tells false "height" style b.size.height
  left : Tells true "left" style b.left
  top : Tells true "top" style b.top
  inRange : b.InRange

/-! ## What the pattern of a property reads -/

/-- The pattern of a number. -/
private def figurePattern : (signed : Bool) → Pattern
  | true => .seq (.maybe (.text "-")) (.many1 Text.isDigit)
  | false => .many1 Text.isDigit

/-- The pattern of a property. -/
private def property (signed : Bool) (name : String) : Pattern :=
  .all [.text name, .text ":", .blanks, .group 1 (figurePattern signed)]

/-- A figure with more digits behind it is a figure. -/
theorem IsFigure.append {signed : Bool} {s t : List Char} (h : IsFigure signed s)
    (ht : ∀ x ∈ t, Text.isDigit x) : IsFigure signed (s ++ t) := by
  have hdigits {s : List Char} (h : IsDigits s) : IsDigits (s ++ t) :=
    ⟨by simp [h.ne_nil], fun x hx => (List.mem_append.1 hx).elim (h.digits x) (ht x)⟩
  cases h with
  | plain h => exact .plain (hdigits h)
  | minus hsigned h => exact .minus hsigned (hdigits h)

/-- A number does not begin with white space. -/
private theorem head?_of_isFigure {signed : Bool} {s : List Char} (h : IsFigure signed s) :
    ∃ x, s.head? = some x ∧ isBlank x = false := by
  cases h with
  | plain h =>
    obtain ⟨x, s, rfl⟩ := List.exists_cons_of_ne_nil h.ne_nil
    refine ⟨x, rfl, ?_⟩
    rw [Bool.eq_false_iff]
    intro hblank
    have hdigit := h.digits x (by simp)
    simp [isDigit_eq_false_of_isBlank hblank] at hdigit
  | minus _ h => exact ⟨'-', rfl, by decide⟩

section

variable {signed : Bool} {name : String} {c d : Cursor} {w : Way} {b : Pattern}
  {figure piece : List Char}

/-- The pattern for digits reads digits. -/
private theorem exists_of_mem_ways_many1_digits (h : w ∈ (many1 Text.isDigit).ways c) :
    ∃ s d, IsDigits s ∧ c.Reads s d ∧ w = ⟨d, []⟩ := by
  obtain ⟨s, d, hd, hne, hdigits, rfl⟩ := exists_of_mem_ways_many1 h
  exact ⟨s, d, ⟨hne, hdigits⟩, hd, rfl⟩

/-- The pattern for a figure reads a figure. -/
private theorem exists_of_mem_ways_figure (h : w ∈ (figurePattern signed).ways c) :
    ∃ figure d, IsFigure signed figure ∧ c.Reads figure d ∧ w = ⟨d, []⟩ := by
  cases signed with
  | false =>
    obtain ⟨s, d, hs, hd, rfl⟩ := exists_of_mem_ways_many1_digits h
    exact ⟨s, d, .plain hs, hd, rfl⟩
  | true =>
    obtain ⟨v, hv, v', hv', rfl⟩ := exists_of_mem_ways_seq h
    obtain ⟨s, d, hs, hd, rfl⟩ := exists_of_mem_ways_many1_digits hv'
    -- with a sign or without one
    simp only [maybe, ways, List.mem_append] at hv
    rcases hv with hv | hv
    · obtain ⟨e, he, rfl⟩ := exists_of_mem_ways_text hv
      exact ⟨'-' :: s, d, .minus rfl hs, he.trans hd, rfl⟩
    · obtain rfl : v = ⟨c, []⟩ := by simpa [all, ways, Cursor.advance, Option.filter] using hv
      exact ⟨s, d, .plain hs, hd, rfl⟩

/-- A number is read with all of its digits. -/
private theorem head?_ways_figure (hfigure : IsFigure signed figure) (h : c.Reads figure d)
    (hd : ∀ x ∈ d.rest.head?, ¬ Text.isDigit x) (hb : (b.ways d).head? = some w) :
    ((seq (figurePattern signed) b).ways c).head? = some w := by
  have hdigits {s : List Char} {c : Cursor} (hs : IsDigits s) (h : c.Reads s d) :
      ((seq (many1 Text.isDigit) b).ways c).head? = some w :=
    head?_ways_seq_many1 h hs.ne_nil hs.digits hd hb
  cases signed with
  | false =>
    cases hfigure with
    | plain hs => exact hdigits hs h
    | minus hsigned hs => simp at hsigned
  | true =>
    rw [figurePattern, ways_seq_assoc, maybe]
    cases hfigure with
    | plain hs =>
      -- a digit is no sign, so the sign is read as nothing
      have hsign : ¬ "-".toList <+: c.rest := by
        obtain ⟨x, s, rfl⟩ := List.exists_cons_of_ne_nil hs.ne_nil
        rw [h.rest, List.cons_append]
        intro hp
        obtain rfl : '-' = x := (List.cons_prefix_cons.1 hp).1
        exact absurd (hs.digits '-' (by simp)) (by decide)
      rw [ways_seq_alt_right (ways_text_eq_nil hsign),
        ways_seq_of_single (d := c) (by simp [all, ways, Cursor.advance, Option.filter])]
      exact hdigits hs h
    | minus _ hs =>
      obtain ⟨e, he, h⟩ := Cursor.Reads.split (u := "-".toList) h
      rw [ways_seq_alt, ways_seq_text he, List.head?_append, hdigits hs h]
      rfl

/-- A property is read with all digits of its number. -/
private theorem head?_ways_property (hpiece : IsProperty signed name figure piece)
    (h : c.Reads piece d) (hd : ∀ x ∈ d.rest.head?, ¬ Text.isDigit x) :
    ∃ i, i.Reads figure d ∧ ((property signed name).ways c).head? = some ⟨d, [(1, i), (1, d)]⟩ := by
  cases hpiece with
  | mk hgap hfigure =>
    -- the name, the colon, the blanks and the figure
    obtain ⟨c₁, h₁, h⟩ := h.split
    obtain ⟨c₂, h₂, h⟩ := h.split
    obtain ⟨c₃, h₃, h₄⟩ := h.split
    have hmark : ((mark 1).ways d).head? = some ⟨d, [(1, d)]⟩ := rfl
    have hgroup :
        ((group 1 (figurePattern signed)).ways c₃).head? = some ⟨d, [(1, c₃), (1, d)]⟩ := by
      simp only [group, all]
      rw [ways_seq_mark, List.head?_map, head?_ways_figure hfigure h₄ hd hmark]
      rfl
    refine ⟨c₃, h₄, ?_⟩
    simp only [property, all]
    rw [ways_seq_text h₁, ways_seq_text h₂]
    refine head?_ways_seq_many h₃ hgap ?_ hgroup
    obtain ⟨x, hx, hblank⟩ := head?_of_isFigure hfigure
    simp [h₄.rest, List.head?_append, hx, hblank]

/-- Where the pattern has a way, a property stands, and all digits of its number. -/
private theorem exists_isProperty_of_mem_ways (h : w ∈ (property signed name).ways c) :
    ∃ figure piece d, IsProperty signed name figure piece ∧ c.Reads piece d ∧
      ∀ x ∈ d.rest.head?, ¬ Text.isDigit x := by
  -- the way is taken apart into the reads of the four parts
  simp only [property, all] at h
  obtain ⟨v, hv, w₁, hw₁, rfl⟩ := exists_of_mem_ways_seq h
  obtain ⟨c₁, h₁, rfl⟩ := exists_of_mem_ways_text hv
  obtain ⟨v, hv, w₂, hw₂, rfl⟩ := exists_of_mem_ways_seq hw₁
  obtain ⟨c₂, h₂, rfl⟩ := exists_of_mem_ways_text hv
  obtain ⟨v, hv, w₃, hw₃, rfl⟩ := exists_of_mem_ways_seq hw₂
  obtain ⟨gap, c₃, h₃, hgap, rfl⟩ := exists_of_mem_ways_run hv
  obtain ⟨v, hv, rfl⟩ := exists_of_mem_ways_group hw₃
  obtain ⟨figure, c₄, hfigure, h₄, rfl⟩ := exists_of_mem_ways_figure hv
  -- the way may have left digits behind
  obtain ⟨d, hd, hrest⟩ := Cursor.Reads.ofRest (c := c₄)
    (List.takeWhile_append_dropWhile (p := Text.isDigit) (l := c₄.rest)).symm
  refine ⟨_, _, d, .mk hgap (hfigure.append fun x hx => List.mem_takeWhile_imp hx),
    h₁.trans (h₂.trans (h₃.trans (h₄.trans hd))), ?_⟩
  intro x hx
  have hstop := List.head?_dropWhile_not Text.isDigit c₄.rest
  rw [hrest, Option.mem_def] at hx
  rw [hx] at hstop
  simpa using hstop

/-- The pattern describes properties with all digits of their numbers. -/
private theorem describes_property (signed : Bool) (name : String) :
    (property signed name).Describes (IsPropertyPiece signed name) where
  ne_nil := by
    rintro before piece after ⟨⟨figure, hpiece⟩, -⟩
    cases hpiece with
    | mk hgap hfigure => simp
  sound := by
    intro cs before c w hbefore hw
    obtain ⟨figure, piece, d, hpiece, hread, hd⟩ :=
      exists_isProperty_of_mem_ways (List.mem_of_head? hw)
    obtain ⟨i, -, hhead⟩ := head?_ways_property hpiece hread hd
    obtain rfl := Option.some.inj (hw.symm.trans hhead)
    exact ⟨piece, hread, ⟨figure, hpiece⟩, hd⟩
  complete := by
    rintro cs before piece c d - hread ⟨⟨figure, hpiece⟩, hd⟩ hnil
    obtain ⟨i, -, hhead⟩ := head?_ways_property hpiece hread hd
    simp [hnil] at hhead

end

/-! ## Numbers and boxes -/

section

variable {signed : Bool} {name : String} {style : List Char} {n : Int}

/-- What the pattern finds is the first property with a number. -/
private theorem exists_of_find? {m : Match} (h : (property signed name).find? style = some m) :
    ∃ before piece figure after, style = before ++ (piece ++ after) ∧
      IsProperty signed name figure piece ∧ (∀ x ∈ after.head?, ¬ Text.isDigit x) ∧
      m.group? 1 = some figure ∧
      ∀ before' piece' after', style = before' ++ (piece' ++ after') →
        IsPropertyPiece signed name before' piece' after' → before.length ≤ before'.length := by
  have hsearch := (describes_property signed name).isSearch style
  rw [find?_eq_head?_findAll] at h
  obtain ⟨w, before, hbefore, hw, hm⟩ := exists_of_mem_findAll (List.mem_of_head? h)
  -- the match is the first way from its place, which reads the whole property
  obtain ⟨figure, piece, d, hpiece, hread, hd⟩ :=
    exists_isProperty_of_mem_ways (List.mem_of_head? hw)
  obtain ⟨i, hi, hhead⟩ := head?_ways_property hpiece hread hd
  obtain rfl := Option.some.inj (hw.symm.trans hhead)
  refine ⟨before, piece, figure, d.rest, ?_, hpiece, hd, ?_,
    fun before' piece' after' hcs hpiece' => ?_⟩
  · rw [← hread.rest]
    exact hbefore.rest
  · rw [hm]
    simp [Match.group?, hi.upTo]
  · obtain ⟨ms, hms⟩ := List.head?_eq_some_iff.1 h
    rw [hms] at hsearch
    have hleft := hsearch.leftmost hcs hpiece'
    rwa [hbefore.index, Nat.zero_add] at hleft

/-- At one place stands one number only. -/
private theorem figure_unique {figure figure' piece piece' after after' : List Char}
    (hpiece : IsProperty signed name figure piece) (hpiece' : IsProperty signed name figure' piece')
    (hafter : ∀ x ∈ after.head?, ¬ Text.isDigit x) (hafter' : ∀ x ∈ after'.head?, ¬ Text.isDigit x)
    (heq : piece ++ after = piece' ++ after') : figure = figure' := by
  -- both are read from one cursor, where the first way is one
  obtain ⟨d, hd, rfl⟩ := Cursor.Reads.ofRest (c := ⟨0, none, piece ++ after⟩) rfl
  obtain ⟨d', hd', rfl⟩ := Cursor.Reads.ofRest (c := ⟨0, none, piece ++ d.rest⟩) heq
  obtain ⟨i, hi, hhead⟩ := head?_ways_property hpiece hd hafter
  obtain ⟨i', hi', hhead'⟩ := head?_ways_property hpiece' hd' hafter'
  have hway := Option.some.inj (hhead.symm.trans hhead')
  simp only [Way.mk.injEq, List.cons.injEq, Prod.mk.injEq, true_and, and_true] at hway
  rw [← hi.upTo, ← hi'.upTo, hway.2.1, hway.1]

/-- The number of a property is read exactly where the style tells it. -/
private theorem number?_property_eq_some_iff :
    number? (property signed name) style = some n ↔ Tells signed name style n := by
  simp only [number?, capture?, Option.bind_eq_some_iff]
  constructor
  · rintro ⟨figure, ⟨m, hm, hgroup⟩, hn⟩
    obtain ⟨before, piece, figure', after, hstyle, hpiece, hafter, hgroup', hfirst⟩ :=
      exists_of_find? hm
    obtain rfl := Option.some.inj (hgroup.symm.trans hgroup')
    exact ⟨before, piece, figure, after, hstyle, hpiece, hafter, hn, hfirst⟩
  · rintro ⟨before, piece, figure, after, hstyle, hpiece, hafter, hn, hfirst⟩
    have hsome : IsPropertyPiece signed name before piece after := ⟨⟨figure, hpiece⟩, hafter⟩
    obtain ⟨m, ms, hms⟩ : ∃ m ms, (property signed name).findAll style = m :: ms := by
      obtain ⟨m, hm, -⟩ :=
        ((describes_property signed name).isSearch style).complete before piece after hstyle hsome
      exact List.exists_cons_of_ne_nil (List.ne_nil_of_mem hm)
    have hm : (property signed name).find? style = some m := by
      rw [find?_eq_head?_findAll, hms]
      rfl
    obtain ⟨before', piece', figure', after', hstyle', hpiece', hafter', hgroup, hfirst'⟩ :=
      exists_of_find? hm
    -- both are the first, so they stand at the same place
    have hlength : before.length = before'.length :=
      Nat.le_antisymm (hfirst before' piece' after' hstyle' ⟨⟨figure', hpiece'⟩, hafter'⟩)
        (hfirst' before piece after hstyle hsome)
    have hrest := (List.append_inj (hstyle.symm.trans hstyle') hlength).2
    obtain rfl := figure_unique hpiece hpiece' hafter hafter' hrest
    exact ⟨figure, ⟨m, hm, hgroup⟩, hn⟩

/-- The length that is read is the one that the style tells. -/
theorem number?_lengthProperty_eq_some_iff :
    number? (lengthProperty name) style = some n ↔ Tells false name style n := by
  have hproperty : lengthProperty name = property false name := rfl
  rw [hproperty, number?_property_eq_some_iff]

/-- The coordinate that is read is the one that the style tells. -/
theorem number?_coordinateProperty_eq_some_iff :
    number? (coordinateProperty name) style = some n ↔ Tells true name style n := by
  have hproperty : coordinateProperty name = property true name := rfl
  rw [hproperty, number?_property_eq_some_iff]

/-- The box that is read is the one that the style tells. -/
theorem box?_eq_some_iff {b : Box} : box? style = some b ↔ TellsBox style b := by
  simp only [box?, Option.bind_eq_bind, Option.bind_eq_some_iff, Option.ite_none_right_eq_some,
    Option.some_inj, number?_lengthProperty_eq_some_iff, number?_coordinateProperty_eq_some_iff]
  constructor
  · rintro ⟨width, hwidth, height, hheight, left, hleft, top, htop, hrange, rfl⟩
    exact ⟨hwidth, hheight, hleft, htop, hrange⟩
  · rintro ⟨hwidth, hheight, hleft, htop, hrange⟩
    exact ⟨_, hwidth, _, hheight, _, hleft, _, htop, hrange, rfl⟩

end

end SceneBoard.Storyboard
