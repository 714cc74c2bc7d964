import SceneBoard.Proofs.Scanning
import SceneBoard.Proofs.WhiteSpace
import SceneBoard.Storyboard.Parser
import SceneBoard.Storyboard.Printer

/-!
# Import lines

The grammar of an import line (`IsImportLine`), and what the pattern of import lines does with it:

* `head?_ways_componentImport`: a line of the grammar is read as a whole where a line begins;
* `exists_of_mem_ways_componentImport`: whatever the pattern reads is a line of the grammar;
* `scan_componentImport_of_clear`: a text in which no line begins with the keyword is passed over.

A line is written as it was read, without the white space at its end (`IsImportLine.trimmed`).
-/

namespace SceneBoard.Storyboard

open Text Text.Pattern

/-! ## The grammar -/

/-- A name that can be imported. -/
def IsImportName : List Char → Prop
  | [] => False
  | x :: xs => x.isUpper ∧ ∀ y ∈ xs, isImportChar y

instance (s : List Char) : Decidable (IsImportName s) :=
  match s with
  | [] => inferInstanceAs (Decidable False)
  | x :: xs =>
    decidable_of_iff (x.isUpper ∧ xs.all isImportChar) (and_congr_right' List.all_eq_true)

/-- White space between two words. -/
structure IsGap (s : List Char) : Prop where
  ne_nil : s ≠ []
  blank : ∀ x ∈ s, isBlank x

/-- What imports a name: the name in braces or the name itself. -/
inductive IsNamePart (name : List Char) : List Char → Prop where
  | named {b b' : List Char} (hb : ∀ x ∈ b, isBlank x) (hb' : ∀ x ∈ b', isBlank x) :
      IsNamePart name ('\x7b' :: (b ++ (name ++ (b' ++ ['\x7d']))))
  | default : IsNamePart name name

/-- What may follow the closing quote on its line. -/
inductive IsLineTail : List Char → Prop where
  | plain {a : List Char} (ha : ∀ x ∈ a, isSpaceOrTab x) : IsLineTail a
  | semicolon {a b : List Char} (ha : ∀ x ∈ a, isSpaceOrTab x) (hb : ∀ x ∈ b, isSpaceOrTab x) :
      IsLineTail (a ++ ';' :: b)

/-- What follows the name: the place from which it is imported, in quotes, and the end of the
line. -/
inductive IsSource : List Char → Prop where
  | mk {g g' place tail : List Char} (hg : IsGap g) (hg' : IsGap g')
      (hplace : ∀ x ∈ place, inQuotes x) (htail : IsLineTail tail) :
      IsSource (g ++ ("from".toList ++ (g' ++ ('\x27' :: (place ++ '\x27' :: tail)))))

/-- An import line of a name. -/
inductive IsImportLine (name : List Char) : List Char → Prop where
  | mk {g part source : List Char} (hname : IsImportName name) (hg : IsGap g)
      (hpart : IsNamePart name part) (hsource : IsSource source) :
      IsImportLine name ("import".toList ++ (g ++ (part ++ source)))

/-- An import line has characters. -/
theorem IsImportLine.ne_nil {name line : List Char} (h : IsImportLine name line) : line ≠ [] := by
  cases h with
  | mk hname hg hpart hsource =>
    rw [Ne, List.append_eq_nil_iff]
    exact fun hnil => absurd hnil.1 (by decide)

/-! ## Classes of characters -/

private theorem isWord_of_toNat_lt {x : Char} (h : x.toNat < 128) :
    isWord x = (x.isAlphanum || x == '_') := by
  rw [isWord, if_pos h]

/-- White space does not stand in names. -/
theorem isImportChar_eq_false_of_isBlank {x : Char} (h : isBlank x) : isImportChar x = false := by
  have hdollar : x ≠ '$' := by
    rintro rfl
    exact absurd h (by decide)
  simp [isImportChar, isWord_eq_false_of_isBlank h, hdollar]

/-- A capital letter may stand in a name. -/
theorem isImportChar_of_isUpper {x : Char} (h : x.isUpper) : isImportChar x := by
  have hx : x.toNat < 128 := by
    have hrange : 65 ≤ x.toNat ∧ x.toNat ≤ 90 := of_decide_eq_true h
    omega
  have hletter : x.isAlphanum = true := by
    show ((x.isUpper || x.isLower) || x.isDigit) = true
    rw [h, Bool.true_or, Bool.true_or]
  simp [isImportChar, isWord_of_toNat_lt hx, hletter]

/-- A name holds characters of its class only. -/
theorem not_mem_of_isImportName {name : List Char} {x : Char} (h : IsImportName name)
    (hx : isImportChar x = false) : x ∉ name := by
  cases name with
  | nil => simp
  | cons y ys =>
    intro hmem
    -- the first character is a capital letter, and the others are of names
    rcases List.mem_cons.1 hmem with rfl | hmem
    · simp [isImportChar_of_isUpper h.1] at hx
    · simp [h.2 x hmem] at hx

/-- White space is no capital. -/
theorem isUpper_eq_false_of_isBlank {x : Char} (h : isBlank x) : x.isUpper = false := by
  rw [Bool.eq_false_iff]
  intro hx
  have := isImportChar_of_isUpper hx
  simp [isImportChar_eq_false_of_isBlank h] at this

/-! ## What the pattern reads -/

/-- The part of the pattern between the keyword and the source. -/
private def namePart : Pattern :=
  .alt (.all [.text "\x7b", .blanks, .group 1 importName, .blanks, .text "\x7d"])
    (.group 2 importName)

/-- The part of the pattern behind the name. -/
private def source : Pattern :=
  .all [.blanks1, .text "from", .blanks1, .text "\x27", .many inQuotes, .text "\x27",
    .many isSpaceOrTab, .maybe (.text ";"), .many isSpaceOrTab, .anchor .lineEnd]

/-- The pattern, part by part. -/
private theorem componentImport_eq :
    componentImport =
      seq (.anchor .lineStart) (seq (text "import") (seq blanks1 (seq namePart source))) :=
  rfl

section

variable {c : Cursor} {w : Way}

/-- At least one blank makes a gap. -/
private theorem exists_of_mem_ways_blanks1 (h : w ∈ blanks1.ways c) :
    ∃ g d, IsGap g ∧ c.Reads g d ∧ w = ⟨d, []⟩ := by
  obtain ⟨g, d, hd, hne, hblank, rfl⟩ := exists_of_mem_ways_many1 h
  exact ⟨g, d, ⟨hne, hblank⟩, hd, rfl⟩

/-- What the pattern of names reads is a name. -/
private theorem exists_of_mem_ways_importName (h : w ∈ importName.ways c) :
    ∃ name d, IsImportName name ∧ c.Reads name d ∧ w = ⟨d, []⟩ := by
  obtain ⟨v, hv, v', hv', rfl⟩ := exists_of_mem_ways_seq h
  obtain ⟨x, e, he, hx, rfl⟩ := exists_of_mem_ways_char hv
  obtain ⟨xs, d, hd, hall, rfl⟩ := exists_of_mem_ways_run hv'
  exact ⟨x :: xs, d, ⟨hx, hall⟩, he.trans hd, rfl⟩

/-- What stands between the keywords is a name, in braces or alone, and a group has it. -/
private theorem exists_of_mem_ways_namePart (h : w ∈ namePart.ways c) :
    ∃ name part, IsImportName name ∧ IsNamePart name part ∧ c.Reads part w.stop ∧
      ∀ m : Match, m.marks = w.marks → (m.group? 1 <|> m.group? 2) = some name := by
  simp only [namePart, ways, List.mem_append] at h
  -- a name in braces, or the name alone
  rcases h with h | h
  · -- brace, blanks, name, blanks, brace
    obtain ⟨v, hv, w₁, hw₁, rfl⟩ := exists_of_mem_ways_seq h
    obtain ⟨c₁, h₁, rfl⟩ := exists_of_mem_ways_text hv
    obtain ⟨v, hv, w₂, hw₂, rfl⟩ := exists_of_mem_ways_seq hw₁
    obtain ⟨b, c₂, h₂, hb, rfl⟩ := exists_of_mem_ways_run hv
    obtain ⟨v, hv, w₃, hw₃, rfl⟩ := exists_of_mem_ways_seq hw₂
    obtain ⟨v', hv', rfl⟩ := exists_of_mem_ways_group hv
    obtain ⟨name, c₃, hname, h₃, rfl⟩ := exists_of_mem_ways_importName hv'
    obtain ⟨v, hv, w₄, hw₄, rfl⟩ := exists_of_mem_ways_seq hw₃
    obtain ⟨b', c₄, h₄, hb', rfl⟩ := exists_of_mem_ways_run hv
    obtain ⟨c₅, h₅, rfl⟩ := exists_of_mem_ways_text hw₄
    refine ⟨name, _, hname, .named hb hb', h₁.trans (h₂.trans (h₃.trans (h₄.trans h₅))), ?_⟩
    intro m hm
    simp [Match.group?, hm, Way.append, h₃.upTo]
  · obtain ⟨v, hv, rfl⟩ := exists_of_mem_ways_group h
    obtain ⟨name, d, hname, hd, rfl⟩ := exists_of_mem_ways_importName hv
    refine ⟨name, name, hname, .default, hd, fun m hm => ?_⟩
    simp [Match.group?, hm, hd.upTo]

/-- What stands behind the name is a source, and the line ends there. -/
private theorem exists_of_mem_ways_source (h : w ∈ source.ways c) :
    ∃ text d, IsSource text ∧ c.Reads text d ∧ Anchor.lineEnd.holds d ∧ w = ⟨d, []⟩ := by
  -- gap, keyword, gap, quote, place, quote, blanks, and the rest of the line
  obtain ⟨v, hv, w₁, hw₁, rfl⟩ := exists_of_mem_ways_seq h
  obtain ⟨g, c₁, hg, h₁, rfl⟩ := exists_of_mem_ways_blanks1 hv
  obtain ⟨v, hv, w₂, hw₂, rfl⟩ := exists_of_mem_ways_seq hw₁
  obtain ⟨c₂, h₂, rfl⟩ := exists_of_mem_ways_text hv
  obtain ⟨v, hv, w₃, hw₃, rfl⟩ := exists_of_mem_ways_seq hw₂
  obtain ⟨g', c₃, hg', h₃, rfl⟩ := exists_of_mem_ways_blanks1 hv
  obtain ⟨v, hv, w₄, hw₄, rfl⟩ := exists_of_mem_ways_seq hw₃
  obtain ⟨c₄, h₄, rfl⟩ := exists_of_mem_ways_text hv
  obtain ⟨v, hv, w₅, hw₅, rfl⟩ := exists_of_mem_ways_seq hw₄
  obtain ⟨place, c₅, h₅, hplace, rfl⟩ := exists_of_mem_ways_run hv
  obtain ⟨v, hv, w₆, hw₆, rfl⟩ := exists_of_mem_ways_seq hw₅
  obtain ⟨c₆, h₆, rfl⟩ := exists_of_mem_ways_text hv
  obtain ⟨v, hv, w₇, hw₇, rfl⟩ := exists_of_mem_ways_seq hw₆
  obtain ⟨a, c₇, h₇, ha, rfl⟩ := exists_of_mem_ways_run hv
  obtain ⟨v, hv, w₈, hw₈, rfl⟩ := exists_of_mem_ways_seq hw₇
  obtain ⟨v', hv', w₉, hw₉, rfl⟩ := exists_of_mem_ways_seq hw₈
  obtain ⟨b, c₉, h₉, hb, rfl⟩ := exists_of_mem_ways_run hv'
  -- the anchor reads nothing and asks for the end of the line
  have hend : Anchor.lineEnd.holds c₉ ∧ w₉ = ⟨c₉, []⟩ := by
    simp only [all, ways] at hw₉
    split at hw₉
    · exact ⟨by assumption, by simpa using hw₉⟩
    · simp at hw₉
  obtain ⟨hend, rfl⟩ := hend
  have hfront := h₁.trans (h₂.trans (h₃.trans (h₄.trans (h₅.trans h₆))))
  -- with a semicolon or without one
  simp only [maybe, ways, List.mem_append] at hv
  rcases hv with hv | hv
  · obtain ⟨c₈, h₈, rfl⟩ := exists_of_mem_ways_text hv
    refine ⟨_, c₉, .mk hg hg' hplace (.semicolon ha hb), ?_, hend, rfl⟩
    have := hfront.trans (h₇.trans (h₈.trans h₉))
    simpa [List.append_assoc] using this
  · -- without one the two runs of blanks are one
    obtain rfl : v = ⟨c₇, []⟩ := by simpa [all, ways, Cursor.advance, Option.filter] using hv
    have hspaces : ∀ x ∈ a ++ b, isSpaceOrTab x := fun x hx =>
      (List.mem_append.1 hx).elim (ha x) (hb x)
    refine ⟨_, c₉, .mk hg hg' hplace (.plain hspaces), ?_, hend, rfl⟩
    have := hfront.trans (h₇.trans h₉)
    simpa [List.append_assoc] using this

/-- What the pattern reads is an import line that begins and ends where lines do. -/
theorem exists_of_mem_ways_componentImport (h : w ∈ componentImport.ways c) :
    ∃ name line, IsImportLine name line ∧ c.Reads line w.stop ∧ Anchor.lineStart.holds c ∧
      Anchor.lineEnd.holds w.stop ∧
      ∀ m : Match, m.marks = w.marks → (m.group? 1 <|> m.group? 2) = some name := by
  rw [componentImport_eq] at h
  obtain ⟨v, hv, w₁, hw₁, rfl⟩ := exists_of_mem_ways_seq h
  -- the anchor asks for the beginning of a line
  have hstart : Anchor.lineStart.holds c ∧ v = ⟨c, []⟩ := by
    simp only [ways] at hv
    split at hv
    · exact ⟨by assumption, by simpa using hv⟩
    · simp at hv
  obtain ⟨hstart, rfl⟩ := hstart
  -- the keyword, a gap, the name and the source follow one another
  obtain ⟨v, hv, w₂, hw₂, rfl⟩ := exists_of_mem_ways_seq hw₁
  obtain ⟨c₁, h₁, rfl⟩ := exists_of_mem_ways_text hv
  obtain ⟨v, hv, w₃, hw₃, rfl⟩ := exists_of_mem_ways_seq hw₂
  obtain ⟨g, c₂, hg, h₂, rfl⟩ := exists_of_mem_ways_blanks1 hv
  obtain ⟨v, hv, w₄, hw₄, rfl⟩ := exists_of_mem_ways_seq hw₃
  obtain ⟨name, part, hname, hpart, h₃, hgroup⟩ := exists_of_mem_ways_namePart hv
  obtain ⟨text, d, hsource, h₄, hend, rfl⟩ := exists_of_mem_ways_source hw₄
  refine ⟨name, _, .mk hname hg hpart hsource, h₁.trans (h₂.trans (h₃.trans h₄)), hstart, hend, ?_⟩
  intro m hm
  exact hgroup m (by simpa [Way.append] using hm)

end

/-! ## What the pattern does with an import line -/

section

variable {c d : Cursor}

/-- The end of a line is read to the end. -/
private theorem head?_ways_lineTail {tail : List Char} (htail : IsLineTail tail)
    (h : c.Reads tail d) (hend : Anchor.lineEnd.holds d) :
    ((all [.many isSpaceOrTab, .maybe (.text ";"), .many isSpaceOrTab,
      .anchor .lineEnd]).ways c).head?
      = some ⟨d, []⟩ := by
  -- the line feed behind it is neither a blank of the line nor a semicolon
  have hstop : ∀ x ∈ d.rest.head?, ¬ isSpaceOrTab x ∧ x ≠ ';' := by
    intro x hx
    simp only [Anchor.holds, Option.mem_def.1 hx, Option.all_some, beq_iff_eq] at hend
    subst hend
    decide
  have hanchor : ((anchor Anchor.lineEnd).ways d).head? = some ⟨d, []⟩ := by simp [ways, hend]
  cases htail with
  | plain ha =>
    refine head?_ways_seq_many h ha (fun x hx => (hstop x hx).1) ?_
    -- without a semicolon the second run of blanks is empty
    have hsemicolon : (text ";").ways d = [] := by
      refine ways_text_eq_nil ?_
      rintro ⟨r, hr⟩
      exact (hstop ';' (by rw [← hr]; rfl)).2 rfl
    rw [ways_all_cons (by simp), maybe, ways_seq_alt_right hsemicolon,
      ways_seq_of_single (d := d) (by simp [all, ways, Cursor.advance, Option.filter])]
    exact head?_ways_seq_many (.nil d) (by simp) (fun x hx => (hstop x hx).1) hanchor
  | semicolon ha hb =>
    -- the first run stops at the semicolon, the second one at the end of the line
    obtain ⟨c₁, h₁, h⟩ := h.split
    obtain ⟨c₂, h₂, h₃⟩ := Cursor.Reads.split (u := [';']) h
    refine head?_ways_seq_many h₁ ha (by simp [h₂.rest, isSpaceOrTab]) ?_
    have hrest := head?_ways_seq_many h₃ hb (fun x hx => (hstop x hx).1) hanchor
    rw [ways_all_cons (by simp), maybe, ways_seq_alt, ways_seq_text (d := c₂) h₂, List.head?_append]
    simp only [all, hrest, Option.some_or]

/-- A source is first read as far as it goes. -/
private theorem head?_ways_source {text : List Char} (htext : IsSource text) (h : c.Reads text d)
    (hend : Anchor.lineEnd.holds d) : (source.ways c).head? = some ⟨d, []⟩ := by
  cases htext with
  | mk hg hg' hplace htail =>
    obtain ⟨c₁, h₁, h⟩ := h.split
    obtain ⟨c₂, h₂, h⟩ := h.split
    obtain ⟨c₃, h₃, h⟩ := h.split
    obtain ⟨c₄, h₄, h⟩ := Cursor.Reads.split (u := ['\x27']) h
    obtain ⟨c₅, h₅, h⟩ := h.split
    obtain ⟨c₆, h₆, h₇⟩ := Cursor.Reads.split (u := ['\x27']) h
    simp only [source, all]
    -- each run is as long as it can be: what stands behind it cannot be part of it
    refine head?_ways_seq_many1 h₁ hg.ne_nil hg.blank ?_ ?_
    · rw [h₂.rest]
      simp
      decide
    rw [ways_seq_text h₂]
    refine head?_ways_seq_many1 h₃ hg'.ne_nil hg'.blank ?_ ?_
    · rw [h₄.rest]
      simp
      decide
    rw [ways_seq_text h₄]
    refine head?_ways_seq_many h₅ hplace (by simp [h₆.rest, inQuotes]) ?_
    rw [ways_seq_text h₆]
    exact head?_ways_lineTail htail h₇ hend

/-- A name is first read as far as it goes. -/
private theorem head?_ways_importName {b : Pattern} {name : List Char} {w : Way}
    (hname : IsImportName name) (h : c.Reads name d)
    (hd : ∀ x ∈ d.rest.head?, isImportChar x = false)
    (hb : (b.ways d).head? = some w) : ((seq importName b).ways c).head? = some w := by
  cases name with
  | nil => exact hname.elim
  | cons x xs =>
    obtain ⟨c₁, h₁, h₂⟩ := Cursor.Reads.split (u := [x]) h
    rw [importName, ways_seq_assoc, ways_seq_char h₁ hname.1]
    exact head?_ways_seq_many h₂ hname.2 (fun x hx => by simp [hd x hx]) hb

/-- What follows a name in an import line is not part of it. -/
private theorem isImportChar_head? {b rest : List Char} {x : Char} (hb : ∀ x ∈ b, isBlank x)
    (hx : isImportChar x = false) : ∀ y ∈ (b ++ x :: rest).head?, isImportChar y = false := by
  cases b with
  | nil => simpa using hx
  | cons y b => simpa using isImportChar_eq_false_of_isBlank (hb y (by simp))

/-- A name does not begin with white space or a brace. -/
private theorem head?_of_isImportName {name : List Char} (h : IsImportName name) :
    ∃ x, name.head? = some x ∧ isBlank x = false ∧ x ≠ '\x7b' := by
  cases name with
  | nil => exact h.elim
  | cons x xs =>
    have hupper : x.isUpper := h.1
    refine ⟨x, rfl, ?_, ?_⟩
    · -- a capital letter is no blank
      rw [Bool.eq_false_iff]
      intro hx
      simp [isUpper_eq_false_of_isBlank hx] at hupper
    · rintro rfl
      exact absurd hupper (by decide)

/-- A name between the keywords is read in its form, and a group has it. -/
private theorem head?_ways_namePart {b : Pattern} {name part : List Char} {e : Cursor}
    (hname : IsImportName name) (hpart : IsNamePart name part) (h : c.Reads part d)
    (hd : ∀ x ∈ d.rest.head?, isBlank x) (hb : (b.ways d).head? = some ⟨e, []⟩) :
    ∃ ms, ((seq namePart b).ways c).head? = some ⟨e, ms⟩ ∧
      ∀ m : Match, m.marks = ms → (m.group? 1 <|> m.group? 2) = some name := by
  obtain ⟨x, hx, hblank, hbrace⟩ := head?_of_isImportName hname
  cases hpart with
  | named hb₁ hb₂ =>
    rename_i b₁ b₂
    obtain ⟨c₁, h₁, h⟩ := Cursor.Reads.split (u := "\x7b".toList) h
    obtain ⟨c₂, h₂, h⟩ := h.split
    obtain ⟨c₃, h₃, h⟩ := h.split
    obtain ⟨c₄, h₄, h₅⟩ := h.split
    -- from the closing brace back to the opening one
    have hclose : ((seq (seq blanks (text "\x7d")) b).ways c₃).head? = some ⟨e, []⟩ := by
      rw [ways_seq_assoc]
      refine head?_ways_seq_many h₄ hb₂ (by simp [h₅.rest, isBlank]) ?_
      rwa [ways_seq_text h₅]
    have hafter : ∀ y ∈ c₃.rest.head?, isImportChar y = false := by
      rw [h₄.rest, h₅.rest]
      exact isImportChar_head? hb₂ (by decide)
    -- the name is noted at both its ends
    have hgroup : ((seq (seq (group 1 importName) (seq blanks (text "\x7d"))) b).ways c₂).head? =
        some ⟨e, [(1, c₂), (1, c₃)]⟩ := by
      rw [ways_seq_assoc, ways_seq_group, List.head?_map,
        head?_ways_importName (w := ⟨e, [(1, c₃)]⟩) hname h₃ hafter]
      · rfl
      · rw [ways_seq_mark, List.head?_map, hclose]
        rfl
    have hleft : ((seq (all [.text "\x7b", .blanks, .group 1 importName, .blanks, .text "\x7d"])
        b).ways c).head? = some ⟨e, [(1, c₂), (1, c₃)]⟩ := by
      rw [ways_all_cons (by simp), ways_seq_assoc, ways_seq_text h₁, ways_all_cons (by simp),
        ways_seq_assoc]
      refine head?_ways_seq_many h₂ hb₁ ?_ hgroup
      simp [h₃.rest, hx, hblank]
    refine ⟨[(1, c₂), (1, c₃)], ?_, fun m hm => by simp [Match.group?, hm, h₃.upTo]⟩
    rw [namePart, ways_seq_alt, List.head?_append, hleft]
    rfl
  | default =>
    -- a name does not begin with a brace, so only the second form is read
    have hnamed : (all [.text "\x7b", .blanks, .group 1 importName, .blanks, .text "\x7d"]).ways c =
        [] := by
      rw [ways_all_cons (by simp), ways_seq_text_eq_nil (x := '\x7b') (by decide)]
      simp [h.rest, hx, hbrace]
    have hafter : ∀ y ∈ d.rest.head?, isImportChar y = false := fun y hy =>
      isImportChar_eq_false_of_isBlank (hd y hy)
    refine ⟨[(2, c), (2, d)], ?_, fun m hm => by simp [Match.group?, hm, h.upTo]⟩
    rw [namePart, ways_seq_alt_right hnamed, ways_seq_group, List.head?_map,
      head?_ways_importName (w := ⟨e, [(2, d)]⟩) hname h hafter]
    · rfl
    · rw [ways_seq_mark, List.head?_map, hb]
      rfl

/-- An import line is read as a whole where a line begins. -/
theorem head?_ways_componentImport {name line : List Char} (hline : IsImportLine name line)
    (h : c.Reads line d) (hstart : Anchor.lineStart.holds c) (hend : Anchor.lineEnd.holds d) :
    ∃ ms, (componentImport.ways c).head? = some ⟨d, ms⟩ ∧
      ∀ m : Match, m.marks = ms → (m.group? 1 <|> m.group? 2) = some name := by
  cases hline with
  | mk hname hg hpart hsource =>
    obtain ⟨c₁, h₁, h⟩ := h.split
    obtain ⟨c₂, h₂, h⟩ := h.split
    obtain ⟨c₃, h₃, h₄⟩ := h.split
    -- the name ends where the gap in front of `from` begins
    have hblank : ∀ x ∈ c₃.rest.head?, isBlank x := by
      cases hsource with
      | mk hg =>
        rename_i g' _ _ _ _ _
        obtain ⟨x, xs, hx⟩ := List.exists_cons_of_ne_nil hg.ne_nil
        rw [h₄.rest, hx]
        simpa using hg.blank x (by simp [hx])
    obtain ⟨ms, hms, hgroup⟩ := head?_ways_namePart hname hpart h₃ hblank
      (head?_ways_source hsource h₄ hend)
    refine ⟨ms, ?_, hgroup⟩
    rw [componentImport_eq, ways_seq_of_single (d := c) (by simp [ways, hstart]), ways_seq_text h₁]
    refine head?_ways_seq_many1 h₂ hg.ne_nil hg.blank ?_ hms
    rw [h₃.rest]
    cases hpart with
    | named => simp [isBlank]
    | default =>
      obtain ⟨x, hx, hxblank, -⟩ := head?_of_isImportName hname
      simp [hx, hxblank]

end

/-! ## Trimming -/

/-- Trimming stops at a character that is no white space. -/
theorem trimRight_append {u v : List Char} {x : Char} (hx : isBlank x = false)
    (hv : ∀ y ∈ v, isBlank y) : trimRight (u ++ x :: v) = u ++ [x] := by
  have hdrop : (v.reverse ++ x :: u.reverse).dropWhile isBlank = x :: u.reverse := by
    rw [List.dropWhile_append_of_pos (by simpa using hv), List.dropWhile_cons_of_neg (by simp [hx])]
  simp [trimRight, hdrop]

private theorem isBlank_of_isSpaceOrTab {x : Char} (h : isSpaceOrTab x) : isBlank x := by
  simp only [isSpaceOrTab, Bool.or_eq_true, beq_iff_eq] at h
  rcases h with rfl | rfl <;> decide

/-- Trimming a line shortens its end, and a second time does nothing. -/
private theorem IsLineTail.trim {tail : List Char} (h : IsLineTail tail) :
    ∃ tail', IsLineTail tail' ∧ ∀ u, trimRight (u ++ '\x27' :: tail) = u ++ '\x27' :: tail' ∧
      trimRight (u ++ '\x27' :: tail') = u ++ '\x27' :: tail' := by
  cases h with
  | plain ha =>
    -- blanks alone are cut off
    refine ⟨[], .plain (by simp), fun u => ⟨?_, ?_⟩⟩
    · exact trimRight_append (by decide) fun y hy => isBlank_of_isSpaceOrTab (ha y hy)
    · exact trimRight_append (by decide) (by simp)
  | semicolon ha hb =>
    rename_i a b
    -- the blanks behind the semicolon are cut off
    refine ⟨a ++ [';'], .semicolon ha (by simp), fun u => ⟨?_, ?_⟩⟩
    · have := trimRight_append (u := u ++ '\x27' :: a) (x := ';') (by decide) fun y hy =>
        isBlank_of_isSpaceOrTab (hb y hy)
      simpa using this
    · have := trimRight_append (u := u ++ '\x27' :: a) (x := ';') (v := []) (by decide) (by simp)
      simpa using this

/-- Without the white space at its end an import line is one still. -/
theorem IsImportLine.trimmed {name line : List Char} (h : IsImportLine name line) :
    IsImportLine name (trimRight line) ∧ trimRight (trimRight line) = trimRight line := by
  cases h with
  | mk hname hg hpart hsource =>
    cases hsource with
    | mk hg₂ hg₃ hplace htail =>
      rename_i g part g₂ g₃ place tail
      obtain ⟨tail', htail', htrim⟩ := htail.trim
      have hsplit (t : List Char) : "import".toList ++ (g ++ (part ++ (g₂ ++ ("from".toList ++
          (g₃ ++ ('\x27' :: (place ++ '\x27' :: t))))))) =
          ("import".toList ++ (g ++ (part ++ (g₂ ++ ("from".toList ++ (g₃ ++ ('\x27' :: place))))))) ++
            '\x27' :: t := by
        simp only [List.append_assoc, List.cons_append]
      obtain ⟨h₁, h₂⟩ := htrim
        ("import".toList ++ (g ++ (part ++ (g₂ ++ ("from".toList ++ (g₃ ++ ('\x27' :: place)))))))
      rw [hsplit, h₁, h₂, ← hsplit]
      exact ⟨.mk hname hg hpart (.mk hg₂ hg₃ hplace htail'), rfl⟩

/-! ## Lines in a text -/

section

variable {c d : Cursor} {u v : List Char}

/-- Without the keyword there is no import. -/
theorem ways_componentImport_eq_nil (h : ¬ "import".toList <+: c.rest) :
    componentImport.ways c = [] := by
  rw [componentImport_eq]
  by_cases hstart : Anchor.lineStart.holds c
  · rw [ways_seq_of_single (d := c) (by simp [ways, hstart]), ways_seq_eq_nil (ways_text_eq_nil h)]
  · exact ways_seq_eq_nil (by simp [ways, hstart])

/-- Nor is there one behind another character than a line feed. -/
theorem ways_componentImport_eq_nil_of_before {x : Char} (h : c.before = some x) (hx : x ≠ '\n') :
    componentImport.ways c = [] := by
  rw [componentImport_eq]
  exact ways_seq_eq_nil (by simp [ways, Anchor.holds, h, hx])

/-- A stretch of text in which no line begins with the keyword is passed over, where its first line
is no import. -/
theorem scan_componentImport_of_clear (h : c.Reads u d) (hfirst : componentImport.ways c = [])
    (hclear : Clear "\nimport".toList u d.rest) :
    componentImport.scan c = componentImport.scan d := by
  refine scan_of_none h fun u' s e hus hs he => ?_
  -- at the place itself, or behind some character of the text
  rcases List.eq_nil_or_concat u' with rfl | ⟨u'', x, rfl⟩
  · rwa [← (Cursor.Reads.nil c).eq he]
  · have hbefore : e.before = some x := by simp [he.before]
    -- behind a line feed the keyword does not stand, and elsewhere no line begins
    by_cases hx : x = '\n'
    · subst hx
      refine ways_componentImport_eq_nil fun hp => ?_
      obtain ⟨e', he', hs'⟩ := (hus ▸ h).split
      rw [he.eq he', hs'.rest] at hp
      refine hclear ('\n' :: s) ⟨u'', by simp [hus]⟩ (by simp) ?_
      obtain ⟨r, hr⟩ := hp
      exact ⟨r, by rw [List.cons_append, ← hr]; rfl⟩
    · exact ways_componentImport_eq_nil_of_before hbefore hx

/-- The end of a line is passed over. -/
private theorem scan_componentImport_newline (h : c.Reads ['\n'] d) :
    componentImport.scan c = componentImport.scan d := by
  refine scan_of_none h fun u' s e hus hs he => ?_
  obtain rfl : u' = [] := by
    cases u' with
    | nil => rfl
    | cons x u' => simp_all
  obtain rfl := (Cursor.Reads.nil c).eq he
  refine ways_componentImport_eq_nil ?_
  rw [h.rest]
  exact fun hp => absurd (List.cons_prefix_cons.1 hp).1 (by decide)

/-- Of two different characters of a text one stands before the other. -/
theorem append_cons_cases {xs ys zs ws : List Char} {x y : Char} (hxy : x ≠ y)
    (h : xs ++ x :: zs = ys ++ y :: ws) :
    (∃ u, ys = xs ++ x :: u ∧ zs = u ++ y :: ws) ∨ (∃ u, xs = ys ++ y :: u ∧ ws = u ++ x :: zs) := by
  -- one of the two texts is longer than the other
  rcases List.append_eq_append_iff.1 h with ⟨u, hu, hx⟩ | ⟨u, hu, hy⟩
  · cases u with
    | nil => exact absurd (List.cons.inj hx).1 hxy
    | cons z u =>
      obtain ⟨rfl, hzs⟩ := List.cons.inj hx
      exact .inl ⟨u, hu, hzs⟩
  · cases u with
    | nil => exact absurd (List.cons.inj hy).1.symm hxy
    | cons z u =>
      obtain ⟨rfl, hws⟩ := List.cons.inj hy
      exact .inr ⟨u, hu, hws⟩

/-- Two texts that first reach different characters are different. -/
theorem append_cons_ne {u s r r' : List Char} {y z : Char} (hy : y ∉ s) (hz : z ∉ u)
    (hyz : y ≠ z) : u ++ y :: r ≠ s ++ z :: r' := by
  intro h
  rcases append_cons_cases hyz h with ⟨m, rfl, -⟩ | ⟨m, rfl, -⟩
  · exact hy (by simp)
  · exact hz (by simp)

/-- A line is no import of a component if something else stands where the name ends. -/
private theorem ways_componentImport_eq_nil_of_rest {x : Char}
    (h : c.rest = "import".toList ++ (u ++ x :: v)) (hx : isImportChar x = false)
    (hblank : isBlank x = false) (hbrace : x ≠ '\x7b') (hclose : x ≠ '\x7d') (hf : 'f' ∉ u)
    (hu : '\x7d' ∉ u) : componentImport.ways c = [] := by
  rw [List.eq_nil_iff_forall_not_mem]
  intro w hw
  obtain ⟨name, line, hline, hread, -, -, -⟩ := exists_of_mem_ways_componentImport hw
  -- no gap has `x`, as it is no blank
  have hgap {g : List Char} (hg : IsGap g) : x ∉ g :=
    fun hmem => by simp [hg.blank x hmem] at hblank
  cases hline with
  | mk hn hg hpart hsource =>
    rename_i g part source
    have hrest := h.symm.trans hread.rest
    rw [List.append_assoc, List.append_cancel_left_eq] at hrest
    -- both ways to write the line have another character first than the one that stands there
    cases hpart with
    | named hb hb' =>
      rename_i b b'
      have hsplit : g ++ ('\x7b' :: (b ++ (name ++ (b' ++ ['\x7d']))) ++ source) ++ w.stop.rest =
          (g ++ '\x7b' :: (b ++ (name ++ b'))) ++ '\x7d' :: (source ++ w.stop.rest) := by simp
      have hx' : x ∉ g ++ '\x7b' :: (b ++ (name ++ b')) := by
        simp only [List.mem_append, List.mem_cons, not_or]
        refine ⟨hgap hg, hbrace, fun hmem => ?_, not_mem_of_isImportName hn hx, fun hmem => ?_⟩
        · simp [hb x hmem] at hblank
        · simp [hb' x hmem] at hblank
      exact append_cons_ne hx' hu hclose (hrest.trans hsplit)
    | default =>
      cases hsource with
      | mk hg₂ hg₃ hplace htail =>
        rename_i g₂ g₃ place tail
        have hsplit : g ++ (name ++ (g₂ ++ ("from".toList ++
            (g₃ ++ '\x27' :: (place ++ '\x27' :: tail))))) ++ w.stop.rest =
            (g ++ (name ++ g₂)) ++ 'f' :: ("rom".toList ++ (g₃ ++ '\x27' :: (place ++
              '\x27' :: tail)) ++ w.stop.rest) := by simp
        have hx' : x ∉ g ++ (name ++ g₂) := by
          simp only [List.mem_append, not_or]
          exact ⟨hgap hg, not_mem_of_isImportName hn hx, hgap hg₂⟩
        have hxf : x ≠ 'f' := by
          rintro rfl
          exact absurd hx (by decide)
        exact append_cons_ne hx' hf hxf (hrest.trans hsplit)

/-- The lines with which a storyboard begins import no component. -/
theorem scan_componentImport_header (h : c.Reads header.toList d) :
    componentImport.scan c = componentImport.scan d ∧ Anchor.lineStart.holds d := by
  have hlist : header.toList = "import * as React from 'react'".toList ++ (['\n'] ++
      ("import \x7b Scene, Storyboard \x7d from 'utopia-api'".toList ++ ['\n'])) := by decide
  obtain ⟨c₁, h₁, h⟩ := (hlist ▸ h).split
  obtain ⟨c₂, h₂, h⟩ := h.split
  obtain ⟨c₃, h₃, h₄⟩ := h.split
  -- a star stands where a name should, and in the second line a comma where the name ends
  have hfirst : componentImport.ways c = [] :=
    ways_componentImport_eq_nil_of_rest (u := " ".toList) (x := '*')
      (v := " as React from 'react'".toList ++ c₁.rest) h₁.rest (by decide) (by decide) (by decide)
      (by decide) (by decide) (by decide)
  have hsecond : componentImport.ways c₂ = [] :=
    ways_componentImport_eq_nil_of_rest (u := " \x7b Scene".toList) (x := ',')
      (v := " Storyboard \x7d from 'utopia-api'".toList ++ c₃.rest) h₃.rest (by decide) (by decide)
      (by decide) (by decide) (by decide) (by decide)
  rw [scan_componentImport_of_clear h₁ hfirst (clear_of_head_not_mem (by decide)),
    scan_componentImport_newline h₂,
    scan_componentImport_of_clear h₃ hsecond (clear_of_head_not_mem (by decide)),
    scan_componentImport_newline h₄]
  exact ⟨rfl, by simp [Anchor.holds, h₄.before]⟩

end

/-! ## Imports as they are read and written -/

/-- An import whose line is of the grammar and has no white space at its end. -/
structure IsWhole (i : ImportLine) : Prop where
  line : IsImportLine i.name.toList i.line.toList
  trimmed : trimRight i.line.toList = i.line.toList

/-- Lines with imports are read one after the other. -/
theorem scan_importLines {is : List ImportLine} {c d : Cursor}
    (h : c.Reads (is.flatMap fun i => i.line.toList ++ ['\n']) d)
    (hstart : Anchor.lineStart.holds c) (his : ∀ i ∈ is, IsWhole i) :
    (componentImport.scan c).filterMap importLine? =
        is ++ (componentImport.scan d).filterMap importLine? ∧ Anchor.lineStart.holds d := by
  induction is generalizing c with
  | nil =>
    obtain rfl := h.eq (.nil c)
    exact ⟨rfl, hstart⟩
  | cons i is ih =>
    rw [List.flatMap_cons] at h
    obtain ⟨c₂, h, hrest⟩ := h.split
    obtain ⟨c₁, h₁, h₂⟩ := h.split
    -- this line ends before the line feed, and the next one begins behind it
    have hend : Anchor.lineEnd.holds c₁ := by simp [Anchor.holds, h₂.rest]
    have hwhole := his i (by simp)
    obtain ⟨ms, hms, hgroup⟩ := head?_ways_componentImport hwhole.line h₁ hstart hend
    have himport : importLine? ⟨c, c₁, ms⟩ = some i := by
      simp [importLine?, hgroup ⟨c, c₁, ms⟩ rfl, Match.text, h₁.upTo, hwhole.trimmed]
    have hscan : componentImport.scan c = ⟨c, c₁, ms⟩ :: componentImport.scan c₂ := by
      rw [scan_of_some hms h₁ hwhole.line.ne_nil, scan_componentImport_newline h₂]
    obtain ⟨hlater, hend'⟩ :=
      ih hrest (by simp [Anchor.holds, h₂.before]) fun i hi => his i (by simp [hi])
    refine ⟨?_, hend'⟩
    rw [hscan, List.filterMap_cons, himport, hlater]
    rfl

end SceneBoard.Storyboard
