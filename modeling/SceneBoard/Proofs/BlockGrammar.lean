import SceneBoard.Proofs.Leftmost
import SceneBoard.Storyboard.Parser

/-!
# Scene blocks

The grammar of a scene block (`IsBlock`) and what the pattern of scene blocks does in any text:

* `exists_isBlock_of_head?`: what it reads is a block, and its groups hold the parts of the block;
* `describes_sceneBlock`: it reads one wherever a block begins.

A text can be a block in several ways, as an attribute may stand in a gap once more. Which of them
counts is left to the pattern; all of them have the same kinds of parts.
-/

namespace SceneBoard.Storyboard

open Text Text.Pattern

/-! ## The grammar -/

/-- What can stand between single quotes. -/
structure IsAttributeValue (s : List Char) : Prop where
  ne_nil : s ≠ []
  quote : '\x27' ∉ s

/-- A quoted attribute, with what stands before it in the tag. -/
inductive IsAttribute (name : String) (value : List Char) : List Char → Prop where
  | mk {gap : List Char} (hgap : '>' ∉ gap) (hvalue : IsAttributeValue value) :
      IsAttribute name value (gap ++ (name.toList ++ ("=\x27".toList ++ (value ++ "\x27".toList))))

/-- The style of a scene, with what stands before it in the tag. -/
inductive IsStyleAttribute (style : List Char) : List Char → Prop where
  | mk {gap : List Char} (hgap : '>' ∉ gap) (hstyle : '\x7d' ∉ style) :
      IsStyleAttribute style (gap ++ ("style=\x7b\x7b".toList ++ (style ++ "\x7d\x7d".toList)))

/-- The opening tag of a scene. The comment id is not used. -/
inductive IsOpeningTag (id style label : List Char) : List Char → Prop where
  | mk {commentId first second third fourth gap : List Char} (hid : IsAttribute "id" id first)
      (hcomment : IsAttribute "commentId" commentId second)
      (hstyle : IsStyleAttribute style third) (hlabel : IsAttribute "data-label" label fourth)
      (hgap : '>' ∉ gap) :
      IsOpeningTag id style label
        ("<Scene".toList ++ (first ++ (second ++ (third ++ (fourth ++ (gap ++ ">".toList))))))

/-- A scene block. Its body ends where a scene is closed first. -/
inductive IsBlock (id style label body : List Char) : List Char → Prop where
  | mk {tag : List Char} (htag : IsOpeningTag id style label tag)
      (hbody : ¬ "</Scene>".toList <:+: body) :
      IsBlock id style label body (tag ++ (body ++ "</Scene>".toList))

/-- The parts of a block keep to what they may hold. -/
theorem IsBlock.parts {id style label body block : List Char}
    (h : IsBlock id style label body block) :
    IsAttributeValue id ∧ IsAttributeValue label ∧ ¬ "</Scene>".toList <:+: body := by
  cases h with
  | mk htag hbody =>
    cases htag with
    | mk hid _ _ hlabel _ =>
      cases hid with
      | mk _ hid =>
        cases hlabel with
        | mk _ hlabel => exact ⟨hid, hlabel, hbody⟩

/-! ## What the pattern reads -/

section

variable {c : Cursor} {w : Way} {b : Pattern} {n : Nat}

private theorem not_mem_of_inTag {u : List Char} (h : ∀ x ∈ u, inTag x) : '>' ∉ u :=
  fun hmem => absurd (h _ hmem) (by decide)

/-- The first way to read an attribute reads a gap, its name and its value in quotes. -/
private theorem exists_of_head?_attribute {name : String}
    (h : ((seq (many inTag) (seq (quotedAttribute name n) b)).ways c).head? = some w) :
    ∃ value text i j d w', IsAttribute name value text ∧ c.Reads text d ∧ i.Reads value j ∧
      (b.ways d).head? = some w' ∧ w = ⟨w'.stop, (n, i) :: (n, j) :: w'.marks⟩ := by
  obtain ⟨v, w₁, hv, hw₁, rfl⟩ := exists_of_head?_ways_seq h
  obtain ⟨gap, c₁, h₁, hgap, rfl⟩ := exists_of_mem_ways_run hv
  obtain ⟨v, w', hv, hw', rfl⟩ := exists_of_head?_ways_seq hw₁
  -- name, equals sign with quote, value, quote
  simp only [quotedAttribute, all] at hv
  obtain ⟨v₁, hv₁, v₂, hv₂, rfl⟩ := exists_of_mem_ways_seq hv
  obtain ⟨c₂, h₂, rfl⟩ := exists_of_mem_ways_text hv₁
  obtain ⟨v₃, hv₃, v₄, hv₄, rfl⟩ := exists_of_mem_ways_seq hv₂
  obtain ⟨c₃, h₃, rfl⟩ := exists_of_mem_ways_text hv₃
  obtain ⟨v₅, hv₅, v₆, hv₆, rfl⟩ := exists_of_mem_ways_seq hv₄
  obtain ⟨v₇, hv₇, rfl⟩ := exists_of_mem_ways_group hv₅
  obtain ⟨value, c₄, h₄, hne, hquotes, rfl⟩ := exists_of_mem_ways_many1 hv₇
  obtain ⟨c₅, h₅, rfl⟩ := exists_of_mem_ways_text hv₆
  have hvalue : IsAttributeValue value :=
    ⟨hne, fun hmem => absurd (hquotes _ hmem) (by decide)⟩
  exact ⟨value, _, c₃, c₄, c₅, w', .mk (not_mem_of_inTag hgap) hvalue,
    h₁.trans (h₂.trans (h₃.trans (h₄.trans h₅))), h₄, hw', by simp [Way.append]⟩

/-- The first way to read the style reads a gap and what stands in the braces. -/
private theorem exists_of_head?_style
    (h : ((seq (many inTag) (seq (text "style=\x7b\x7b") (seq (group n (many fun c => c != '\x7d'))
      (seq (text "\x7d\x7d") b)))).ways c).head? = some w) :
    ∃ style text i j d w', IsStyleAttribute style text ∧ c.Reads text d ∧ i.Reads style j ∧
      (b.ways d).head? = some w' ∧ w = ⟨w'.stop, (n, i) :: (n, j) :: w'.marks⟩ := by
  -- gap, opening, style, closing
  obtain ⟨v, w₁, hv, hw₁, rfl⟩ := exists_of_head?_ways_seq h
  obtain ⟨gap, c₁, h₁, hgap, rfl⟩ := exists_of_mem_ways_run hv
  obtain ⟨v, w₂, hv, hw₂, rfl⟩ := exists_of_head?_ways_seq hw₁
  obtain ⟨c₂, h₂, rfl⟩ := exists_of_mem_ways_text hv
  obtain ⟨v, w₃, hv, hw₃, rfl⟩ := exists_of_head?_ways_seq hw₂
  obtain ⟨v', hv', rfl⟩ := exists_of_mem_ways_group hv
  obtain ⟨style, c₃, h₃, hstyle, rfl⟩ := exists_of_mem_ways_run hv'
  obtain ⟨v, w', hv, hw', rfl⟩ := exists_of_head?_ways_seq hw₃
  obtain ⟨c₄, h₄, rfl⟩ := exists_of_mem_ways_text hv
  have hbrace : '\x7d' ∉ style := fun hmem => absurd (hstyle _ hmem) (by decide)
  exact ⟨style, _, c₂, c₃, c₄, w', .mk (not_mem_of_inTag hgap) hbrace,
    h₁.trans (h₂.trans (h₃.trans h₄)), h₃, hw', by simp [Way.append]⟩

/-- A body ends at the first closing tag. -/
private theorem exists_of_head?_body
    (h : ((seq (group n (few fun _ => true)) (text "</Scene>")).ways c).head? = some w) :
    ∃ body d, c.Reads body d ∧ d.Reads "</Scene>".toList w.stop ∧
      w.marks = [(n, c), (n, d)] ∧ ¬ "</Scene>".toList <:+: body := by
  rw [ways_seq_group, List.head?_map, Option.map_eq_some_iff] at h
  obtain ⟨w', hw', rfl⟩ := h
  obtain ⟨body, d, hbody, hd, hno⟩ := exists_of_head?_ways_seq_few hw'
  rw [ways_seq_mark, List.head?_map, Option.map_eq_some_iff] at hd
  obtain ⟨w'', hend, rfl⟩ := hd
  obtain ⟨e, he, rfl⟩ := exists_of_mem_ways_text (List.mem_of_head? hend)
  refine ⟨body, d, hbody, he, rfl, ?_⟩
  -- a closing tag inside the body would have ended the body
  rintro ⟨x, y, hxy⟩
  have hsplit : body = x ++ ("</Scene>".toList ++ y) := by rw [← hxy, List.append_assoc]
  obtain ⟨f, hf, hfd⟩ := Cursor.Reads.split (hsplit ▸ hbody)
  obtain ⟨g, hg, -⟩ := hfd.split
  have hnil := hno x _ f hsplit (by simp) hf
  rw [ways_seq_mark, ways_text hg] at hnil
  simp at hnil

/-- What the pattern reads is a block, and its groups hold the parts of the block. -/
theorem exists_isBlock_of_head? (h : (sceneBlock.ways c).head? = some w) :
    ∃ id style label body block, IsBlock id style label body block ∧ c.Reads block w.stop ∧
      ∀ m : Match, m.marks = w.marks → m.group? 1 = some id ∧ m.group? 3 = some style ∧
        m.group? 4 = some label ∧ m.group? 5 = some body := by
  simp only [sceneBlock, all] at h
  -- the opening and its four attributes, each with the groups it notes
  obtain ⟨v, w₀, hv, hw₀, rfl⟩ := exists_of_head?_ways_seq h
  obtain ⟨c₀, h₀, rfl⟩ := exists_of_mem_ways_text hv
  obtain ⟨id, first, i₁, j₁, c₁, w₁, hid, h₁, hi₁, hw₁, rfl⟩ := exists_of_head?_attribute hw₀
  obtain ⟨commentId, second, i₂, j₂, c₂, w₂, hcomment, h₂, -, hw₂, rfl⟩ :=
    exists_of_head?_attribute hw₁
  obtain ⟨style, third, i₃, j₃, c₃, w₃, hstyle, h₃, hi₃, hw₃, rfl⟩ := exists_of_head?_style hw₂
  obtain ⟨label, fourth, i₄, j₄, c₄, w₄, hlabel, h₄, hi₄, hw₄, rfl⟩ :=
    exists_of_head?_attribute hw₃
  -- the rest of the opening tag, and the body
  obtain ⟨v, w₅, hv, hw₅, rfl⟩ := exists_of_head?_ways_seq hw₄
  obtain ⟨gap, c₅, h₅, hgap, rfl⟩ := exists_of_mem_ways_run hv
  obtain ⟨v, w₆, hv, hw₆, rfl⟩ := exists_of_head?_ways_seq hw₅
  obtain ⟨c₆, h₆, rfl⟩ := exists_of_mem_ways_text hv
  obtain ⟨body, c₇, h₇, h₈, hmarks, hbody⟩ := exists_of_head?_body hw₆
  have htag := h₀.trans (h₁.trans (h₂.trans (h₃.trans (h₄.trans (h₅.trans h₆)))))
  refine ⟨id, style, label, body, _,
    .mk (.mk hid hcomment hstyle hlabel (not_mem_of_inTag hgap)) hbody,
    htag.trans (h₇.trans h₈), fun m hm => ?_⟩
  simp [Match.group?, hm, Way.append, hmarks, hi₁.upTo, hi₃.upTo, hi₄.upTo, h₇.upTo]

end

/-! ## Where the pattern has a way -/

section

variable {c d : Cursor} {b : Pattern} {n : Nat}

/-- A run that can stop where the rest goes on can be read. -/
private theorem ways_seq_run_ne_nil {p : Char → Bool} {greedy : Bool} {u : List Char}
    (h : c.Reads u d) (hu : ∀ x ∈ u, p x) (hb : b.ways d ≠ []) :
    (seq (run p greedy) b).ways c ≠ [] := by
  have hmem : d ∈ stopsFrom p c.index c.before c.rest := mem_stopsFrom_iff.2 ⟨u, h, hu⟩
  simp only [ways, ne_eq, List.flatMap_eq_nil_iff, List.map_eq_nil_iff, List.mem_map]
  intro hnil
  exact hb (hnil ⟨d, []⟩ ⟨d, by cases greedy <;> simpa using hmem, rfl⟩)

private theorem ways_seq_mark_ne_nil (hb : b.ways c ≠ []) : (seq (mark n) b).ways c ≠ [] := by
  rwa [ways_seq_mark, Ne, List.map_eq_nil_iff]

private theorem ways_seq_group_ne_nil {a : Pattern} (h : (seq a (seq (mark n) b)).ways c ≠ []) :
    (seq (group n a) b).ways c ≠ [] := by
  rwa [ways_seq_group, Ne, List.map_eq_nil_iff]

/-- Characters other than the closing one stand in a tag. -/
theorem inTag_of_not_mem {u : List Char} (h : '>' ∉ u) : ∀ x ∈ u, inTag x := by
  intro x hx
  simp only [inTag, bne_iff_ne]
  rintro rfl
  exact h hx

/-- An attribute in front of what can be read can be read. -/
private theorem ways_attribute_ne_nil {name : String} {value piece : List Char}
    (hpiece : IsAttribute name value piece) (h : c.Reads piece d) (hb : b.ways d ≠ []) :
    (seq (many inTag) (seq (quotedAttribute name n) b)).ways c ≠ [] := by
  cases hpiece with
  | mk hgap hvalue =>
    obtain ⟨c₁, h₁, h⟩ := h.split
    obtain ⟨c₂, h₂, h⟩ := h.split
    obtain ⟨c₃, h₃, h⟩ := h.split
    obtain ⟨c₄, h₄, h₅⟩ := h.split
    -- a value has at least one character, and the run takes the others
    obtain ⟨x, value, rfl⟩ := List.exists_cons_of_ne_nil hvalue.ne_nil
    obtain ⟨c₅, h₅', h₆⟩ := Cursor.Reads.split (u := [x]) h₄
    have hquotes : ∀ y ∈ x :: value, inQuotes y := by
      intro y hy
      simp only [inQuotes, bne_iff_ne]
      rintro rfl
      exact hvalue.quote hy
    have hmark : (seq (mark n) (seq (text "\x27") b)).ways c₄ ≠ [] :=
      ways_seq_mark_ne_nil (by rwa [ways_seq_text h₅])
    refine ways_seq_run_ne_nil h₁ (inTag_of_not_mem hgap) ?_
    simp only [quotedAttribute, all]
    rw [ways_seq_assoc, ways_seq_text h₂, ways_seq_assoc, ways_seq_text h₃, ways_seq_assoc]
    refine ways_seq_group_ne_nil ?_
    rw [many1, ways_seq_assoc, ways_seq_char h₅' (hquotes x (by simp))]
    exact ways_seq_run_ne_nil h₆ (fun y hy => hquotes y (by simp [hy])) hmark

/-- A style in front of what can be read can be read. -/
private theorem ways_style_ne_nil {style piece : List Char}
    (hpiece : IsStyleAttribute style piece) (h : c.Reads piece d) (hb : b.ways d ≠ []) :
    (seq (many inTag) (seq (text "style=\x7b\x7b") (seq (group n (many fun c => c != '\x7d'))
      (seq (text "\x7d\x7d") b)))).ways c ≠ [] := by
  cases hpiece with
  | mk hgap hstyle =>
    obtain ⟨c₁, h₁, h⟩ := h.split
    obtain ⟨c₂, h₂, h⟩ := h.split
    obtain ⟨c₃, h₃, h₄⟩ := h.split
    have hinside : ∀ x ∈ style, x != '\x7d' := by
      intro x hx
      simp only [bne_iff_ne]
      rintro rfl
      exact hstyle hx
    refine ways_seq_run_ne_nil h₁ (inTag_of_not_mem hgap) ?_
    rw [ways_seq_text h₂]
    refine ways_seq_group_ne_nil (ways_seq_run_ne_nil h₃ hinside (ways_seq_mark_ne_nil ?_))
    rwa [ways_seq_text h₄]

/-- Wherever a block begins, the pattern has a way. -/
theorem ways_sceneBlock_ne_nil {id style label body block : List Char}
    (hblock : IsBlock id style label body block) (h : c.Reads block d) :
    sceneBlock.ways c ≠ [] := by
  cases hblock with
  | mk htag hbody =>
    cases htag with
    | mk hid hcomment hstyle hlabel hgap =>
      -- the block part by part, and then the patterns from the end back to the beginning
      obtain ⟨c₇, htag, h⟩ := h.split
      obtain ⟨c₈, h₈, h₉⟩ := h.split
      obtain ⟨c₁, h₁, h⟩ := htag.split
      obtain ⟨c₂, h₂, h⟩ := h.split
      obtain ⟨c₃, h₃, h⟩ := h.split
      obtain ⟨c₄, h₄, h⟩ := h.split
      obtain ⟨c₅, h₅, h⟩ := h.split
      obtain ⟨c₆, h₆, h₇⟩ := h.split
      have hend : (text "</Scene>").ways c₈ ≠ [] := by simp [ways_text h₉]
      have hread : (seq (text ">") (seq (group 5 (few fun _ => true)) (text "</Scene>"))).ways c₆ ≠
          [] := by
        rw [ways_seq_text h₇]
        exact ways_seq_group_ne_nil
          (ways_seq_run_ne_nil h₈ (by simp) (ways_seq_mark_ne_nil hend))
      simp only [sceneBlock, all]
      rw [ways_seq_text h₁]
      exact ways_attribute_ne_nil hid h₂ (ways_attribute_ne_nil hcomment h₃
        (ways_style_ne_nil hstyle h₄ (ways_attribute_ne_nil hlabel h₅
          (ways_seq_run_ne_nil h₆ (inTag_of_not_mem hgap) hread))))

end

/-! ## Blocks in a text -/

/-- A piece of a text that is a scene block, wherever it stands. -/
def IsBlockPiece (_before piece _after : List Char) : Prop :=
  ∃ id style label body, IsBlock id style label body piece

/-- A block has characters. -/
theorem IsBlock.ne_nil {id style label body block : List Char}
    (h : IsBlock id style label body block) : block ≠ [] := by
  cases h with
  | mk htag hbody => simp

/-- The pattern describes scene blocks. -/
theorem describes_sceneBlock : sceneBlock.Describes IsBlockPiece where
  ne_nil := by
    rintro before piece after ⟨id, style, label, body, h⟩
    exact h.ne_nil
  sound := by
    rintro cs before c w - hw
    obtain ⟨id, style, label, body, block, hblock, hread, -⟩ := exists_isBlock_of_head? hw
    exact ⟨block, hread, id, style, label, body, hblock⟩
  complete := by
    rintro cs before piece c d - hread ⟨id, style, label, body, hblock⟩
    exact ways_sceneBlock_ne_nil hblock hread

/-- The parts of a block, as the pattern tells them apart. -/
structure HasParts (m : Match) (id style label body : List Char) : Prop where
  id : m.group? 1 = some id
  style : m.group? 3 = some style
  label : m.group? 4 = some label
  body : m.group? 5 = some body

/-- A match of the pattern is a block of its parts. -/
theorem exists_hasParts_of_mem_findAll {m : Match} {cs : List Char}
    (h : m ∈ sceneBlock.findAll cs) : ∃ id style label body, HasParts m id style label body ∧
      IsBlock id style label body m.text := by
  obtain ⟨w, -, -, hw, hm⟩ := exists_of_mem_findAll h
  obtain ⟨id, style, label, body, block, hblock, hread, hgroups⟩ := exists_isBlock_of_head? hw
  obtain ⟨h₁, h₃, h₄, h₅⟩ := hgroups m (by rw [hm])
  have htext : m.text = block := by
    rw [Match.text, ← hread.upTo]
    congr 1
    rw [hm]
  exact ⟨id, style, label, body, ⟨h₁, h₃, h₄, h₅⟩, htext ▸ hblock⟩

end SceneBoard.Storyboard
