import SceneBoard.Proofs.BlockGrammar

/-!
# Written scene blocks

What the pattern of a scene block does at a block as it is written: there is a first way, it ends
behind the closing tag, and the groups hold the id, the style, the label and the body
(`head?_ways_sceneBlock`). The gaps of the pattern reach as far as the opening tag does, so what has
to be seen is that each attribute name with its equals sign and its quote stands in the tag only
once (`Clear`). Ids and styles have no equals sign at all; a label may have one, as long as it does
not end like the beginning of an attribute (`OpensAttribute`). It may also hold the signs of tags.
-/

namespace SceneBoard.Storyboard

open Text Text.Pattern

/-! ## The text of a block -/

/-- An attribute in single quotes on a line of its own. -/
def attributeChars (name : String) (value : List Char) : List Char :=
  "\n      ".toList ++ ((name ++ "=\x27").toList ++ (value ++ ['\x27']))

/-- The style attribute on lines of its own. -/
def styleChars (style : List Char) : List Char :=
  "\n      ".toList ++ ("style=\x7b\x7b".toList ++ (style ++ ['\x7d', '\x7d']))

/-- A scene block as it is written, from the opening tag to the closing one. -/
def blockChars (id style label body : List Char) : List Char :=
  "<Scene".toList ++ (attributeChars "id" id ++ (attributeChars "commentId" id ++
    (styleChars style ++ (attributeChars "data-label" label ++ ("\n    ".toList ++ (">".toList ++
      (body ++ "</Scene>".toList)))))))

/-- An id or a label that a scene block can hold. -/
structure IsSafe (s : List Char) : Prop where
  ne_nil : s ≠ []
  quote : '\x27' ∉ s
  equals : '=' ∉ s
  less : '<' ∉ s
  greater : '>' ∉ s

instance (s : List Char) : Decidable (IsSafe s) :=
  decidable_of_iff (s ≠ [] ∧ '\x27' ∉ s ∧ '=' ∉ s ∧ '<' ∉ s ∧ '>' ∉ s)
    ⟨fun h => ⟨h.1, h.2.1, h.2.2.1, h.2.2.2.1, h.2.2.2.2⟩,
      fun h => ⟨h.ne_nil, h.quote, h.equals, h.less, h.greater⟩⟩

/-- With the quote that closes it, the label opens an attribute, or a style begins in it. -/
def OpensAttribute (label : List Char) : Prop :=
  (∃ name ∈ ["id", "commentId", "data-label"], (name ++ "=").toList <:+ label) ∨
    "style=\x7b\x7b".toList <:+: label

instance (label : List Char) : Decidable (OpensAttribute label) :=
  inferInstanceAs (Decidable (_ ∨ _))

/-- A label that a scene block can hold. -/
structure IsLabel (s : List Char) : Prop where
  ne_nil : s ≠ []
  quote : '\x27' ∉ s
  closed : ¬ OpensAttribute s

/-- A safe text can stand as a label. -/
theorem IsSafe.isLabel {s : List Char} (h : IsSafe s) : IsLabel s where
  ne_nil := h.ne_nil
  quote := h.quote
  closed := by
    -- both ways to open an attribute need an equals sign
    rintro (⟨name, -, hsuffix⟩ | hcontains)
    · exact h.equals (hsuffix.subset (by simp [String.toList_append]))
    · exact h.equals (hcontains.subset (by decide))

/-- A style that a scene block can hold. -/
structure IsStyle (s : List Char) : Prop where
  equals : '=' ∉ s
  greater : '>' ∉ s
  brace : '\x7d' ∉ s

/-! ## Where the name of an attribute stands -/

section

variable {t value v : List Char} {name : String}

/-- The beginning of an attribute, up to the quote. -/
private theorem toList_opening (name : String) :
    (name ++ "=\x27").toList = name.toList ++ '=' :: ['\x27'] := by
  rw [String.toList_append]
  rfl

/-- A text stands in an attribute only if it begins in the value. -/
private theorem clear_attributeChars (hvalue : Clear t value ('\x27' :: v))
    (hgap : apart t "\n      ".toList) (hname : apart t (name ++ "=\x27").toList)
    (hend : apart t ['\x27']) : Clear t (attributeChars name value) v := by
  unfold attributeChars
  refine clear_append.2 ⟨clear_of_apart hgap, clear_append.2 ⟨clear_of_apart hname, ?_⟩⟩
  exact clear_append.2 ⟨hvalue, clear_of_apart hend⟩

/-- What neither the style nor the text around it begins does not begin there. -/
private theorem clear_styleChars (hvalue : Clear t value ('\x7d' :: '\x7d' :: v))
    (hgap : apart t "\n      ".toList) (hname : apart t "style=\x7b\x7b".toList)
    (hend : apart t ['\x7d', '\x7d']) : Clear t (styleChars value) v := by
  unfold styleChars
  refine clear_append.2 ⟨clear_of_apart hgap, clear_append.2 ⟨clear_of_apart hname, ?_⟩⟩
  exact clear_append.2 ⟨hvalue, clear_of_apart hend⟩

/-- No attribute opens in a value without an equals sign. -/
private theorem clear_opening_of_not_mem {x : Char} (hvalue : '=' ∉ value) (hname : x ∉ name.toList)
    (hx : x ≠ '=') : Clear (name ++ "=\x27").toList value (x :: v) := by
  rw [toList_opening]
  exact clear_of_not_mem hvalue hname hx

/-- No attribute opens in a label, and none opens with the quote behind it. -/
private theorem IsLabel.clear_opening (h : IsLabel value)
    (hname : name ∈ ["id", "commentId", "data-label"]) :
    Clear (name ++ "=\x27").toList value ('\x27' :: v) := by
  have hquote : '\x27' ∉ (name ++ "=").toList := by
    revert name
    decide
  have hlist : (name ++ "=\x27").toList = (name ++ "=").toList ++ ['\x27'] := by
    rw [toList_opening, String.toList_append]
    simp
  rw [hlist]
  exact clear_of_not_suffix hquote h.quote fun hsuffix => h.closed (.inl ⟨name, hname, hsuffix⟩)

/-- No style begins in a label. -/
private theorem IsLabel.clear_style (h : IsLabel value) :
    Clear "style=\x7b\x7b".toList value ('\x27' :: v) :=
  clear_of_not_infix_of_not_mem (fun hstyle => h.closed (.inr hstyle)) (by decide)

end

/-! ## Attributes -/

section

variable {c e : Cursor} {value w v : List Char}

/-- A quoted attribute is read where its name stands in the rest of the tag only once. -/
private theorem ways_seq_quotedAttribute (name : String) (n : Nat) {x : Char} {t : List Char}
    (hname : name.toList = x :: t) (hx : x ≠ '>')
    (hgap : apart (name ++ "=\x27").toList "\n      ".toList)
    (hself : apart (name ++ "=\x27").toList (t ++ '=' :: ['\x27']))
    (hend : apart (name ++ "=\x27").toList ['\x27'])
    (h : c.Reads (attributeChars name value) e) (he : e.rest = w ++ '>' :: v) (hne : value ≠ [])
    (hvalue : '\x27' ∉ value)
    (hclear : Clear (name ++ "=\x27").toList value ('\x27' :: (w ++ '>' :: v)))
    (hafter : Clear (name ++ "=\x27").toList w ('>' :: v)) :
    ∃ d d', d.Reads value d' ∧ ∀ b : Pattern,
      (seq (many inTag) (seq (quotedAttribute name n) b)).ways c =
        (b.ways e).map fun y => (y.remember n d').remember n d := by
  -- the gap and the name, the value, the quote
  obtain ⟨c₁, h₁, h⟩ := h.split
  obtain ⟨c₂, h₂, h⟩ := h.split
  obtain ⟨c₃, h₃, h₄⟩ := h.split
  refine ⟨c₂, c₃, h₃, fun b => ?_⟩
  have hlist : (name ++ "=\x27").toList = (x :: t) ++ '=' :: ['\x27'] := by
    rw [toList_opening, hname]
  have hc₂ : c₂.rest = (value ++ '\x27' :: w) ++ '>' :: v := by
    rw [h₃.rest, h₄.rest, he]
    simp
  -- the name and the quote are one text for the run in front of them
  have hjoin (d : Cursor) : (seq (quotedAttribute name n) b).ways d =
      (seq (text (name ++ "=\x27"))
        (seq (group n (many1 inQuotes)) (seq (text "\x27") b))).ways d := by
    rw [← ways_seq_text_text]
    simp only [quotedAttribute, all, ways_seq_assoc]
    refine ways_seq_congr fun d => ?_
    rw [ways_seq_assoc]
    exact ways_seq_congr fun d => ways_seq_assoc ..
  rw [ways_seq_congr hjoin, many, ways_seq_run_text hlist h₁ h₂ hc₂]
  · rw [ways_seq_group, ways_seq_many1_of_stop h₃ hne, ways_seq_mark, ways_seq_text h₄]
    · simp
    · intro y hy
      -- the run stops at the quote behind the value
      simp only [inQuotes, bne_iff_ne]
      rintro rfl
      exact hvalue hy
    · simp [h₄.rest, inQuotes]
    · intro f hf
      rw [ways_seq_mark, ways_seq_text_eq_nil_of_any (x := '\x27') (by simp) (by decide) hf]
      rfl
  · exact inTag_of_not_mem (by decide)
  · simp [inTag]
  · exact clear_of_apart hgap
  -- behind the place where it is read the name does not stand again before the tag ends
  · refine clear_append.2 ⟨clear_of_apart hself, clear_append.2 ⟨hclear, ?_⟩⟩
    exact (clear_append (w := ['\x27'])).2 ⟨clear_of_apart hend, hafter⟩
  · rw [hlist]
    exact fun hp => hx (List.cons_prefix_cons.1 hp).1

/-- The style is read where its name stands in the rest of the tag only once. -/
private theorem ways_seq_style {n : Nat} (h : c.Reads (styleChars value) e)
    (he : e.rest = w ++ '>' :: v) (hvalue : IsStyle value)
    (hafter : Clear "style=\x7b\x7b".toList w ('>' :: v)) :
    ∃ d d', d.Reads value d' ∧ ∀ b : Pattern,
      (seq (many inTag) (seq (text "style=\x7b\x7b") (seq (group n (many fun c => c != '\x7d'))
        (seq (text "\x7d\x7d") b)))).ways c =
        (b.ways e).map fun y => (y.remember n d').remember n d := by
  -- the gap and the name, the value, the braces
  obtain ⟨c₁, h₁, h⟩ := h.split
  obtain ⟨c₂, h₂, h⟩ := h.split
  obtain ⟨c₃, h₃, h₄⟩ := h.split
  refine ⟨c₂, c₃, h₃, fun b => ?_⟩
  have hc₂ : c₂.rest = (value ++ (['\x7d', '\x7d'] ++ w)) ++ '>' :: v := by
    rw [h₃.rest, h₄.rest, he]
    simp
  have hlist : "style=\x7b\x7b".toList = 's' :: "tyle=\x7b\x7b".toList := by decide
  rw [many, ways_seq_run_text hlist h₁ h₂ hc₂]
  · rw [ways_seq_group, many, ways_seq_run_of_stop h₃, ways_seq_mark,
      ways_seq_text (s := "\x7d\x7d") h₄]
    · simp
    · -- the run stops at the first brace behind the value
      intro y hy
      simp only [bne_iff_ne]
      rintro rfl
      exact hvalue.brace hy
    · simp [h₄.rest]
    · intro f hf
      rw [ways_seq_mark, ways_seq_text_eq_nil_of_any (x := '\x7d') (by simp) (by decide) hf]
      rfl
  · exact inTag_of_not_mem (by decide)
  · simp [inTag]
  · exact clear_of_apart (by decide)
  -- neither the value nor the rest of the tag holds the name again
  · refine clear_append.2 ⟨clear_of_apart (by decide), clear_append.2 ⟨?_, ?_⟩⟩
    · exact @clear_of_not_mem "style".toList _ _ _ _ _ hvalue.equals (by decide) (by decide)
    · exact clear_append.2 ⟨clear_of_apart (by decide), hafter⟩
  · simp

end

/-! ## Blocks -/

section

variable {c e : Cursor} {id style label body : List Char}

/-- What is left of an opening tag behind its style. -/
private def tagEnd (label : List Char) : List Char :=
  attributeChars "data-label" label ++ "\n    ".toList

/-- What is left of an opening tag behind the comment id. -/
private def styleAndEnd (style label : List Char) : List Char :=
  styleChars style ++ tagEnd label

/-- The same for the end of the tag, from the label on. -/
private theorem clear_tagEnd {t v : List Char}
    (hlabel : Clear t label ('\x27' :: ("\n    ".toList ++ v))) (hgap : apart t "\n      ".toList)
    (hname : apart t ("data-label" ++ "=\x27").toList) (hend : apart t ['\x27'])
    (hlast : apart t "\n    ".toList) : Clear t (tagEnd label) v :=
  clear_append.2 ⟨clear_attributeChars hlabel hgap hname hend, clear_of_apart hlast⟩

/-- An opening tag ends at the first greater-than sign. -/
private theorem ways_seq_tagClose {c d e : Cursor} {u : List Char} (h : c.Reads u d) (hu : '>' ∉ u)
    (h' : d.Reads ">".toList e) (b : Pattern) :
    (seq (many inTag) (seq (text ">") b)).ways c = b.ways e := by
  rw [many, ways_seq_run_of_stop h (inTag_of_not_mem hu), ways_seq_text h']
  · simp [h'.rest, inTag]
  · intro f hf
    exact ways_seq_text_eq_nil_of_any (x := '>') (by simp) (by decide) hf

/-- A body is read up to the first closing tag. -/
private theorem head?_ways_body {c d e : Cursor} (h : c.Reads body d)
    (h' : d.Reads "</Scene>".toList e) (hbody : ¬ "</Scene>".toList <:+: body) :
    ((seq (few fun _ => true) (seq (mark 5) (text "</Scene>"))).ways c).head? =
      some ⟨e, [(5, d)]⟩ := by
  have hend : (seq (mark 5) (text "</Scene>")).ways d = [⟨e, [(5, d)]⟩] := by
    rw [ways_seq_mark, ways_text h']
    rfl
  refine head?_ways_seq_few h (by simp) (fun u s f hus hs hf => ?_) (by simp [hend])
  -- at an earlier place of the body no closing tag begins
  rw [ways_seq_mark, ways_text_eq_nil]
  · rfl
  · have hfr : f.rest = s ++ '<' :: ("/Scene>".toList ++ e.rest) := by
      obtain ⟨f', hf', hs'⟩ := (hus ▸ h).split
      rw [hf.eq hf', hs'.rest, h'.rest]
      rfl
    have hclear := clear_of_not_infix (a := '<') (t := "/Scene>".toList) (w := body)
      (v := "/Scene>".toList ++ e.rest) (by decide) hbody
    rw [hfr]
    exact hclear s (hus ▸ List.suffix_append u s) hs

/-- A written scene block is found as a whole, and its groups hold what was written. -/
theorem head?_ways_sceneBlock (h : c.Reads (blockChars id style label body) e) (hid : IsSafe id)
    (hstyle : IsStyle style) (hlabel : IsLabel label) (hbody : ¬ "</Scene>".toList <:+: body) :
    ∃ ms, (sceneBlock.ways c).head? = some ⟨e, ms⟩ ∧
      ∀ start stop, (Match.mk start stop ms).group? 1 = some id ∧
        (Match.mk start stop ms).group? 3 = some style ∧
        (Match.mk start stop ms).group? 4 = some label ∧
        (Match.mk start stop ms).group? 5 = some body := by
  -- the tag begins, four attributes follow, then the end of the tag, the body and the closing tag
  obtain ⟨c₁, h₁, h⟩ := h.split
  obtain ⟨c₂, h₂, h⟩ := h.split
  obtain ⟨c₃, h₃, h⟩ := h.split
  obtain ⟨c₄, h₄, h⟩ := h.split
  obtain ⟨c₅, h₅, h⟩ := h.split
  obtain ⟨c₆, h₆, h⟩ := h.split
  obtain ⟨c₇, h₇, h⟩ := h.split
  obtain ⟨c₈, h₈, h₉⟩ := h.split
  -- the tag from each attribute on
  have hc₅ : c₅.rest = "\n    ".toList ++ '>' :: c₇.rest := by rw [h₆.rest, h₇.rest]; rfl
  have hc₄ : c₄.rest = tagEnd label ++ '>' :: c₇.rest := by
    rw [h₅.rest, hc₅, tagEnd, List.append_assoc]
  have hc₃ : c₃.rest = styleAndEnd style label ++ '>' :: c₇.rest := by
    rw [h₄.rest, hc₄, styleAndEnd, List.append_assoc]
  have hc₂ : c₂.rest = (attributeChars "commentId" id ++ styleAndEnd style label) ++
      '>' :: c₇.rest := by
    rw [h₃.rest, hc₃, List.append_assoc]
  -- one attribute after the other: its name does not stand in what is left of the tag
  have hsafe {name : String} {x : Char} {v : List Char} (hname : x ∉ name.toList) (hx : x ≠ '=') :
      Clear (name ++ "=\x27").toList id (x :: v) :=
    clear_opening_of_not_mem hid.equals hname hx
  have hstyleIn {name : String} {v : List Char} (hname : '\x7d' ∉ name.toList) :
      Clear (name ++ "=\x27").toList style ('\x7d' :: v) :=
    clear_opening_of_not_mem hstyle.equals hname (by decide)
  obtain ⟨i, i', hi, heq₁⟩ := ways_seq_quotedAttribute "id" 1 (x := 'i')
    (t := ['d']) (by decide) (by decide) (by decide) (by decide) (by decide) h₂ hc₂
    hid.ne_nil hid.quote (hsafe (by decide) (by decide))
    (clear_append.2 ⟨clear_attributeChars (hsafe (by decide) (by decide)) (by decide) (by decide)
      (by decide), clear_append.2 ⟨clear_styleChars (hstyleIn (by decide)) (by decide) (by decide)
      (by decide), clear_tagEnd (hlabel.clear_opening (by simp)) (by decide) (by decide)
      (by decide) (by decide)⟩⟩)
  obtain ⟨j, j', hj, heq₂⟩ := ways_seq_quotedAttribute "commentId" 2 (x := 'c')
    (t := "ommentId".toList) (by decide) (by decide) (by decide) (by decide) (by decide)
    h₃ hc₃ hid.ne_nil hid.quote (hsafe (by decide) (by decide))
    (clear_append.2 ⟨clear_styleChars (hstyleIn (by decide)) (by decide) (by decide) (by decide),
      clear_tagEnd (hlabel.clear_opening (by simp)) (by decide) (by decide) (by decide)
      (by decide)⟩)
  obtain ⟨k, k', hk, heq₃⟩ := ways_seq_style (n := 3) h₄ hc₄ hstyle
    (clear_tagEnd hlabel.clear_style (by decide) (by decide) (by decide) (by decide))
  obtain ⟨l, l', hl, heq₄⟩ := ways_seq_quotedAttribute "data-label" 4 (x := 'd')
    (t := "ata-label".toList) (by decide) (by decide) (by decide) (by decide)
    (by decide) h₅ hc₅ hlabel.ne_nil hlabel.quote (hlabel.clear_opening (by simp))
    (clear_of_apart (by decide))
  -- the body ends at the first closing tag
  have hfew := head?_ways_body h₈ h₉ hbody
  simp only [sceneBlock, all]
  rw [ways_seq_text h₁, heq₁, heq₂, heq₃, heq₄, ways_seq_tagClose h₆ (by decide) h₇, ways_seq_group]
  simp only [List.head?_map, hfew, Option.map_some]
  refine ⟨_, rfl, fun start stop => ?_⟩
  simp [Match.group?, Way.remember, hi.upTo, hk.upTo, hl.upTo, h₈.upTo]

end

end SceneBoard.Storyboard
