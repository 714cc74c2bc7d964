import SceneBoard.Proofs.WhiteSpace
import SceneBoard.Source.Parameters

/-!
# Groups in parentheses

A text is balanced if its parentheses are closed in order and its quoted literals end, where what
stands in a literal does not count (`IsBalanced`). A group whose inner text is balanced is found as a
whole (`group?_of_isBalanced`). In front of it there may be a generic clause, and in front of that the
beginning of a function expression (`IsFunctionHead`).
-/

namespace SceneBoard.Parameters

open Text

/-! ## Balanced texts -/

/-- What can stand between quotation marks. A backslash takes the character behind it along, so the
mark of the literal stands behind a backslash only. -/
inductive IsQuotable (quote : Char) : List Char → Prop where
  | nil : IsQuotable quote []
  | escaped (c : Char) {cs : List Char} : IsQuotable quote cs → IsQuotable quote ('\\' :: c :: cs)
  | char {c : Char} {cs : List Char} : c ≠ '\\' → c ≠ quote → IsQuotable quote cs →
      IsQuotable quote (c :: cs)

/-- A text in which every parenthesis has its partner and every literal its end. -/
inductive IsBalanced : List Char → Prop where
  | nil : IsBalanced []
  | char {c : Char} {cs : List Char} : isQuote c = false → c ≠ '(' → c ≠ ')' → IsBalanced cs →
      IsBalanced (c :: cs)
  | literal {quote : Char} {inner cs : List Char} : isQuote quote → IsQuotable quote inner →
      IsBalanced cs → IsBalanced (quote :: (inner ++ quote :: cs))
  | group {inner cs : List Char} : IsBalanced inner → IsBalanced cs →
      IsBalanced ('(' :: (inner ++ ')' :: cs))

section

variable {quote : Char} {text more rest : List Char} {depth : Nat}

/-- Balanced texts one after the other are balanced. -/
theorem IsBalanced.append (h : IsBalanced text) (hmore : IsBalanced more) :
    IsBalanced (text ++ more) := by
  -- one case for each way to go on, with the text behind it
  induction h with
  | nil => exact hmore
  | char hquote hopen hclose _ ih => exact .char hquote hopen hclose ih
  | @literal quote inner cs hquote hinner _ ih =>
    have hliteral := IsBalanced.literal hquote hinner ih
    simpa using hliteral
  | @group inner cs hinner _ _ ih =>
    have hgroup := IsBalanced.group hinner ih
    simpa using hgroup

/-- A text without parentheses and quotation marks is balanced. -/
theorem isBalanced_of_plain (h : text.all fun c => !(isQuote c || c == '(' || c == ')')) :
    IsBalanced text := by
  induction text with
  | nil => exact .nil
  | cons c cs ih =>
    rw [List.all_cons, Bool.and_eq_true] at h
    -- neither a quote nor a parenthesis
    obtain ⟨⟨hquote, hopen⟩, hclose⟩ : (isQuote c = false ∧ c ≠ '(') ∧ c ≠ ')' := by
      simpa using h.1
    exact .char hquote hopen hclose (ih h.2)

private theorem ne_backslash_of_isQuote (h : isQuote quote) : quote ≠ '\\' := by
  rintro rfl
  exact absurd h (by decide)

/-- A literal leaves the depth as it is. -/
private theorem untilClosed_of_isQuotable (hquote : isQuote quote) (h : IsQuotable quote text) :
    untilClosed (.inside quote) depth (text ++ quote :: rest) =
      (untilClosed .outside depth rest).map ((text ++ [quote]) ++ ·) := by
  induction h with
  | nil =>
    -- the quote ends the literal
    rw [List.nil_append, untilClosed, if_neg (ne_backslash_of_isQuote hquote), if_pos rfl]
    rfl
  | escaped c _ ih =>
    -- what is escaped is taken, a quote too
    rw [List.cons_append, List.cons_append, untilClosed, if_pos rfl, untilClosed, ih,
      Option.map_map, Option.map_map]
    rfl
  | char hslash hc _ ih =>
    rw [List.cons_append, untilClosed, if_neg hslash, if_neg hc, ih, Option.map_map]
    rfl

/-- A balanced text leaves the depth as it is, so the scan goes on behind it. -/
theorem untilClosed_of_isBalanced (h : IsBalanced text) (hdepth : 0 < depth) :
    untilClosed .outside depth (text ++ rest) =
      (untilClosed .outside depth rest).map (text ++ ·) := by
  induction h generalizing depth rest with
  | nil =>
    simp
  | char hquote hopen hclose _ ih =>
    -- neither a quote nor a parenthesis changes what is open
    rw [List.cons_append, untilClosed, if_neg (by simp [hquote]), if_neg hopen, if_neg hclose,
      ih hdepth, Option.map_map]
    rfl
  | @literal quote inner cs hquote hinner _ ih =>
    rw [List.cons_append, List.append_assoc, List.cons_append, untilClosed, if_pos hquote,
      untilClosed_of_isQuotable hquote hinner, ih hdepth, Option.map_map, Option.map_map]
    congr 1
    funext more
    simp
  | @group inner cs _ _ ihinner ih =>
    -- inside, one more parenthesis is open, so the one behind does not end the scan
    have hclose : untilClosed .outside (depth + 1) (')' :: (cs ++ rest)) =
        (untilClosed .outside depth (cs ++ rest)).map (')' :: ·) := by
      rw [untilClosed, if_neg (by decide), if_neg (by decide), if_pos rfl, if_neg (by omega),
        Nat.add_sub_cancel]
    rw [List.cons_append, List.append_assoc, List.cons_append, untilClosed, if_neg (by decide),
      if_pos rfl, ihinner (by omega), hclose, ih hdepth, Option.map_map, Option.map_map,
      Option.map_map]
    congr 1
    funext more
    simp

/-- The group that a balanced text makes is found as it is. -/
theorem group?_of_isBalanced (h : IsBalanced text) :
    group? ('(' :: (text ++ ')' :: rest)) = some text := by
  have hclose : untilClosed .outside 1 (')' :: rest) = some [] := by
    rw [untilClosed, if_neg (by decide), if_neg (by decide), if_pos rfl, if_pos (Nat.le_refl 1)]
  show untilClosed .outside 1 (text ++ ')' :: rest) = some text
  rw [untilClosed_of_isBalanced h (by decide), hclose, Option.map_some, List.append_nil]

end

/-! ## In front of a group -/

section

variable {clause rest : List Char}

/-- A generic clause ends at the first closing bracket, and the group must stand right behind it. -/
theorem group?_clause (h : '>' ∉ clause) : group? ('<' :: (clause ++ '>' :: rest)) =
    if (trimLeft rest).head? = some '(' then group? (trimLeft rest) else none := by
  -- the clause has no closing bracket, so the first one is the one behind it
  have hdrop : (clause ++ '>' :: rest).dropWhile (· != '>') = '>' :: rest := by
    rw [List.dropWhile_append_of_pos fun c hc => by
      rw [bne_iff_ne]
      -- what is read behind the clause is a group only if a parenthesis begins it
      exact fun heq => h (heq ▸ hc)]
    rfl
  have hskip : skipGenerics? ('<' :: (clause ++ '>' :: rest)) = some (trimLeft rest) := by
    rw [skipGenerics?, hdrop]
  rw [group?, hskip]
  cases trimLeft rest with
  | nil => rfl
  | cons c cs =>
    by_cases hc : c = '('
    · rw [hc, List.head?_cons, if_pos rfl]
      rfl
    · rw [List.head?_cons, if_neg fun heq => hc (Option.some.inj heq)]
      split
      · rename_i heq
        exact absurd (List.cons.inj (Option.some.inj heq)).1 hc
      · rfl

end

/-! ## Function expressions -/

/-- The word `async` with white space behind it, or nothing. -/
inductive IsAsync : List Char → Prop where
  | absent : IsAsync []
  | present {blanks : List Char} (hblanks : ∀ c ∈ blanks, isBlank c) :
      IsAsync ("async".toList ++ blanks)

/-- The function keyword with a star and a name where they stand, or nothing. -/
inductive IsKeyword : List Char → Prop where
  | absent : IsKeyword []
  | present {stars name blanks : List Char} (hstars : ∀ c ∈ stars, isBlank c ∨ c = '*')
      (hname : ∀ c ∈ name, isNameChar c) (hblanks : ∀ c ∈ blanks, isBlank c) :
      IsKeyword ("function".toList ++ (stars ++ (name ++ blanks)))

/-- What stands before the parameters of a function expression. Of an arrow function it is nothing but
an `async`. -/
def IsFunctionHead (head : List Char) : Prop :=
  ∃ before keyword, IsAsync before ∧ IsKeyword keyword ∧ head = before ++ keyword

section

variable {head before keyword blanks text cs : List Char} {word : String} {c : Char}

/-- Behind a word stands what follows it. -/
private theorem after?_append (word : String) (cs : List Char) :
    after? word (word.toList ++ cs) = some cs := by
  have hprefix : word.toList.isPrefixOf (word.toList ++ cs) :=
    List.isPrefixOf_iff_prefix.2 (List.prefix_append _ _)
  rw [after?, if_pos hprefix, ← String.length_toList, List.drop_left]

/-- A text that begins otherwise does not begin with the word. -/
private theorem after?_eq_none (hword : word.toList.head? = some c) (h : cs.head? ≠ some c) :
    after? word cs = none := by
  rw [after?, if_neg]
  intro hprefix
  obtain ⟨more, rfl⟩ := List.isPrefixOf_iff_prefix.1 hprefix
  obtain ⟨rest, hrest⟩ := List.head?_eq_some_iff.1 hword
  exact h (by rw [hrest]; rfl)

/-- A character of a name is neither white space nor a star. -/
private theorem not_of_isNameChar (h : isNameChar c) : isBlank c = false ∧ c ≠ '*' := by
  refine ⟨?_, ?_⟩
  · rw [Bool.eq_false_iff]
    -- an underscore or a dollar sign is not blank either
    intro hblank
    have hother : c ≠ '_' ∧ c ≠ '$' := by
      constructor <;> (rintro rfl; exact absurd hblank (by decide))
    simp [isNameChar, isAlphanumeric_eq_false_of_isBlank hblank, hother] at h
  · rintro rfl
    exact absurd h (by decide)

/-- A group begins with a parenthesis or an angle bracket. -/
theorem exists_head?_of_beginsGroup (h : beginsGroup text) :
    ∃ c, text.head? = some c ∧ (c = '(' ∨ c = '<') := by
  cases text with
  | nil => simp [beginsGroup] at h
  | cons c cs => exact ⟨c, rfl, by simpa [beginsGroup] using h⟩

/-- With or without the keyword the text begins with one of three characters. -/
private theorem exists_head?_of_isKeyword (h : IsKeyword keyword) (htext : beginsGroup text) :
    ∃ c, (keyword ++ text).head? = some c ∧ (c = 'f' ∨ c = '(' ∨ c = '<') := by
  cases h with
  | absent =>
    obtain ⟨c, hc, hcases⟩ := exists_head?_of_beginsGroup htext
    exact ⟨c, hc, .inr hcases⟩
  | present => exact ⟨'f', rfl, .inl rfl⟩

/-- A function expression begins with one of few characters. -/
private theorem exists_head?_of_isFunctionHead (h : IsFunctionHead head) (htext : beginsGroup text) :
    ∃ c, (head ++ text).head? = some c ∧ (c = 'a' ∨ c = 'f' ∨ c = '(' ∨ c = '<') := by
  obtain ⟨before, keyword, hbefore, hkeyword, rfl⟩ := h
  cases hbefore with
  | absent =>
    obtain ⟨c, hc, hcases⟩ := exists_head?_of_isKeyword hkeyword htext
    exact ⟨c, hc, .inr hcases⟩
  | present => exact ⟨'a', rfl, .inl rfl⟩

/-- A group begins neither with what stands around the name of a function nor with a character of
it. -/
private theorem of_mem_head?_of_beginsGroup (htext : beginsGroup text) :
    ∀ x ∈ text.head?, isBlank x = false ∧ x ≠ '*' ∧ isNameChar x = false := by
  obtain ⟨c, hc, hcases⟩ := exists_head?_of_beginsGroup htext
  intro x hx
  obtain rfl : c = x := Option.some.inj (hc.symm.trans hx)
  rcases hcases with rfl | rfl <;> decide

/-- Behind the keyword, what stands around the name is dropped and then the name. -/
private theorem trimLeft_dropWhile_name {stars name : List Char}
    (hstars : ∀ c ∈ stars, isBlank c ∨ c = '*') (hname : ∀ c ∈ name, isNameChar c)
    (hblanks : ∀ c ∈ blanks, isBlank c) (htext : beginsGroup text) :
    trimLeft (((stars ++ (name ++ (blanks ++ text))).dropWhile fun c =>
      isBlank c || c == '*').dropWhile isNameChar) = text := by
  have hgroup := of_mem_head?_of_beginsGroup htext
  have hblank : ∀ x ∈ text.head?, isBlank x = false := fun x hx => (hgroup x hx).1
  have hchar : ∀ x ∈ text.head?, isNameChar x = false := fun x hx => (hgroup x hx).2.2
  rw [List.dropWhile_append_of_pos fun c hc => by simpa using hstars c hc]
  cases name with
  | nil =>
    -- without a name the white space behind it goes with that in front of it
    have hdrop : (blanks ++ text).dropWhile (fun c => isBlank c || c == '*') = text :=
      dropWhile_append_of_head? (fun c hc => by simp [hblanks c hc])
        fun x hx => by simp [hgroup x hx]
    have hname : ([] ++ text).dropWhile isNameChar = text :=
      dropWhile_append_of_head? (by simp) hchar
    have htrim : trimLeft ([] ++ text) = text := trimLeft_append (by simp) hblank
    rw [List.nil_append] at hname htrim
    rw [List.nil_append, hdrop, hname, htrim]
  | cons c name =>
    have hc := not_of_isNameChar (hname c (by simp))
    -- the name ends before white space or a group
    have hend : ∀ x ∈ (blanks ++ text).head?, isNameChar x = false := by
      cases blanks with
      | nil => exact hchar
      | cons b blanks =>
        rintro x hx
        obtain rfl : b = x := by simpa using hx
        rw [Bool.eq_false_iff]
        intro hb
        simp [(not_of_isNameChar hb).1] at hblanks
    rw [List.cons_append, List.dropWhile_cons_of_neg (by simp [hc]), ← List.cons_append,
      dropWhile_append_of_head? hname hend, trimLeft_append hblanks hblank]

/-- The keyword of a function, its star and its name are skipped. -/
private theorem skipFunctionHead_keyword (h : IsKeyword keyword) (htext : beginsGroup text) :
    skipFunctionHead (keyword ++ text) = text := by
  obtain ⟨c, hc, hcases⟩ := exists_head?_of_isKeyword h htext
  have hasync : after? "async" (keyword ++ text) = none :=
    after?_eq_none (c := 'a') (by decide) (by rcases hcases with rfl | rfl | rfl <;> simp [hc])
  cases h with
  -- without the keyword nothing is skipped
  | absent =>
    -- the text begins with its group, so not with the keyword
    obtain ⟨d, hd, hdcases⟩ := exists_head?_of_beginsGroup htext
    have hfunction : after? "function" text = none :=
      after?_eq_none (c := 'f') (by decide) (by rcases hdcases with rfl | rfl <;> simp [hd])
    rw [List.nil_append] at hasync ⊢
    simp only [skipFunctionHead, hasync, hfunction]
  | @present stars name blanks hstars hname hblanks =>
    have hfunction : after? "function" ("function".toList ++ (stars ++ (name ++ blanks)) ++ text) =
        some (stars ++ (name ++ (blanks ++ text))) := by
      rw [List.append_assoc, after?_append]
      simp
    simp only [skipFunctionHead, hasync, hfunction,
      trimLeft_dropWhile_name hstars hname hblanks htext]

/-- The head of a function is skipped. -/
theorem skipFunctionHead_append (h : IsFunctionHead head) (htext : beginsGroup text) :
    skipFunctionHead (head ++ text) = text := by
  obtain ⟨before, keyword, hbefore, hkeyword, rfl⟩ := h
  rw [List.append_assoc]
  cases hbefore with
  | absent => exact skipFunctionHead_keyword hkeyword htext
  -- behind the word for asynchronous functions the white space is skipped as well
  | @present blanks hblanks =>
    obtain ⟨c, hc, hcases⟩ := exists_head?_of_isKeyword hkeyword htext
    have hasync : after? "async" (keyword ++ text) = none :=
      after?_eq_none (c := 'a') (by decide) (by rcases hcases with rfl | rfl | rfl <;> simp [hc])
    have hblank : ∀ x ∈ (keyword ++ text).head?, isBlank x = false := by
      rcases hcases with rfl | rfl | rfl <;> simp [hc, isBlank]
    have hskip : skipFunctionHead ("async".toList ++ blanks ++ (keyword ++ text)) =
        skipFunctionHead (keyword ++ text) := by
      simp only [skipFunctionHead, List.append_assoc, after?_append, trimLeft_append hblanks hblank,
        hasync]
    rw [hskip, skipFunctionHead_keyword hkeyword htext]

/-- What makes an equals sign part of another sign does not stand before a function. -/
theorem head?_initializer_ne {d : Char} (hblanks : ∀ c ∈ blanks, isBlank c) (h : IsFunctionHead head)
    (htext : beginsGroup text) (hd : d = '>' ∨ d = '=') :
    (blanks ++ (head ++ text)).head? ≠ some d := by
  obtain ⟨c, hc, hcases⟩ := exists_head?_of_isFunctionHead h htext
  refine head?_append_ne hblanks (by rcases hd with rfl | rfl <;> decide) ?_
  rw [hc, Ne, Option.some_inj]
  rcases hd with rfl | rfl <;> rcases hcases with rfl | rfl | rfl | rfl <;> decide

/-- The parameters in an initializer are those of the group behind the head of the function. -/
theorem ofInitializer_eq (hblanks : ∀ c ∈ blanks, isBlank c) (h : IsFunctionHead head)
    (htext : beginsGroup text) :
    ofInitializer ('=' :: (blanks ++ (head ++ text))) = (group? text).getD [] := by
  obtain ⟨c, hc, hcases⟩ := exists_head?_of_isFunctionHead h htext
  have hblank : ∀ x ∈ (head ++ text).head?, isBlank x = false := by
    rcases hcases with rfl | rfl | rfl | rfl <;> simp [hc, isBlank]
  -- neither an arrow nor a comparison begins here
  have hfirst (d : Char) (hd : d = '>' ∨ d = '=') (more : List Char) :
      blanks ++ (head ++ text) ≠ d :: more := fun heq =>
    head?_initializer_ne hblanks h htext hd (by rw [heq]; rfl)
  rw [ofInitializer.eq_3 _ (hfirst '>' (.inl rfl)) (hfirst '=' (.inr rfl)),
    trimLeft_append hblanks hblank, skipFunctionHead_append h htext, ofFunction, if_pos htext]

end

end SceneBoard.Parameters
