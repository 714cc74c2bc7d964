import SceneBoard.Proofs.TypeAnnotations
import SceneBoard.Source.Declaration

/-!
# Generic clauses

A generic clause may stand before the parameters of a function, and clauses may be nested in it
(`IsAngled`). It is taken to end at the first closing bracket. So a clause without clauses in it does
not matter for the parameters, and behind any other one they are not found: what is looked at is the
rest of the clause (`restOfClause`).

## Key results

- `following_append`: the parameters of a declaration are those of the group behind its head
- `following_generic`: the parameters behind a generic clause
- `not_following_generic`: a nested clause hides the parameters
-/

namespace SceneBoard.Parameters

open Text

/-! ## Declarations -/

/-- A type annotation without arrows, or nothing. -/
inductive IsTyping : List Char → Prop where
  | absent : IsTyping []
  | present {text : List Char} (htext : IsTypeText text) (harrow : ¬ HasArrow text) :
      IsTyping (':' :: text)

/-- What stands between the name of a declared function and its parameters: white space if the
declaration is that of a function, or an initializer up to the parameters. -/
inductive IsHead : List Char → Prop where
  | declaration {blanks : List Char} (hblanks : ∀ c ∈ blanks, isBlank c) : IsHead blanks
  | initializer {blanks typing blanks' head : List Char} (hblanks : ∀ c ∈ blanks, isBlank c)
      (htyping : IsTyping typing) (hblanks' : ∀ c ∈ blanks', isBlank c)
      (hhead : IsFunctionHead head) : IsHead (blanks ++ (typing ++ '=' :: (blanks' ++ head)))

section

variable {head text : List Char}

/-- The parameters of a declaration are those of the group behind its head. -/
theorem following_append (h : IsHead head) (htext : beginsGroup text) :
    following (head ++ text) = (group? text).getD [] := by
  obtain ⟨c, hc, hcases⟩ := exists_head?_of_beginsGroup htext
  -- a declaration begins with its group, an initializer behind the equals sign
  cases h with
  | declaration hblanks =>
    have htrim : trimLeft (head ++ text) = text :=
      trimLeft_append hblanks (by rcases hcases with rfl | rfl <;> simp [hc, isBlank])
    simp only [following, htrim, if_pos htext]
  | @initializer blanks typing blanks' head hblanks htyping hblanks' hhead =>
    have hfound := ofInitializer_eq hblanks' hhead htext
    cases htyping with
    | absent =>
      have htrim : trimLeft (blanks ++ '=' :: (blanks' ++ (head ++ text))) =
          '=' :: (blanks' ++ (head ++ text)) := trimLeft_append hblanks (by simp [isBlank])
      have hgroup : ¬ beginsGroup ('=' :: (blanks' ++ (head ++ text))) := by simp [beginsGroup]
      simp only [List.nil_append, List.append_assoc, List.cons_append, following, htrim,
        if_neg hgroup]
      exact hfound
    | @present typed htyped harrow =>
      have hfirst := head?_initializer_ne hblanks' hhead htext (.inl rfl)
      simp only [List.append_assoc, List.cons_append]
      rw [following_typed htyped harrow hblanks hfirst]
      exact hfound

end

/-! ## Clauses -/

/-- The angle brackets of a text close the open ones and their own. -/
def closesAngles : Nat → List Char → Bool
  | depth, [] => depth == 0
  | depth, c :: cs =>
    if c = '<' then closesAngles (depth + 1) cs
    else if c = '>' then 0 < depth && closesAngles (depth - 1) cs
    else closesAngles depth cs

/-- A text that can stand between the brackets of a generic clause. -/
def IsAngled (clause : List Char) : Prop :=
  closesAngles 0 clause

instance (clause : List Char) : Decidable (IsAngled clause) :=
  inferInstanceAs (Decidable (_ = true))

/-- The rest of a clause behind the first bracket that is closed in it. -/
def restOfClause (clause : List Char) : List Char :=
  trimLeft ((clause.dropWhile (· != '>')).drop 1)

section

variable {head clause blanks text : List Char}

/-- A clause closes what it opens, and what was open before. -/
private theorem count_of_closesAngles {depth : Nat} (h : closesAngles depth clause) :
    clause.count '>' = clause.count '<' + depth := by
  -- by induction on the clause
  induction clause generalizing depth with
  | nil =>
    obtain rfl : depth = 0 := by simpa [closesAngles] using h
    rfl
  | cons c cs ih =>
    rw [closesAngles] at h
    split at h
    · rename_i hopen
      rw [hopen, List.count_cons_self, List.count_cons_of_ne (by decide), ih h]
      omega
    split at h
    · rename_i hclose
      rw [Bool.and_eq_true, decide_eq_true_eq] at h
      rw [hclose, List.count_cons_self, List.count_cons_of_ne (by decide), ih h.2]
      omega
    · rename_i hopen hclose
      rw [List.count_cons_of_ne hclose, List.count_cons_of_ne hopen, ih h]

/-- A clause has a closing bracket in it if there is a clause in it. -/
theorem IsAngled.mem_iff (h : IsAngled clause) : '>' ∈ clause ↔ '<' ∈ clause := by
  rw [← List.count_pos_iff, ← List.count_pos_iff, count_of_closesAngles h, Nat.add_zero]

/-- Where no clauses are nested, a clause and the white space behind it do not matter. -/
theorem group?_flat (h : '>' ∉ clause) (hblanks : ∀ c ∈ blanks, isBlank c)
    (htext : text.head? = some '(') :
    group? ('<' :: (clause ++ '>' :: (blanks ++ text))) = group? text := by
  have htrim : trimLeft (blanks ++ text) = text :=
    trimLeft_append hblanks (by simp [htext, isBlank])
  rw [group?_clause h, htrim, if_pos htext]

/-- Where clauses are nested, the group is looked for behind the first closing bracket. -/
theorem group?_nested (h : '>' ∈ clause) (cs : List Char) :
    group? ('<' :: (clause ++ '>' :: cs)) =
      if (restOfClause clause).head? = some '(' then group? (restOfClause clause ++ '>' :: cs)
      else none := by
  -- the clause is cut at its first closing sign
  obtain ⟨first, rest, rfl, hfirst⟩ := List.eq_append_cons_of_mem h
  have hrest : restOfClause (first ++ '>' :: rest) = trimLeft rest := by
    rw [restOfClause, dropWhile_append_of_head? (fun c hc => ?_) (by simp)]
    · rfl
    · rw [bne_iff_ne]
      exact fun heq => hfirst (heq ▸ hc)
  have hopen : (trimLeft rest ++ '>' :: cs).head? = some '(' ↔
      (trimLeft rest).head? = some '(' := by
    cases trimLeft rest <;> simp
  rw [List.append_assoc, List.cons_append, group?_clause hfirst,
    trimLeft_append_cons (by decide), hrest]
  simp only [hopen]

end

/-- A generic clause without clauses in it does not matter: the group behind it is found, and the
declaration has the parameters that it has without the clause, so that it takes a style from outside
or not as it does without. Of a clause with clauses in it the rest behind the first closing bracket is
looked at, and if that is no group, the declaration has no parameters and takes no style. -/
theorem following_generic {head clause blanks text : List Char} (hhead : IsHead head)
    (hclause : IsAngled clause) (hblanks : ∀ c ∈ blanks, isBlank c) (htext : text.head? = some '(') :
    let generic := '<' :: (clause ++ '>' :: (blanks ++ text))
    ('<' ∉ clause → group? generic = group? text ∧
      following (head ++ generic) = following (head ++ text) ∧
      Source.acceptsStyle (String.ofList (following (head ++ generic))) =
        Source.acceptsStyle (String.ofList (following (head ++ text)))) ∧
    ('<' ∈ clause → (restOfClause clause).head? ≠ some '(' → group? generic = none ∧
      following (head ++ generic) = [] ∧
      Source.acceptsStyle (String.ofList (following (head ++ generic))) = false) ∧
    ('<' ∈ clause → (restOfClause clause).head? = some '(' →
      group? generic = group? (restOfClause clause ++ '>' :: (blanks ++ text))) := by
  intro generic
  have hgeneric : following (head ++ generic) = (group? generic).getD [] := following_append hhead rfl
  have hplain : following (head ++ text) = (group? text).getD [] := by
    refine following_append hhead ?_
    obtain ⟨more, rfl⟩ := List.head?_eq_some_iff.1 htext
    rfl
  refine ⟨fun hflat => ?_, fun hnested hrest => ?_, fun hnested hrest => ?_⟩
  · -- the clause is passed over as a whole
    have hgroup : group? generic = group? text :=
      group?_flat (mt hclause.mem_iff.1 hflat) hblanks htext
    have hsame : following (head ++ generic) = following (head ++ text) := by
      rw [hgeneric, hplain, hgroup]
    exact ⟨hgroup, hsame, by rw [hsame]⟩
  · -- the first closing sign ends it too early, and no parenthesis stands behind that one
    have hgroup : group? generic = none := by
      rw [group?_nested (hclause.mem_iff.2 hnested), if_neg hrest]
    have hnone : following (head ++ generic) = [] := by
      rw [hgeneric, hgroup]
      rfl
    refine ⟨hgroup, hnone, ?_⟩
    rw [hnone]
    decide
  · -- behind the first closing sign a parenthesis stands, which is taken for the group
    rw [group?_nested (hclause.mem_iff.2 hnested), if_pos hrest]

/-- A table is read with the parameters behind its clause if that is flat, and without parameters if
a record is nested in it; the head is that of an asynchronous function with an annotation. -/
theorem following_generic_table :
    let head := ": FC<Props> = async function Rows".toList
    let nested := "T extends Record<string, U>".toList
    let text := "(\x7b style \x7d) \x7b \x7d".toList
    following (head ++ '<' :: ("T, U".toList ++ '>' :: ([' '] ++ text))) = "\x7b style \x7d".toList ∧
      following (head ++ '<' :: (nested ++ '>' :: ([] ++ text))) = [] := by
  intro head nested text
  have hkeyword : IsKeyword "function Rows".toList :=
    @IsKeyword.present [' '] "Rows".toList [] (List.forall_mem_singleton.2 (by decide))
      (List.all_eq_true.1 (by decide)) (by simp)
  have hblank : ∀ c ∈ [' '], isBlank c := List.forall_mem_singleton.2 (by decide)
  have hfunction : IsFunctionHead "async function Rows".toList :=
    ⟨"async ".toList, _, .present hblank, hkeyword, rfl⟩
  have htyping : IsTyping ": FC<Props> ".toList :=
    @IsTyping.present " FC<Props> ".toList (by decide) (by decide)
  have hhead : IsHead head :=
    @IsHead.initializer [] _ [' '] _ (by simp) htyping hblank hfunction
  -- the flat clause of the table, and the nested one
  have htable := (@following_generic head "T, U".toList [' '] text hhead (by decide) hblank
    rfl).1 (by decide)
  have hrecord := (@following_generic head nested [] text hhead (by decide) (by simp) rfl).2.1
    (by decide) (by decide)
  refine ⟨?_, hrecord.2.1⟩
  rw [htable.2.1]
  decide

/-- A clause with a clause in it hides the parameters: the group is looked for behind the first
closing bracket. -/
theorem not_following_generic :
    (¬ ∀ clause blanks text : List Char, IsAngled clause → (∀ c ∈ blanks, isBlank c) →
      text.head? = some '(' →
      group? ('<' :: (clause ++ '>' :: (blanks ++ text))) = group? text) ∧
    ¬ ∀ head clause blanks text : List Char, IsHead head → IsAngled clause →
      (∀ c ∈ blanks, isBlank c) → text.head? = some '(' →
      following (head ++ '<' :: (clause ++ '>' :: (blanks ++ text))) = following (head ++ text) := by
  let clause := "T extends Record<string, U>".toList
  let text := "(\x7b style \x7d) \x7b \x7d".toList
  have hclause : IsAngled clause := by decide
  refine ⟨fun h => ?_, fun h => ?_⟩
  · exact absurd (h clause [] text hclause (by simp) rfl) (by decide)
  · have hhead : IsHead [] := .declaration (by simp)
    exact absurd (h [] clause [] text hhead hclause (by simp) rfl) (by decide)

end SceneBoard.Parameters
