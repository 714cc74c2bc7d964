import SceneBoard.Proofs.Groups

/-!
# Type annotations

A type is written with brackets of four kinds, with arrows and with other characters, where an arrow is
one token and no closing bracket (`typeTokens`). In an annotation the brackets are closed in order, and
outside of brackets there is nothing that would end it (`IsTypeText`). A scan for the initializer
counts open brackets, whatever their kind, and takes the second half of an arrow for a closing one: so
it finds the initializer behind an annotation exactly if there is no arrow in it.

## Key results

- `bracketCount_of_closesAll`: the count that a scan has behind an annotation
- `annotation_skipped_iff`: which annotations are skipped, and the parameters behind them
- `not_annotation_skipped`: the annotation of a function is not skipped
-/

namespace SceneBoard.Parameters

open Text

/-! ## Types -/

/-- The kinds of brackets. -/
inductive Bracket where
  | angle | round | square | curly
  deriving DecidableEq

/-- What a type is written with. -/
inductive TypeToken where
  | arrow
  | opening (b : Bracket)
  | closing (b : Bracket)
  | other (c : Char)
  deriving DecidableEq

/-- The token that a character is by itself. -/
def TypeToken.ofChar : Char → TypeToken
  | '<' => .opening .angle
  | '(' => .opening .round
  | '[' => .opening .square
  | '\x7b' => .opening .curly
  | '>' => .closing .angle
  | ')' => .closing .round
  | ']' => .closing .square
  | '\x7d' => .closing .curly
  | c => .other c

/-- The tokens of a type. An equals sign and a closing angle bracket behind it are an arrow. -/
def typeTokens : List Char → List TypeToken
  | [] => []
  | '=' :: '>' :: cs => .arrow :: typeTokens cs
  | c :: cs => .ofChar c :: typeTokens cs

/-- A character that ends an annotation outside of brackets. -/
def endsAnnotation (c : Char) : Bool :=
  c == '=' || c == ';' || c == '\n'

/-- The tokens close all brackets in order, those that are open already (the innermost one first) as
well as their own, and where no bracket is open nothing ends the annotation. -/
def closesAll : List Bracket → List TypeToken → Bool
  | opened, [] => opened.isEmpty
  | opened, .arrow :: ts => closesAll opened ts
  | opened, .opening b :: ts => closesAll (b :: opened) ts
  | [], .closing _ :: _ => false
  | b :: opened, .closing b' :: ts => b == b' && closesAll opened ts
  | opened, .other c :: ts => !(opened.isEmpty && endsAnnotation c) && closesAll opened ts

/-- A text that can stand between the colon and the equals sign of a declaration. -/
def IsTypeText (text : List Char) : Prop :=
  closesAll [] (typeTokens text)

instance (text : List Char) : Decidable (IsTypeText text) :=
  inferInstanceAs (Decidable (_ = true))

/-- There is an arrow in the type: it is, or is made of, the type of a function. -/
def HasArrow (text : List Char) : Prop :=
  .arrow ∈ typeTokens text

instance (text : List Char) : Decidable (HasArrow text) :=
  inferInstanceAs (Decidable (_ ∈ _))

/-! ## Counting brackets -/

/-- By how much a character changes the number of open brackets that a scan counts. -/
def bracketChange (c : Char) : Int :=
  match TypeToken.ofChar c with
  | .opening _ => 1
  | .closing _ => -1
  | _ => 0

/-- By how much a text changes the number of open brackets that a scan counts. -/
def bracketCount : List Char → Int
  | [] => 0
  | c :: cs => bracketChange c + bracketCount cs

section

variable {opened : List Bracket} {text before rest cs : List Char} {c : Char} {depth : Int}

private theorem ofChar_ne_arrow (c : Char) : TypeToken.ofChar c ≠ .arrow := by
  unfold TypeToken.ofChar
  split <;> simp

private theorem eq_of_ofChar_eq_other {d : Char} (h : TypeToken.ofChar c = .other d) : d = c := by
  unfold TypeToken.ofChar at h
  split at h <;> simp_all

/-- A scan follows the brackets, and otherwise looks for the end of the annotation. -/
private theorem skipType?_cons (depth : Int) (c : Char) (cs : List Char) :
    skipType? depth (c :: cs) =
      match TypeToken.ofChar c with
      | .opening _ => skipType? (depth + 1) cs
      | .closing _ => skipType? (depth - 1) cs
      | _ =>
        if c = '=' ∧ depth = 0 ∧ cs.head? ≠ some '>' then some (c :: cs)
        else if (c = ';' ∨ c = '\n') ∧ depth = 0 then none
        else skipType? depth cs := by
  generalize ht : TypeToken.ofChar c = t
  unfold TypeToken.ofChar at ht
  split at ht <;> subst ht <;> simp_all [skipType?, and_assoc]

/-- A scan counts an arrow as a closing bracket, and so it is below the number of brackets that are
open by the number of arrows. -/
theorem bracketCount_of_closesAll (h : closesAll opened (typeTokens text)) :
    opened.length + bracketCount text = -((typeTokens text).count .arrow : Int) := by
  -- by induction on the tokens: brackets change both sides by one, an arrow the last one only
  fun_induction typeTokens text generalizing opened with
  | case1 => simpa [closesAll, bracketCount] using h
  | case2 cs ih =>
    have hclosed : closesAll opened (typeTokens cs) := by simpa [closesAll] using h
    have hrest := ih hclosed
    -- the angle of an arrow is counted as closing, though it closes nothing
    have hequals : bracketChange '=' = 0 := rfl
    have hangle : bracketChange '>' = -1 := rfl
    rw [bracketCount, bracketCount, List.count_cons_self]
    omega
  | case3 c cs _ ih =>
    rw [bracketCount, bracketChange, List.count_cons_of_ne (ofChar_ne_arrow c)]
    cases hc : TypeToken.ofChar c with
    | arrow => exact absurd hc (ofChar_ne_arrow c)
    | opening b =>
      rw [hc, closesAll] at h
      have hrest := ih h
      rw [List.length_cons] at hrest
      simp only
      omega
    | closing b =>
      rw [hc] at h
      cases opened with
      | nil => simp [closesAll] at h
      | cons b' opened =>
        rw [closesAll, Bool.and_eq_true] at h
        have hrest := ih h.2
        rw [List.length_cons]
        simp only
        omega
    | other d =>
      rw [hc, closesAll, Bool.and_eq_true] at h
      have hrest := ih h.2
      simp only
      omega

/-- A scan stops where its count is zero. -/
private theorem exists_of_skipType? (h : skipType? depth cs = some rest) :
    ∃ before, cs = before ++ rest ∧ depth + bracketCount before = 0 := by
  -- by induction on the text
  induction cs generalizing depth with
  | nil => simp [skipType?] at h
  | cons c cs ih =>
    rw [skipType?_cons] at h
    -- but for the sign that ends it, the scan goes on at another depth
    have hstep (change : Int) (hchange : bracketChange c = change)
        (hrest : skipType? (depth + change) cs = some rest) :
        ∃ before, c :: cs = before ++ rest ∧ depth + bracketCount before = 0 := by
      obtain ⟨before, rfl, hcount⟩ := ih hrest
      exact ⟨c :: before, rfl, by rw [bracketCount]; omega⟩
    cases hc : TypeToken.ofChar c with
    | arrow => exact absurd hc (ofChar_ne_arrow c)
    | opening b =>
      rw [hc] at h
      exact hstep 1 (by rw [bracketChange, hc]) h
    | closing b =>
      rw [hc] at h
      exact hstep (-1) (by rw [bracketChange, hc]) h
    | other d =>
      simp only [hc] at h
      split at h
      · rename_i hend
        obtain rfl := Option.some.inj h
        exact ⟨[], rfl, by rw [bracketCount]; omega⟩
      split at h
      · simp at h
      · exact hstep 0 (by rw [bracketChange, hc]) (by rwa [Int.add_zero])

/-- Without arrows the count is the number of open brackets, so that it is zero outside of brackets
only. -/
private theorem skipType?_of_closesAll (h : closesAll opened (typeTokens text))
    (harrow : ¬ HasArrow text) (hrest : rest.head? ≠ some '>') :
    skipType? opened.length (text ++ '=' :: rest) = some ('=' :: rest) := by
  rw [HasArrow] at harrow
  -- by induction on the tokens, with the number of open brackets for the depth
  fun_induction typeTokens text generalizing opened with
  | case1 =>
    obtain rfl : opened = [] := by simpa [closesAll] using h
    rw [List.nil_append, skipType?_cons]
    exact if_pos ⟨rfl, rfl, hrest⟩
  | case2 => simp at harrow
  | case3 c cs _ ih =>
    rw [List.cons_append, skipType?_cons]
    have hmore : .arrow ∉ typeTokens cs := fun hmem => harrow (List.mem_cons_of_mem _ hmem)
    cases hc : TypeToken.ofChar c with
    | arrow => exact absurd hc (ofChar_ne_arrow c)
    | opening b =>
      rw [hc, closesAll] at h
      exact ih h hmore
    | closing b =>
      rw [hc] at h
      cases opened with
      | nil => simp [closesAll] at h
      | cons b' opened =>
        rw [closesAll, Bool.and_eq_true] at h
        have hback := ih h.2 hmore
        simpa using hback
    | other d =>
      obtain rfl := eq_of_ofChar_eq_other hc
      rw [hc, closesAll, Bool.and_eq_true] at h
      -- a character that could end the annotation stands inside brackets only
      have hinside : endsAnnotation d → (opened.length : Int) ≠ 0 := by
        intro hend hzero
        have hnil : opened = [] := by simpa using hzero
        simp [hnil, hend] at h
      have hequals : ¬ (d = '=' ∧ (opened.length : Int) = 0 ∧
          (cs ++ '=' :: rest).head? ≠ some '>') := by
        rintro ⟨rfl, hzero, -⟩
        exact hinside rfl hzero
      have hend : ¬ ((d = ';' ∨ d = '\n') ∧ (opened.length : Int) = 0) := by
        rintro ⟨rfl | rfl, hzero⟩ <;> exact hinside rfl hzero
      simp only [if_neg hequals, if_neg hend]
      exact ih h.2 hmore

end

/-! ## Skipping annotations -/

section

variable {text rest : List Char}

/-- An annotation is skipped exactly if there is no arrow in it. -/
theorem skipType?_eq_some_iff (h : IsTypeText text) (hrest : rest.head? ≠ some '>') :
    skipType? 0 (text ++ '=' :: rest) = some ('=' :: rest) ↔ ¬ HasArrow text := by
  refine ⟨fun hskip harrow => ?_, fun harrow => skipType?_of_closesAll h harrow hrest⟩
  -- if the scan ends there, the brackets before it are even, but the arrow is one too many
  obtain ⟨before, hbefore, hcount⟩ := exists_of_skipType? hskip
  obtain rfl := List.append_cancel_right hbefore
  have hopen := bracketCount_of_closesAll h
  have hpos : 0 < (typeTokens text).count .arrow := List.count_pos_iff.2 harrow
  rw [List.length_nil] at hopen
  omega

/-- The parameters behind an annotation that is skipped. -/
theorem following_typed {blanks : List Char} (h : IsTypeText text)
    (harrow : ¬ HasArrow text) (hblanks : ∀ c ∈ blanks, isBlank c)
    (hrest : rest.head? ≠ some '>') :
    following (blanks ++ ':' :: (text ++ '=' :: rest)) = ofInitializer ('=' :: rest) := by
  have htrim : trimLeft (blanks ++ ':' :: (text ++ '=' :: rest)) = ':' :: (text ++ '=' :: rest) :=
    trimLeft_append hblanks (by simp [isBlank])
  have hgroup : ¬ beginsGroup (':' :: (text ++ '=' :: rest)) := by simp [beginsGroup]
  simp only [following, htrim, if_neg hgroup, (skipType?_eq_some_iff h hrest).2 harrow]

end

/-- A scan for the initializer of a declaration skips an annotation exactly if there is no arrow in
it. So the parameters of a function whose type is written without arrows are found behind its
annotation. -/
theorem annotation_skipped_iff {text : List Char} (h : IsTypeText text) :
    (∀ rest : List Char, rest.head? ≠ some '>' →
      (skipType? 0 (text ++ '=' :: rest) = some ('=' :: rest) ↔ ¬ HasArrow text)) ∧
    (¬ HasArrow text → ∀ blanks blanks' parameters rest : List Char,
      (∀ c ∈ blanks, isBlank c) → (∀ c ∈ blanks', isBlank c) → IsBalanced parameters →
      following (blanks ++ ':' :: (text ++ '=' :: (blanks' ++ '(' :: (parameters ++ ')' :: rest)))) =
        parameters) := by
  refine ⟨fun rest hrest => skipType?_eq_some_iff h hrest, ?_⟩
  intro harrow blanks blanks' parameters rest hblanks hblanks' hparameters
  -- behind the sign a function begins with its parameters
  have hhead : IsFunctionHead [] := ⟨[], [], .absent, .absent, rfl⟩
  have hgroup : beginsGroup ('(' :: (parameters ++ ')' :: rest)) := rfl
  have hfirst := head?_initializer_ne hblanks' hhead hgroup (.inl rfl)
  have hfound := ofInitializer_eq hblanks' hhead hgroup
  rw [List.nil_append] at hfirst hfound
  rw [following_typed h harrow hblanks hfirst, hfound, group?_of_isBalanced hparameters,
    Option.getD_some]

/-- The annotation of a card is skipped up to the initializer, and a default value with a parenthesis
in it does not end the parameters. -/
theorem annotation_skipped_card :
    let text := " React.FC<[Card, \x7b size: (number) \x7d]> ".toList
    let parameters := "\x7b text = ')', size \x7d".toList
    (IsTypeText text ∧ ¬ HasArrow text) ∧
      skipType? 0 (text ++ "= (p) => null".toList) = some "= (p) => null".toList ∧
      following (':' :: (text ++ '=' :: ' ' :: '(' :: (parameters ++ ')' :: " => null".toList))) =
        parameters := by
  intro text parameters
  have htext : IsTypeText text := by decide
  have harrow : ¬ HasArrow text := by decide
  have hliteral : IsBalanced "')', size \x7d".toList :=
    .literal (by decide) (.char (by decide) (by decide) .nil) (isBalanced_of_plain (by decide))
  have hplain : IsBalanced "\x7b text = ".toList := isBalanced_of_plain (by decide)
  have hparameters : IsBalanced parameters := hplain.append hliteral
  obtain ⟨hskip, hfound⟩ := annotation_skipped_iff htext
  refine ⟨⟨htext, harrow⟩, (hskip " (p) => null".toList (by decide)).2 harrow, ?_⟩
  exact hfound harrow [] [' '] parameters " => null".toList (by simp)
    (List.forall_mem_singleton.2 (by decide)) hparameters

/-- The annotation of a function is not skipped: behind its arrow the scan counts one bracket less
than none, so it overlooks the equals sign, and the function has no parameters. -/
theorem not_annotation_skipped :
    (¬ ∀ text rest : List Char, IsTypeText text → rest.head? ≠ some '>' →
      skipType? 0 (text ++ '=' :: rest) = some ('=' :: rest)) ∧
    ¬ ∀ text parameters rest : List Char, IsTypeText text → IsBalanced parameters →
      following (':' :: (text ++ '=' :: ' ' :: '(' :: (parameters ++ ')' :: rest))) = parameters := by
  let text := " (p: Props) => JSX.Element ".toList
  have htext : IsTypeText text := by decide
  refine ⟨fun h => ?_, fun h => ?_⟩
  · exact absurd (h text " (p) => null".toList htext (by decide)) (by decide)
  · have hp : IsBalanced ['p'] := isBalanced_of_plain (by decide)
    exact absurd (h text ['p'] " => null".toList htext hp) (by decide)

end SceneBoard.Parameters
