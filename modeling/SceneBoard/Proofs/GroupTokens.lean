import Mathlib.Data.Nat.PSub
import SceneBoard.Proofs.Groups

/-!
# Groups and their tokens

A text consists of tokens: quoted literals, parentheses and other characters (`Token`). A group is a
text of complete tokens that ends where, for the first time, as many parentheses are closed as were
opened (`IsGroup`). That is what the scan of a parameter list finds, though it knows no tokens but
reads character by character. That a text is cut into tokens in one way only is not needed: the scan
goes along with any tokens (`untilClosed_of_tokens`).

## Key results

- `untilClosed_of_tokens`: tokens that close the open parentheses end the scan
- `endsBefore_of_untilClosed`: what a scan finds consists of complete tokens
- `countedScan_eq`: a counter of open parentheses is never lowered at zero
- `findsGroup_of_parenthesis`: the groups that are found are exactly those that are there
-/

namespace SceneBoard.Parameters

/-! ## Tokens -/

/-- What a text consists of. -/
inductive Token where
  /-- A literal with its quotation marks. -/
  | literal (quote : Char) (inner : List Char) (hquote : isQuote quote)
    (hinner : IsQuotable quote inner)
  | opening
  | closing
  | other (c : Char) (hquote : isQuote c = false) (hopen : c ≠ '(') (hclose : c ≠ ')')

namespace Token

/-- The characters of a token. -/
def text : Token → List Char
  | literal quote inner _ _ => quote :: (inner ++ [quote])
  | opening => ['(']
  | closing => [')']
  | other c _ _ _ => [c]

def isOpening : Token → Bool
  | opening => true
  | _ => false

def isClosing : Token → Bool
  | closing => true
  | _ => false

/-- How many parentheses are open behind the token. -/
def next : Token → Nat → Nat
  | opening, depth => depth + 1
  | closing, depth => depth - 1
  | _, depth => depth

end Token

/-- A text of complete tokens that opens as many parentheses as it closes. -/
def IsEven (text : List Char) : Prop :=
  ∃ tokens : List Token, tokens.flatMap Token.text = text ∧
    tokens.countP Token.isOpening = tokens.countP Token.isClosing

/-- A text that opens as many parentheses as it closes, and no shorter beginning of it does. -/
structure IsGroup (text : List Char) : Prop where
  ne_nil : text ≠ []
  isEven : IsEven text
  shortest : ∀ before, before <+: text → before ≠ [] → IsEven before → before = text

/-! ## Scans along tokens -/

section

variable {depth : Nat} {tokens : List Token}

/-- A token that leaves parentheses open is read, and the scan goes on behind it. -/
theorem untilClosed_text {token : Token} (rest : List Char) (hdepth : 0 < depth)
    (hnext : 0 < token.next depth) : untilClosed .outside depth (token.text ++ rest) =
      (untilClosed .outside (token.next depth) rest).map (token.text ++ ·) := by
  -- quoted text and other characters leave the count as it is
  cases token with
  | literal quote inner hquote hinner =>
    exact untilClosed_of_isBalanced (.literal hquote hinner .nil) hdepth
  | opening =>
    rw [Token.text, List.singleton_append, untilClosed, if_neg (by decide), if_pos rfl]
    rfl
  | closing =>
    rw [Token.next] at hnext
    rw [Token.text, List.singleton_append, untilClosed, if_neg (by decide), if_neg (by decide),
      if_pos rfl, if_neg (by omega)]
    rfl
  | other c hquote hopen hclose =>
    exact untilClosed_of_isBalanced (.char hquote hopen hclose .nil) hdepth

/-- Tokens that close all open parentheses end a scan at one of them. -/
theorem untilClosed_of_tokens (hdepth : 0 < depth)
    (h : tokens.countP Token.isOpening + depth ≤ tokens.countP Token.isClosing) :
    ∃ before after, tokens = before ++ .closing :: after ∧
      ∀ rest, untilClosed .outside depth (tokens.flatMap Token.text ++ rest) =
        some (before.flatMap Token.text) := by
  induction tokens generalizing depth with
  | nil =>
    rw [List.countP_nil, List.countP_nil] at h
    omega
  | cons token tokens ih =>
    -- if some are still open the scan goes on behind the token
    by_cases hnext : 0 < token.next depth
    · have hrest : tokens.countP Token.isOpening + token.next depth ≤
          tokens.countP Token.isClosing := by
        rw [List.countP_cons, List.countP_cons] at h
        cases token <;> simp [Token.isOpening, Token.isClosing, Token.next] at h hnext ⊢ <;> omega
      obtain ⟨before, after, rfl, hscan⟩ := ih hnext hrest
      refine ⟨token :: before, after, rfl, fun rest => ?_⟩
      rw [List.flatMap_cons, List.append_assoc, untilClosed_text _ hdepth hnext, hscan,
        Option.map_some, List.flatMap_cons]
    · -- only a closing parenthesis leaves none open
      cases token with
      | closing =>
        refine ⟨[], tokens, rfl, fun rest => ?_⟩
        rw [Token.next] at hnext
        rw [List.flatMap_cons, Token.text, List.singleton_append, List.cons_append, untilClosed,
          if_neg (by decide), if_neg (by decide), if_pos rfl, if_pos (by omega), List.flatMap_nil]
      | opening => simp [Token.next] at hnext
      | literal => exact absurd hdepth hnext
      | other => exact absurd hdepth hnext

end

/-! ## Tokens of what is found -/

section

variable {depth : Nat} {quote : Char} {cs inner : List Char}

/-- A scan that begins inside a literal goes on behind its end. -/
private theorem exists_literal :
    (untilClosed (.inside quote) depth cs = some inner → ∃ literal inner' rest,
      IsQuotable quote literal ∧ inner = literal ++ quote :: inner' ∧
        cs = literal ++ quote :: rest ∧ untilClosed .outside depth rest = some inner') ∧
    (untilClosed (.escaped quote) depth cs = some inner → ∃ c literal inner' rest,
      IsQuotable quote literal ∧ inner = c :: (literal ++ quote :: inner') ∧
        cs = c :: (literal ++ quote :: rest) ∧ untilClosed .outside depth rest = some inner') := by
  induction cs generalizing inner with
  -- both states at once, since each leads to the other
  | nil => exact ⟨by simp [untilClosed], by simp [untilClosed]⟩
  | cons c cs ih =>
    refine ⟨fun h => ?_, fun h => ?_⟩
    · rw [untilClosed] at h
      obtain ⟨found, hfound, rfl⟩ := Option.map_eq_some_iff.1 h
      split at hfound
      · -- what is escaped belongs to the literal, whatever it is
        rename_i hslash
        obtain ⟨c', literal, inner', rest, hliteral, rfl, rfl, hrest⟩ := ih.2 hfound
        exact ⟨'\\' :: c' :: literal, inner', rest, .escaped c' hliteral, by rw [hslash]; rfl,
          by rw [hslash]; rfl, hrest⟩
      · rename_i hslash
        split at hfound
        · rename_i hquote
          exact ⟨[], found, cs, .nil, by rw [hquote]; rfl, by rw [hquote]; rfl, hfound⟩
        · rename_i hquote
          obtain ⟨literal, inner', rest, hliteral, rfl, rfl, hrest⟩ := ih.1 hfound
          exact ⟨c :: literal, inner', rest, .char hslash hquote hliteral, rfl, rfl, hrest⟩
    · rw [untilClosed] at h
      obtain ⟨found, hfound, rfl⟩ := Option.map_eq_some_iff.1 h
      obtain ⟨literal, inner', rest, hliteral, rfl, rfl, hrest⟩ := ih.1 hfound
      exact ⟨c, literal, inner', rest, hliteral, rfl, rfl, hrest⟩

/-- A text consists of complete tokens that close all open parentheses but one, and the parenthesis
that closes that one stands behind it. -/
def EndsBefore (depth : Nat) (inner cs : List Char) : Prop :=
  ∃ (tokens : List Token) (rest : List Char), tokens.flatMap Token.text = inner ∧
    cs = inner ++ ')' :: rest ∧
    tokens.countP Token.isOpening + depth = tokens.countP Token.isClosing + 1

/-- A token in front changes the count by its own. -/
private theorem EndsBefore.cons (token : Token) (hdepth : 0 < depth)
    (h : EndsBefore (token.next depth) inner cs) :
    EndsBefore depth (token.text ++ inner) (token.text ++ cs) := by
  obtain ⟨tokens, rest, rfl, rfl, hcount⟩ := h
  refine ⟨token :: tokens, rest, List.flatMap_cons, (List.append_assoc _ _ _).symm, ?_⟩
  rw [List.countP_cons, List.countP_cons]
  cases token <;> simp [Token.isOpening, Token.isClosing, Token.next] at hcount ⊢ <;> omega

/-- What a scan finds ends before the parenthesis that closes the group. -/
theorem endsBefore_of_untilClosed (hdepth : 0 < depth)
    (h : untilClosed .outside depth cs = some inner) : EndsBefore depth inner cs := by
  -- a literal is read as a whole, so the induction is on what is left of the text
  induction hlength : cs.length using Nat.strongRecOn generalizing depth inner cs with
  | ind n ih =>
    cases cs with
    | nil => simp [untilClosed] at h
    | cons c cs =>
      subst hlength
      rw [untilClosed] at h
      -- a quote, a parenthesis of either kind, or another character
      split at h
      · rename_i hquote
        obtain ⟨found, hfound, rfl⟩ := Option.map_eq_some_iff.1 h
        obtain ⟨literal, inner, rest, hliteral, rfl, rfl, hrest⟩ := exists_literal.1 hfound
        have htail := EndsBefore.cons (.literal c literal hquote hliteral) hdepth
          (ih _ (by simp; omega) hdepth hrest rfl)
        simpa [Token.text] using htail
      · rename_i hquote
        split at h
        · rename_i hopen
          obtain ⟨found, hfound, rfl⟩ := Option.map_eq_some_iff.1 h
          subst hopen
          exact .cons .opening hdepth (ih _ (by simp) (Nat.succ_pos depth) hfound rfl)
        · rename_i hopen
          split at h
          · rename_i hclose
            subst hclose
            split at h
            · rename_i hlast
              obtain rfl := Option.some.inj h
              obtain rfl : depth = 1 := by omega
              exact ⟨[], cs, rfl, rfl, rfl⟩
            · rename_i hmore
              obtain ⟨found, hfound, rfl⟩ := Option.map_eq_some_iff.1 h
              have hnext : 0 < depth - 1 := by omega
              exact .cons .closing hdepth (ih _ (by simp) hnext hfound rfl)
          · rename_i hclose
            obtain ⟨found, hfound, rfl⟩ := Option.map_eq_some_iff.1 h
            have hplain : isQuote c = false := by simpa using hquote
            exact .cons (.other c hplain hopen hclose) hdepth
              (ih _ (by simp) hdepth hfound rfl)

end

/-! ## Groups -/

section

variable {more inner text : List Char}

/-- The scan starts behind the parenthesis, with one open. -/
theorem group?_cons : group? ('(' :: more) = untilClosed .outside 1 more :=
  rfl

/-- What is found is even, together with the parentheses around it. -/
theorem isEven_of_group? (h : group? ('(' :: more) = some inner) :
    '(' :: (inner ++ [')']) <+: '(' :: more ∧ IsEven ('(' :: (inner ++ [')'])) := by
  rw [group?_cons] at h
  obtain ⟨tokens, rest, rfl, rfl, hcount⟩ := endsBefore_of_untilClosed Nat.one_pos h
  refine ⟨⟨rest, by simp⟩, .opening :: (tokens ++ [.closing]), ?_, ?_⟩
  · simp [Token.text]
  · simpa [List.countP_cons, Token.isOpening, Token.isClosing] using hcount

/-- A beginning of a text that is even ends the scan, or it ends behind the group. -/
theorem exists_group?_of_isEven (h : text <+: '(' :: more) (hne : text ≠ []) (heven : IsEven text) :
    ∃ inner, group? ('(' :: more) = some inner ∧ '(' :: (inner ++ [')']) <+: text := by
  obtain ⟨tokens, rfl, hcount⟩ := heven
  obtain ⟨rest, hrest⟩ := h
  cases tokens with
  | nil => exact absurd rfl hne
  | cons token tokens =>
    rw [List.flatMap_cons, List.append_assoc] at hrest
    cases token with
    | opening =>
      obtain rfl : tokens.flatMap Token.text ++ rest = more := (List.cons.inj hrest).2
      have hclosed : tokens.countP Token.isOpening + 1 ≤ tokens.countP Token.isClosing := by
        simp [List.countP_cons, Token.isOpening, Token.isClosing] at hcount
        omega
      obtain ⟨before, after, rfl, hscan⟩ := untilClosed_of_tokens Nat.one_pos hclosed
      refine ⟨_, hscan rest, after.flatMap Token.text, ?_⟩
      simp [Token.text]
    -- no other token begins with a parenthesis that opens
    | literal quote inner hquote hinner =>
      rw [(List.cons.inj hrest).1] at hquote
      exact absurd hquote (by decide)
    | closing => exact absurd (List.cons.inj hrest).1 (by decide)
    | other c hquote hopen hclose => exact absurd (List.cons.inj hrest).1 hopen

/-- What is found is a group. -/
theorem isGroup_of_group? (h : group? ('(' :: more) = some inner) :
    IsGroup ('(' :: (inner ++ [')'])) := by
  obtain ⟨hbegins, heven⟩ := isEven_of_group? h
  -- a shorter even beginning would have been found before
  refine ⟨by simp, heven, fun before hbefore hne hbeforeEven => ?_⟩
  obtain ⟨inner', hinner', hbegins'⟩ :=
    exists_group?_of_isEven (hbefore.trans hbegins) hne hbeforeEven
  obtain rfl : inner = inner' := Option.some.inj (h.symm.trans hinner')
  exact hbefore.eq_of_length_le hbegins'.length_le

/-- A group at the beginning is found. -/
theorem group?_of_isGroup (h : text <+: '(' :: more) (hgroup : IsGroup text) :
    ∃ inner, group? ('(' :: more) = some inner ∧ '(' :: (inner ++ [')']) = text := by
  obtain ⟨inner, hinner, hbegins⟩ := exists_group?_of_isEven h hgroup.ne_nil hgroup.isEven
  exact ⟨inner, hinner, hgroup.shortest _ hbegins (by simp) (isEven_of_group? hinner).2⟩

end

/-! ## The counter -/

/-- The scan with a counter of open parentheses: where that cannot be lowered there is no result at
all. The text that is found ends before the parenthesis that brings the counter to zero. -/
def countedScan : Quoting → Nat → List Char → Option (Option (List Char))
  | _, _, [] => some none
  | .escaped q, depth, c :: cs => (countedScan (.inside q) depth cs).map (Option.map (c :: ·))
  | .inside q, depth, c :: cs =>
    let next := if c = '\\' then .escaped q else if c = q then .outside else .inside q
    (countedScan next depth cs).map (Option.map (c :: ·))
  | .outside, depth, c :: cs =>
    if isQuote c then (countedScan (.inside c) depth cs).map (Option.map (c :: ·))
    else if c = '(' then (countedScan .outside (depth + 1) cs).map (Option.map (c :: ·))
    else if c = ')' then
      depth.ppred.bind fun depth =>
        if depth = 0 then some (some [])
        else (countedScan .outside depth cs).map (Option.map (c :: ·))
    else (countedScan .outside depth cs).map (Option.map (c :: ·))

/-- As long as a parenthesis is open the counter is not lowered at zero. -/
theorem countedScan_eq {quoting : Quoting} {depth : Nat} {cs : List Char} (hdepth : 0 < depth) :
    countedScan quoting depth cs = some (untilClosed quoting depth cs) := by
  -- by induction on the text, one case for each state of the scan
  induction cs generalizing quoting depth with
  | nil => cases quoting <;> rfl
  | cons c cs ih =>
    cases quoting with
    | escaped quote => rw [countedScan, untilClosed, ih hdepth, Option.map_some]
    | inside quote => rw [countedScan, untilClosed, ih hdepth, Option.map_some]
    | outside =>
      rw [countedScan, untilClosed]
      split
      · rw [ih hdepth, Option.map_some]
      · split
        · rw [ih (Nat.succ_pos depth), Option.map_some]
        · split
          · -- one of those that are open is closed, and it may be the last
            obtain ⟨left, rfl⟩ := Nat.exists_eq_add_of_lt hdepth
            rw [Nat.zero_add, Nat.ppred_succ, Option.bind_some, Nat.add_sub_cancel]
            by_cases hleft : left = 0
            · rw [if_pos hleft, if_pos (by omega)]
            · rw [if_neg hleft, if_neg (by omega), ih (Nat.pos_of_ne_zero hleft), Option.map_some]
          · rw [ih hdepth, Option.map_some]

/-! ## Slices -/

/-- What stands in the middle of a text is a slice of it: between two positions that are boundaries of
characters, however many bytes these take. -/
theorem exists_extract_eq (a b c : String) : ∃ start stop : (a ++ (b ++ c)).Pos,
    start.offset.byteIdx = a.utf8ByteSize ∧
      stop.offset.byteIdx = a.utf8ByteSize + b.utf8ByteSize ∧ String.extract start stop = b := by
  have hstart : String.Pos.Raw.IsValid (a ++ (b ++ c)) a.rawEndPos :=
    String.Pos.Raw.isValid_iff_exists_append.2 ⟨a, b ++ c, rfl, rfl⟩
  have hstop : String.Pos.Raw.IsValid (a ++ (b ++ c)) (a ++ b).rawEndPos :=
    String.Pos.Raw.isValid_iff_exists_append.2 ⟨a ++ b, c, (String.append_assoc ..).symm, rfl⟩
  have hsize : (a ++ b).rawEndPos.byteIdx = a.utf8ByteSize + b.utf8ByteSize := by simp
  refine ⟨⟨_, hstart⟩, ⟨_, hstop⟩, rfl, hsize, ?_⟩
  rw [← String.toByteArray_inj, String.toByteArray_extract, String.toByteArray_append,
    String.toByteArray_append]
  show (a.toByteArray ++ _).extract (a.utf8ByteSize + 0) (a ++ b).rawEndPos.byteIdx = _
  rw [hsize, ← String.size_toByteArray, ByteArray.extract_append_size_add,
    ByteArray.extract_append_eq_left String.size_toByteArray.symm]

/-! ## What is found -/

/-- The groups that are found at the beginning of a text are those that are there. -/
structure FindsGroup (text : List Char) : Prop where
  eq_some_iff : ∀ inner, group? text = some inner ↔
    '(' :: (inner ++ [')']) <+: text ∧ IsGroup ('(' :: (inner ++ [')']))
  eq_none_iff : group? text = none ↔ ∀ before, before <+: text → ¬ IsGroup before
  /-- The counter is never lowered at zero. -/
  counter : countedScan .outside 0 text = some ((group? text).map ('(' :: ·))
  /-- The inner text is the slice from the first byte to the parenthesis that ends the group. -/
  slice : ∀ inner, group? text = some inner → ∃ start stop : (String.ofList text).Pos,
    start.offset.byteIdx = 1 ∧ stop.offset.byteIdx = 1 + (String.ofList inner).utf8ByteSize ∧
      String.extract start stop = String.ofList inner

/-- Of every text that begins with a parenthesis the group is found if there is one: the shortest
beginning that consists of complete tokens and closes as many parentheses as it opens. -/
theorem findsGroup_of_parenthesis (more : List Char) : FindsGroup ('(' :: more) := by
  refine ⟨fun inner => ⟨fun h => ?_, fun ⟨hbegins, hgroup⟩ => ?_⟩, ⟨fun h before hbefore hgroup => ?_,
    fun h => ?_⟩, ?_, fun inner h => ?_⟩
  · exact ⟨(isEven_of_group? h).1, isGroup_of_group? h⟩
  · obtain ⟨inner', hinner', heq⟩ := group?_of_isGroup hbegins hgroup
    rw [hinner', List.append_cancel_right (List.cons.inj heq).2]
  · obtain ⟨inner, hinner, -⟩ := group?_of_isGroup hbefore hgroup
    exact absurd (h.symm.trans hinner) (by simp)
  · rw [Option.eq_none_iff_forall_ne_some]
    exact fun inner hinner => h _ (isEven_of_group? hinner).1 (isGroup_of_group? hinner)
  · -- behind the first character one parenthesis is open
    rw [countedScan, if_neg (by decide), if_pos rfl, countedScan_eq Nat.one_pos, Option.map_some,
      group?_cons]
  · -- the text is the parenthesis, what is inside, and the rest
    obtain ⟨rest, hrest⟩ := (isEven_of_group? h).1
    have htext : String.ofList ('(' :: more) =
        String.ofList ['('] ++ (String.ofList inner ++ String.ofList (')' :: rest)) := by
      rw [← String.ofList_append, ← String.ofList_append, ← hrest]
      simp
    rw [htext]
    exact exists_extract_eq _ _ _

/-- Parentheses in literals do not count, escaped marks do not end them, and a character may take
several bytes. -/
example : group? "('\\')', (é)) => x".toList = some "'\\')', (é)".toList := by decide

end SceneBoard.Parameters
