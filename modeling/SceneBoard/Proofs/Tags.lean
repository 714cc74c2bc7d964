import SceneBoard.Proofs.Scanning
import SceneBoard.Storyboard.Body

/-!
# The tags of a scene body

What a body shows and what it refers to is found by two patterns, one for opening tags and one for
components that are handed to a wrapping tag. Both look for a name between a text and a character,
and they find the names that a reader of the body would: `namesBehind` goes through the text once
and takes every name behind a given text together with the character that follows it
(`map_captures_named`). A tag is noticed only if white space within a line, a line feed or a
greater-than sign follows its name (`Tag.IsNoticed`): a tag that closes itself without a space in
between is overlooked, and so is one whose line ends in a carriage return.

## Key results

- `mem_namesBehind`: the names behind a text, by where they stand
- `component?_eq` and `references_eq`: what a body shows and refers to, in terms of its tags
- `shown_and_references`: a body shows what its first tag says, if that is noticed
-/

namespace SceneBoard.Body

open Text Text.Pattern

/-! ## Names -/

/-- A name in markup and the character behind it, unless the text ends there. -/
structure Tag where
  name : String
  after : Option Char
deriving DecidableEq, Repr

/-- The letters of a component name in markup. -/
structure IsName (name : List Char) : Prop where
  upper : name.head?.any Char.isUpper
  chars : ∀ x ∈ name, isTagChar x

/-- The name with which a text begins, as long as it can be. -/
def nameAt (cs : List Char) : Option Tag :=
  if cs.head?.any Char.isUpper then
    some ⟨String.ofList (cs.takeWhile isTagChar), (cs.dropWhile isTagChar).head?⟩
  else none

/-- The name behind the text `s` with which a text begins. -/
def nameBehind (s cs : List Char) : Option Tag :=
  if s <+: cs then nameAt (cs.drop s.length) else none

/-- The names behind the text `s`, from left to right. -/
def namesBehind (s : List Char) : List Char → List Tag
  | [] => []
  | c :: cs => (nameBehind s (c :: cs)).toList ++ namesBehind s cs

/-- The tags that open a component. -/
def tags (cs : List Char) : List Tag :=
  namesBehind "<".toList cs

/-- The components that are handed to wrapping tags. -/
def handed (cs : List Char) : List Tag :=
  (namesBehind "component=\x7b".toList cs).filter fun t => t.after == some '\x7d'

section

variable {s name cs u v : List Char} {x : Char} {t : Tag}

/-- A capital letter may stand in a tag. -/
theorem isTagChar_of_isUpper (h : x.isUpper) : isTagChar x := by
  have hletter : x.isAlphanum = true := by
    show ((x.isUpper || x.isLower) || x.isDigit) = true
    rw [h, Bool.true_or, Bool.true_or]
  rw [isTagChar, hletter, Bool.true_or]

/-- The name at a place goes as far as there are characters of names. -/
theorem nameAt_eq_some_iff : nameAt cs = some t ↔ ∃ name rest, cs = name ++ rest ∧ IsName name ∧
    (∀ x ∈ rest.head?, isTagChar x = false) ∧ t = ⟨String.ofList name, rest.head?⟩ := by
  constructor
  · intro h
    obtain ⟨hupper, ht⟩ := Option.ite_none_right_eq_some.1 h
    obtain rfl := Option.some.inj ht
    -- the name is what the scan takes, and the rest is what it leaves
    refine ⟨_, _, List.takeWhile_append_dropWhile.symm, ⟨?_, fun x hx => ?_⟩, fun x hx => ?_, rfl⟩
    · cases cs with
      | nil => exact hupper
      | cons x cs => rw [List.takeWhile_cons_of_pos (isTagChar_of_isUpper hupper)]; exact hupper
    · exact (List.all_eq_true.1 List.all_takeWhile) x hx
    · have hhead := List.head?_dropWhile_not isTagChar cs
      rw [Option.mem_def.1 hx] at hhead
      exact hhead
  · rintro ⟨name, rest, rfl, hname, hrest, rfl⟩
    -- no character of a tag begins `rest`, so that the scan stops between the two
    have htake : (name ++ rest).takeWhile isTagChar = name := by
      rw [List.takeWhile_append_of_pos hname.chars]
      cases rest with
      | nil => simp
      | cons x rest => simp [hrest x (by simp)]
    have hdrop : (name ++ rest).dropWhile isTagChar = rest := by
      rw [List.dropWhile_append_of_pos hname.chars]
      cases rest with
      | nil => simp
      | cons x rest => simp [hrest x (by simp)]
    have hupper : (name ++ rest).head?.any Char.isUpper := by
      cases name with
      | nil => exact absurd hname.upper (by simp)
      | cons x name => exact hname.upper
    rw [nameAt, if_pos hupper, htake, hdrop]

/-- A name behind `s` is one at the place where `s` ends. -/
theorem nameBehind_eq_some_iff : nameBehind s cs = some t ↔ ∃ name rest, cs = s ++ (name ++ rest) ∧
    IsName name ∧ (∀ x ∈ rest.head?, isTagChar x = false) ∧
      t = ⟨String.ofList name, rest.head?⟩ := by
  rw [nameBehind, Option.ite_none_right_eq_some, nameAt_eq_some_iff]
  constructor
  · -- the text begins with `s`, behind which the name is looked for
    rintro ⟨⟨v, rfl⟩, name, rest, hv, h⟩
    rw [List.drop_left] at hv
    exact ⟨name, rest, by rw [hv], h⟩
  · rintro ⟨name, rest, rfl, h⟩
    exact ⟨List.prefix_append _ _, name, rest, List.drop_left, h⟩

/-- The names behind a text are those that stand somewhere in what is read. -/
theorem mem_namesBehind (hs : s ≠ []) : t ∈ namesBehind s cs ↔ ∃ pre name rest,
    cs = pre ++ (s ++ (name ++ rest)) ∧ IsName name ∧ (∀ x ∈ rest.head?, isTagChar x = false) ∧
      t = ⟨String.ofList name, rest.head?⟩ := by
  induction cs with
  | nil => simp [namesBehind, hs]
  | cons c cs ih =>
    rw [namesBehind, List.mem_append, Option.mem_toList, nameBehind_eq_some_iff, ih]
    constructor
    · -- the name stands here, or behind some characters
      rintro (⟨name, rest, hcs, h⟩ | ⟨pre, name, rest, rfl, h⟩)
      · exact ⟨[], name, rest, hcs, h⟩
      · exact ⟨c :: pre, name, rest, rfl, h⟩
    · rintro ⟨pre, name, rest, hcs, h⟩
      cases pre with
      | nil => exact .inl ⟨name, rest, hcs, h⟩
      | cons d pre => exact .inr ⟨pre, name, rest, (List.cons.inj hcs).2, h⟩

/-- A stretch of text in which `s` does not begin has no names behind it. -/
theorem namesBehind_of_clear (h : Clear s u v) : namesBehind s (u ++ v) = namesBehind s v := by
  induction u with
  | nil => rfl
  | cons c u ih =>
    obtain ⟨hc, hu⟩ := clear_cons.1 h
    have hnone : nameBehind s (c :: (u ++ v)) = none := if_neg hc
    rw [List.cons_append, namesBehind, hnone, ih hu, Option.toList_none, List.nil_append]

end

/-! ## Patterns -/

/-- A name between a text and a character. -/
private def named (s : String) (p : Char → Bool) : Pattern :=
  .seq (text s) (.seq tagName (.char p))

/-- A character behind the name of a tag that is noticed. -/
def isTagEnd (c : Char) : Bool :=
  c == ' ' || c == '\t' || c == '\n' || c == '>'

theorem isTagChar_eq_false_of_isTagEnd {x : Char} (h : isTagEnd x) : isTagChar x = false := by
  simp only [isTagEnd, Bool.or_eq_true, beq_iff_eq] at h
  rcases h with ((rfl | rfl) | rfl) | rfl <;> decide

/-- The pattern of tags, as a name between two texts. -/
private theorem componentTag_eq : componentTag = named "<" isTagEnd :=
  rfl

/-- The pattern of handed components, as a name between two texts. -/
private theorem wrappedComponent_eq : wrappedComponent = named "component=\x7b" (· == '\x7d') := by
  have hend : text "\x7d" = char (· == '\x7d') := by
    rw [text, char, Pattern.piece.injEq]
    funext cs
    cases cs with
    | nil => rfl
    | cons x cs =>
      have hhead : "\x7d".toList.isPrefixOf (x :: cs) = (x == '\x7d') :=
        (Bool.and_true _).trans Bool.beq_comm
      rw [hhead]
      rfl
  rw [wrappedComponent, hend]
  rfl

section

variable {s : String} {p : Char → Bool} {c d : Cursor} {name cs : List Char} {x : Char}

/-- From a place with a name between the text and a character there is a way over them, and the
first way remembers the whole of the name. -/
private theorem exists_head?_ways_named (hp : ∀ x, p x → isTagChar x = false)
    (h : c.Reads (s.toList ++ (name ++ [x])) d) (hname : IsName name) (hx : p x) :
    ∃ c₁ c₂, c₁.Reads name c₂ ∧ ((named s p).ways c).head? = some ⟨d, [(1, c₁), (1, c₂)]⟩ := by
  cases name with
  | nil => exact absurd hname.upper (by simp)
  | cons y ys =>
    -- the text before the name, the name, and what ends it
    obtain ⟨c₁, h₁, h⟩ := Cursor.Reads.split h
    obtain ⟨c₂, h₂, h₃⟩ := Cursor.Reads.split (u := y :: ys) h
    obtain ⟨e, he, he'⟩ := Cursor.Reads.split (u := [y]) h₂
    refine ⟨c₁, c₂, h₂, ?_⟩
    have hhead : ((Pattern.seq (.mark 1) (.char p)).ways c₂).head? = some ⟨d, [(1, c₂)]⟩ := by
      rw [ways_seq_mark, ways_char h₃ hx]
      rfl
    -- the name is read in full, as the character behind it is not one of names
    have hrun := head?_ways_seq_many he' (p := isTagChar)
      (fun z hz => hname.chars z (List.mem_cons_of_mem y hz)) (by simp [h₃.rest, hp x hx]) hhead
    rw [named, ways_seq_text h₁, tagName, ways_seq_group, ways_seq_assoc,
      ways_seq_char he hname.upper, List.head?_map, hrun]
    rfl

/-- There is no other way. -/
private theorem exists_of_mem_ways_named {w : Way} (h : w ∈ (named s p).ways c) :
    ∃ name x rest, c.rest = s.toList ++ (name ++ x :: rest) ∧ IsName name ∧ p x := by
  -- the way is taken apart into its reads
  obtain ⟨v, hv, w₁, hw₁, -⟩ := exists_of_mem_ways_seq h
  obtain ⟨c₁, h₁, rfl⟩ := exists_of_mem_ways_text hv
  obtain ⟨v, hv, w₂, hw₂, -⟩ := exists_of_mem_ways_seq hw₁
  obtain ⟨v', hv', rfl⟩ := exists_of_mem_ways_group hv
  obtain ⟨v₁, hv₁, v₂, hv₂, rfl⟩ := exists_of_mem_ways_seq hv'
  obtain ⟨y, c₂, h₂, hy, rfl⟩ := exists_of_mem_ways_char hv₁
  obtain ⟨ys, c₃, h₃, hys, rfl⟩ := exists_of_mem_ways_run hv₂
  obtain ⟨x, d, h₄, hx, -⟩ := exists_of_mem_ways_char hw₂
  refine ⟨y :: ys, x, d.rest, ?_, ⟨hy, fun z hz => ?_⟩, hx⟩
  · -- sign, first letter, the rest of the name, and what ends it
    have hread : c.Reads (s.toList ++ ([y] ++ (ys ++ [x]))) d := h₁.trans (h₂.trans (h₃.trans h₄))
    simpa using hread.rest
  · rcases List.mem_cons.1 hz with rfl | hz
    · exact isTagChar_of_isUpper hy
    · exact hys z hz

/-- A name that is found is followed by the names behind it, if the text does not begin again inside
what is found. -/
private theorem namesBehind_of_name {s rest : List Char} (hs : s ≠ []) (hname : IsName name)
    (hx : isTagChar x = false) (hclear : Clear s (s.tail ++ (name ++ [x])) rest) :
    namesBehind s (s ++ (name ++ x :: rest)) =
      ⟨String.ofList name, some x⟩ :: namesBehind s rest := by
  have hhere : nameBehind s (s ++ (name ++ x :: rest)) = some ⟨String.ofList name, some x⟩ :=
    nameBehind_eq_some_iff.2 ⟨name, x :: rest, rfl, hname, by simpa using hx, rfl⟩
  cases s with
  | nil => exact absurd rfl hs
  | cons a s =>
    have htail : s ++ (name ++ x :: rest) = (s ++ (name ++ [x])) ++ rest := by simp
    -- behind its first character the text does not begin again before `rest`
    rw [List.cons_append] at hhere ⊢
    rw [namesBehind, hhere, htail]
    exact congrArg (_ :: ·) (namesBehind_of_clear hclear)

/-- A scan finds the names behind the text that are followed by a character of the class, if the
text does not begin again inside what is found. -/
private theorem map_scan_named (hs : s.toList ≠ []) (hp : ∀ x, p x → isTagChar x = false)
    (hclear : ∀ name x v, (∀ y ∈ name, isTagChar y) → p x →
      Clear s.toList (s.toList.tail ++ (name ++ [x])) v) :
    ((named s p).scan c).map (fun m => (m.group? 1).map String.ofList) =
      ((namesBehind s.toList c.rest).filter (·.after.any p)).map (some ·.name) := by
  -- by induction on what is left of the text: a match is taken as a whole, else one character
  induction hn : c.rest.length using Nat.strongRecOn generalizing c with
  | ind n ih =>
    -- a name stands here, or none does
    by_cases hmatch : ∃ name x rest, c.rest = s.toList ++ (name ++ x :: rest) ∧ IsName name ∧ p x
    · obtain ⟨name, x, after, hc, hname, hx⟩ := hmatch
      obtain ⟨d, hd, rfl⟩ := Cursor.Reads.ofRest (c := c) (u := s.toList ++ (name ++ [x]))
        (v := after) (by simp [hc])
      obtain ⟨c₁, c₂, hread, hways⟩ := exists_head?_ways_named hp hd hname hx
      have hgroup : (Match.mk c d [(1, c₁), (1, c₂)]).group? 1 = some name := by
        simp [Match.group?, hread.upTo]
      have hlater := ih d.rest.length (by simp [← hn, hd.rest]; omega) rfl
      rw [scan_of_some hways hd (by simp), List.map_cons, hgroup, hlater, hc,
        namesBehind_of_name hs hname (hp x hx) (hclear name x d.rest hname.chars hx)]
      simp [hx]
    · have hno : (named s p).ways c = [] := List.eq_nil_iff_forall_not_mem.2 fun w hw =>
        hmatch (exists_of_mem_ways_named hw)
      cases hrest : c.rest with
      | nil =>
        rw [scan_of_rest_nil hrest hno]
        rfl
      | cons y rest =>
        obtain ⟨e, he, rfl⟩ := Cursor.Reads.ofRest (c := c) (u := [y]) hrest
        -- then the search goes on at the next character
        have hscan : (named s p).scan c = (named s p).scan e := by
          refine scan_of_none he fun u' r f hu hr hf => ?_
          cases u' with
          | nil => exact (Cursor.Reads.nil c).eq hf ▸ hno
          | cons z u' => simp_all
        -- and no tag that counts is found here
        have hhere : (nameBehind s.toList (y :: e.rest)).toList.filter (·.after.any p) = [] := by
          rw [List.filter_eq_nil_iff]
          intro t ht hafter
          obtain ⟨name, rest, heq, hname, -, rfl⟩ :=
            nameBehind_eq_some_iff.1 (Option.mem_toList.1 ht)
          cases rest with
          | nil => simp at hafter
          | cons x rest =>
            exact hmatch ⟨name, x, rest, hrest.trans heq, hname, by simpa using hafter⟩
        rw [hscan, namesBehind, List.filter_append, hhere, List.nil_append]
        exact ih e.rest.length (by simp [← hn, hrest]) rfl

variable (hs : s.toList ≠ []) (hp : ∀ x, p x → isTagChar x = false)
  (hclear : ∀ name x v, (∀ y ∈ name, isTagChar y) → p x →
    Clear s.toList (s.toList.tail ++ (name ++ [x])) v)

include hs hp hclear

/-- The names captured are those of the tags with the right end. -/
private theorem map_captures_named : ((named s p).captures 1 cs).map String.ofList =
    ((namesBehind s.toList cs).filter (·.after.any p)).map Tag.name := by
  have hscan := congrArg (List.filterMap id) (map_scan_named (c := ⟨0, none, cs⟩) hs hp hclear)
  rw [List.filterMap_map, List.filterMap_map] at hscan
  rw [captures, findAll_eq_scan, List.map_filterMap]
  exact hscan.trans (congrFun List.filterMap_eq_map _)

/-- The first name captured is that of the first such tag. -/
private theorem map_capture?_named : ((named s p).capture? 1 cs).map String.ofList =
    ((namesBehind s.toList cs).find? (·.after.any p)).map Tag.name := by
  have hscan := congrArg List.head? (map_scan_named (c := ⟨0, none, cs⟩) hs hp hclear)
  rw [List.head?_map, List.head?_map, List.head?_filter, ← find?_eq_head?_scan] at hscan
  have hjoin := congrArg (Option.bind · id) hscan
  simp only [Option.bind_map] at hjoin
  rw [capture?, Option.map_bind, Option.map_eq_bind]
  exact hjoin

end

/-! ## The first tag -/

section

variable {pre name rest cs : List Char} {t : Tag}

/-- A text without the sign that opens tags has none. -/
theorem tags_of_not_mem (h : '<' ∉ cs) : tags cs = [] := by
  have hclear : Clear "<".toList cs [] := clear_of_head_not_mem h
  have htags := namesBehind_of_clear hclear
  rwa [List.append_nil] at htags

/-- Behind a text without tags, a name between a less-than sign and a character that names do not
have is the first. -/
theorem tags_append (hpre : tags pre = []) (hname : IsName name)
    (hrest : ∀ x ∈ rest.head?, isTagChar x = false) :
    tags (pre ++ '<' :: (name ++ rest)) = ⟨String.ofList name, rest.head?⟩ :: tags rest := by
  induction pre with
  | nil =>
    have hhere : nameBehind "<".toList ('<' :: (name ++ rest)) =
        some ⟨String.ofList name, rest.head?⟩ :=
      nameBehind_eq_some_iff.2 ⟨name, rest, rfl, hname, hrest, rfl⟩
    have hclear : Clear "<".toList name rest :=
      clear_of_head_not_mem fun h => absurd (hname.chars '<' h) (by decide)
    rw [List.nil_append, tags, namesBehind, hhere, namesBehind_of_clear hclear]
    rfl
  | cons c pre ih =>
    obtain ⟨hhere, hlater⟩ := List.append_eq_nil_iff.1 hpre
    have hnone : nameBehind "<".toList (c :: (pre ++ '<' :: (name ++ rest))) = none := by
      by_cases hc : c = '<'
      · -- what follows the sign is no letter, also if it is the sign of the tag
        subst hc
        have hat : nameAt pre = none := Option.toList_eq_nil_iff.1 hhere
        have hupper : ¬ pre.head?.any Char.isUpper := fun h => by simp [nameAt, h] at hat
        cases pre with
        | nil => rfl
        | cons x pre => exact if_neg hupper
      · exact if_neg fun h => hc (List.cons_prefix_cons.1 h).1.symm
    rw [List.cons_append, tags, namesBehind, hnone]
    exact ih hlater

end

/-! ## What a body shows and refers to -/

/-- The name of a tag is followed by one of the characters behind which it is noticed. -/
def Tag.IsNoticed (t : Tag) : Prop :=
  t.after.any isTagEnd

instance (t : Tag) : Decidable t.IsNoticed :=
  inferInstanceAs (Decidable (_ = true))

/-- What a body shows if it has a tag first: the component of the tag, unless it is a wrapper and
some component is handed to one. -/
def shown (body : String) (t : Tag) : String :=
  if t.name ∈ wrappers then ((handed body.toList).head?.map Tag.name).getD t.name else t.name

/-- No tag begins inside a name or at its end. -/
private theorem clear_tag {name : List Char} {x : Char} (v : List Char)
    (hname : ∀ y ∈ name, isTagChar y) (hx : isTagEnd x) : Clear "<".toList (name ++ [x]) v := by
  refine clear_of_head_not_mem ?_
  rw [List.mem_append, List.mem_singleton, not_or]
  refine ⟨fun h => absurd (hname '<' h) (by decide), ?_⟩
  rintro rfl
  exact absurd hx (by decide)

/-- No component is handed inside a name or at its end. -/
private theorem clear_handed {name : List Char} {x : Char} (v : List Char)
    (hname : ∀ y ∈ name, isTagChar y) (hx : x == '\x7d') :
    Clear "component=\x7b".toList ("omponent=\x7b".toList ++ (name ++ [x])) v := by
  obtain rfl := eq_of_beq hx
  have hequals : '=' ∉ name := fun h => absurd (hname '=' h) (by decide)
  refine clear_append.2 ⟨clear_of_head_not_mem (by decide), clear_append.2 ⟨?_, ?_⟩⟩
  · exact @clear_of_not_mem "component".toList _ _ _ _ _ hequals (by decide) (by decide)
  · exact clear_of_head_not_mem (by decide)

/-- The first pattern finds the tags that are noticed. -/
private theorem componentTag_finds (cs : List Char) :
    (componentTag.captures 1 cs).map String.ofList =
        ((tags cs).filter (·.IsNoticed)).map Tag.name ∧
      (componentTag.capture? 1 cs).map String.ofList =
        ((tags cs).find? (·.IsNoticed)).map Tag.name := by
  have hnoticed : (fun t : Tag => decide t.IsNoticed) = (·.after.any isTagEnd) :=
    funext fun _ => Bool.decide_eq_true
  rw [componentTag_eq, hnoticed]
  -- each way to use the pattern, for the ends of a tag
  exact ⟨map_captures_named (by decide) (fun _ => isTagChar_eq_false_of_isTagEnd)
      fun _ _ v => clear_tag v,
    map_capture?_named (by decide) (fun _ => isTagChar_eq_false_of_isTagEnd)
      fun _ _ v => clear_tag v⟩

/-- The second finds the components that are handed on. -/
private theorem wrappedComponent_finds (cs : List Char) :
    (wrappedComponent.captures 1 cs).map String.ofList = (handed cs).map Tag.name ∧
      (wrappedComponent.capture? 1 cs).map String.ofList = (handed cs).head?.map Tag.name := by
  -- the brace is no character of a name
  have hend (x : Char) (hx : x == '\x7d') : isTagChar x = false := by
    obtain rfl := eq_of_beq hx
    decide
  have hafter : (fun t : Tag => t.after == some '\x7d') = (·.after.any (· == '\x7d')) :=
    funext fun t => by cases h : t.after <;> simp
  rw [wrappedComponent_eq, handed, hafter, List.head?_filter]
  exact ⟨map_captures_named (by decide) hend fun _ _ v => clear_handed v,
    map_capture?_named (by decide) hend fun _ _ v => clear_handed v⟩

/-- The component shown is told by the first tag that is noticed. -/
theorem component?_eq (body : String) :
    component? body = ((tags body.toList).find? (·.IsNoticed)).map (shown body) := by
  have hbody : component? body = ((componentTag.capture? 1 body.toList).map String.ofList).map
      fun name => if name ∈ wrappers then
        ((wrappedComponent.capture? 1 body.toList).map String.ofList).getD name else name := by
    rw [component?, Option.map_map]
    refine congrArg (Option.map · _) (funext fun tag => ?_)
    simp only [Function.comp_apply, List.contains_iff_mem]
    cases wrappedComponent.capture? 1 body.toList <;> rfl
  rw [hbody, (componentTag_finds _).2, (wrappedComponent_finds _).2, Option.map_map]
  rfl

/-- The references are the noticed and the handed names without the wrappers. -/
theorem references_eq (body : String) :
    references body = distinct ((((tags body.toList).filter (·.IsNoticed) ++
      handed body.toList).map Tag.name).filter fun name => !wrappers.contains name) := by
  rw [references, List.map_append, List.map_append, (componentTag_finds _).1,
    (wrappedComponent_finds _).1]

variable {body name : String} {t : Tag} {ts : List Tag}

/-- A name is referred to if a noticed tag has it or it is handed, and it is no wrapper. -/
theorem mem_references_iff : name ∈ references body ↔
    name ∉ wrappers ∧ ((∃ t ∈ tags body.toList, t.IsNoticed ∧ t.name = name) ∨
      ∃ t ∈ handed body.toList, t.name = name) := by
  rw [references_eq, mem_distinct, List.mem_filter, List.map_append, List.mem_append, List.mem_map,
    List.mem_map, and_comm]
  simp only [List.mem_filter, decide_eq_true_eq, and_assoc, Bool.not_eq_true',
    List.contains_eq_mem, decide_eq_false_iff_not]

/-- A body shows what its first tag says, looking through a wrapper to what is handed on, and it
refers to the component of every tag; but all of this holds of the tags that are noticed only. One
that is overlooked leaves it to the tags behind it what the body shows. -/
theorem shown_and_references (h : tags body.toList = t :: ts) :
    (t.IsNoticed → component? body = some (shown body t)) ∧
      (¬ t.IsNoticed → component? body = (ts.find? (·.IsNoticed)).map (shown body)) ∧
      (∀ u ∈ t :: ts, u.IsNoticed → u.name ∉ wrappers → u.name ∈ references body) ∧
      ∀ name ∈ references body, name ∉ wrappers ∧
        ((∃ u ∈ t :: ts, u.IsNoticed ∧ u.name = name) ∨ ∃ u ∈ handed body.toList, u.name = name) := by
  -- the first tag is noticed, or it is overlooked and a later one is taken
  refine ⟨fun ht => ?_, fun ht => ?_, fun u hu hnoticed hwrapper => ?_, fun name hname => ?_⟩
  · rw [component?_eq, h, List.find?_cons_of_pos (by simpa using ht), Option.map_some]
  · rw [component?_eq, h, List.find?_cons_of_neg (by simpa using ht)]
  · exact mem_references_iff.2 ⟨hwrapper, .inl ⟨u, h ▸ hu, hnoticed, rfl⟩⟩
  · exact h ▸ mem_references_iff.1 hname

/-- A card that is handed to a wrapper is shown, and the chip inside is referred to; a card whose tag
closes itself is overlooked for the chip behind it. -/
theorem shown_and_references_card_and_chip :
    (component? "<Scene component=\x7bCard\x7d><Chip /></Scene>" = some "Card" ∧
      "Chip" ∈ references "<Scene component=\x7bCard\x7d><Chip /></Scene>") ∧
      component? "<Card/><Chip />" = some "Chip" := by
  have hwrapped : tags "<Scene component=\x7bCard\x7d><Chip /></Scene>".toList =
      [⟨"Scene", some ' '⟩, ⟨"Chip", some ' '⟩] := by decide
  have hclosed : tags "<Card/><Chip />".toList = [⟨"Card", some '/'⟩, ⟨"Chip", some ' '⟩] := by
    decide
  obtain ⟨hshown, -, hreferred, -⟩ := shown_and_references hwrapped
  obtain ⟨-, hoverlooked, -⟩ := shown_and_references hclosed
  refine ⟨⟨?_, ?_⟩, ?_⟩
  · rw [hshown (by decide)]
    decide
  · exact hreferred ⟨"Chip", some ' '⟩ (by decide) (by decide) (by decide)
  · rw [hoverlooked (by decide)]
    decide

/-- A name that ends as names in markup do: with white space, with the tag, or where the tag
closes itself. -/
def Tag.IsEnded (t : Tag) : Prop :=
  t.after.any fun c => isBlank c || c == '>' || c == '/'

instance (t : Tag) : Decidable t.IsEnded :=
  inferInstanceAs (Decidable (_ = true))

/-- A tag that closes itself behind its name is overlooked, so a body with a card in it is read to
show nothing and to refer to nothing. -/
theorem not_shown_of_isEnded : ¬ ∀ body t ts, tags body.toList = t :: ts → t.IsEnded →
    component? body = some (shown body t) ∧
      ∀ u ∈ t :: ts, u.IsEnded → u.name ∉ wrappers → u.name ∈ references body := by
  intro h
  have hcard := (h "<Card/>" ⟨"Card", some '/'⟩ [] (by decide) (by decide)).1
  rw [component?_eq] at hcard
  exact absurd hcard (by decide)

end SceneBoard.Body
