import SceneBoard.Text.Pattern.Ways

/-!
# Reading a known text

`Pattern.ways` lists what a pattern can do at a place. Where the text at the place is known, the
list can be worked out piece by piece. `Cursor.Reads c u d` says that `u` stands between the places
`c` and `d`; a text that is written as a concatenation gives a chain of such places (`Reads.ofRest`,
`Reads.split`), and the lemmas of this file lead the ways of a sequence along the chain:

* `ways_seq_text`, `ways_seq_char`, `ways_seq_mark`: a fixed piece leaves the rest of the sequence;
* `ways_seq_run_of_stop`: a run in front of something that cannot begin inside it has one way;
* `ways_seq_run_text`: a run up to a text that occurs only once in its reach has one way;
* `head?_ways_seq_many`, `head?_ways_seq_few`: where only the first way counts, a run of many
  characters ends where it has to, and a run of few at the first place where the rest matches.

The other way round, a way of a sequence falls into ways of its parts (`exists_of_head?_ways_seq`).

`Clear t w v` says that the text `t` begins nowhere inside `w` if `v` follows; `apart` decides a
case of it that does not depend on `v`.
-/

namespace SceneBoard.Text

/-! ## Places and what lies between them -/

/-- Two advances in a row are one advance by the sum. -/
theorem Cursor.advance_add (m n : Nat) (c : Cursor) :
    (c.advance m).advance n = c.advance (m + n) := by
  induction m generalizing c with
  | zero => simp [Cursor.advance]
  | succ m ih =>
    obtain ⟨i, b, rest⟩ := c
    cases rest with
    | nil => cases n <;> simp [Cursor.advance]
    | cons x xs =>
      rw [Nat.add_right_comm]
      exact ih ⟨i + 1, some x, xs⟩

/-- The text `u` leads from the place `c` to the place `d`. -/
structure Cursor.Reads (c : Cursor) (u : List Char) (d : Cursor) : Prop where
  rest : c.rest = u ++ d.rest
  stop : d = c.advance u.length

namespace Cursor.Reads

variable {c d e : Cursor} {u v : List Char}

theorem nil (c : Cursor) : c.Reads [] c where
  rest := rfl
  stop := by simp [Cursor.advance]

theorem trans (h : c.Reads u d) (h' : d.Reads v e) : c.Reads (u ++ v) e where
  rest := by rw [h.rest, h'.rest, List.append_assoc]
  stop := by rw [h'.stop, h.stop, advance_add, List.length_append]

/-- What is left after as many steps as the text is long. -/
private theorem rest_advance (h : c.rest = u ++ v) : (c.advance u.length).rest = v := by
  induction u generalizing c with
  | nil => simpa [Cursor.advance] using h
  | cons x u ih =>
    obtain ⟨i, b, rest⟩ := c
    simp only [List.cons_append] at h
    subst h
    exact ih (c := ⟨i + 1, some x, u ++ v⟩) rfl

/-- What stands at a place can be read from there. -/
theorem ofRest (h : c.rest = u ++ v) : ∃ d, c.Reads u d ∧ d.rest = v := by
  refine ⟨c.advance u.length, ⟨?_, rfl⟩, rest_advance h⟩
  rw [rest_advance h, h]

/-- A text of two pieces is read through the place between them. -/
theorem split (h : c.Reads (u ++ v) e) : ∃ d, c.Reads u d ∧ d.Reads v e := by
  have hrest : c.rest = u ++ (v ++ e.rest) := by rw [h.rest, List.append_assoc]
  obtain ⟨d, hd, hdr⟩ := ofRest hrest
  refine ⟨d, hd, hdr, ?_⟩
  rw [h.stop, hd.stop, advance_add, List.length_append]

/-- The text that is read decides where it leads. -/
theorem eq (h : c.Reads u d) (h' : c.Reads u e) : d = e := by
  rw [h.stop, h'.stop]

/-- The index grows by the length of the text read. -/
theorem index (h : c.Reads u d) : d.index = c.index + u.length := by
  rw [h.stop]
  have hlen : u.length ≤ c.rest.length := by rw [h.rest]; simp
  clear h
  induction u generalizing c with
  | nil => simp [Cursor.advance]
  | cons x u ih =>
    obtain ⟨i, b, rest⟩ := c
    cases rest with
    | nil => simp at hlen
    | cons y ys =>
      have := ih (c := ⟨i + 1, some y, ys⟩) (by simpa using hlen)
      simp only [List.length_cons, Cursor.advance] at this ⊢
      omega

/-- The character before the place reached is the last one read, and the old one if nothing was. -/
theorem before (h : c.Reads u d) : d.before = u.getLast?.or c.before := by
  rw [h.stop]
  have hrest := h.rest
  generalize d.rest = v at hrest
  clear h
  induction u generalizing c with
  | nil => simp [Cursor.advance]
  | cons x u ih =>
    obtain ⟨i, b, rest⟩ := c
    simp only [List.cons_append] at hrest
    subst hrest
    have := ih (c := ⟨i + 1, some x, u ++ v⟩) rfl
    simp only [List.length_cons, Cursor.advance, this]
    cases u with
    | nil => rfl
    | cons y ys => simp [List.getLast?_eq_some_getLast]

/-- What lies between two places is what is read. -/
theorem upTo (h : c.Reads u d) : c.upTo d = u := by
  simp [Cursor.upTo, h.index, h.rest]

/-- Of two places that are read from one, the nearer one lies on the way to the other. -/
theorem linear (h : c.Reads u d) (h' : c.Reads v e) :
    (∃ s, v = u ++ s ∧ d.Reads s e) ∨ (∃ s, u = v ++ s ∧ e.Reads s d) := by
  have hrest : u ++ d.rest = v ++ e.rest := h.rest ▸ h'.rest
  rcases List.append_eq_append_iff.1 hrest with ⟨s, rfl, _⟩ | ⟨s, rfl, _⟩
  · obtain ⟨d', hd, hs⟩ := h'.split
    exact .inl ⟨s, rfl, h.eq hd ▸ hs⟩
  · obtain ⟨e', he, hs⟩ := h.split
    exact .inr ⟨s, rfl, h'.eq he ▸ hs⟩

end Cursor.Reads

/-! ## Where a text does not begin -/

/-- The text `t` begins nowhere inside `w` if `v` follows. -/
def Clear (t w v : List Char) : Prop :=
  ∀ s, s <:+ w → s ≠ [] → ¬ t <+: s ++ v

theorem clear_nil (t v : List Char) : Clear t [] v := by
  intro s hs hne
  exact absurd (List.suffix_nil.1 hs) hne

/-- One character more: the text does not begin at it, and not in the rest. -/
theorem clear_cons {t w v : List Char} {x : Char} :
    Clear t (x :: w) v ↔ ¬ t <+: x :: (w ++ v) ∧ Clear t w v := by
  constructor
  · intro h
    refine ⟨h (x :: w) (List.suffix_refl _) (by simp), ?_⟩
    exact fun s hs hne => h s (hs.trans (List.suffix_cons x w)) hne
  · rintro ⟨hx, h⟩ s hs hne
    rcases List.suffix_cons_iff.1 hs with rfl | hs
    · exact hx
    · exact h s hs hne

/-- Two parts are clear if each is, the first one followed by the second. -/
theorem clear_append {t w w' v : List Char} :
    Clear t (w ++ w') v ↔ Clear t w (w' ++ v) ∧ Clear t w' v := by
  induction w with
  | nil => simp [clear_nil]
  | cons x w ih => simp [clear_cons, ih, and_assoc]

/-- A text does not begin where its first character does not stand. -/
theorem clear_of_head_not_mem {t w v : List Char} {a : Char} (h : a ∉ w) : Clear (a :: t) w v := by
  rintro s hs hne hp
  cases s with
  | nil => exact hne rfl
  | cons x s =>
    have : a = x := (List.cons_prefix_cons.1 hp).1
    exact h (this ▸ hs.subset List.mem_cons_self)

/-- The text `t` differs from every end of `w` within the length of both. -/
def apart (t : List Char) : List Char → Bool
  | [] => true
  | x :: w => !t.isPrefixOf (x :: w) && !(x :: w).isPrefixOf t && apart t w

/-- The test decides it, whatever follows. -/
theorem clear_of_apart {t w v : List Char} (h : apart t w) : Clear t w v := by
  induction w with
  | nil => exact clear_nil t v
  | cons x w ih =>
    simp only [apart, Bool.and_eq_true, Bool.not_eq_true'] at h
    -- what begins at `x` is a prefix of `x :: w`, or `x :: w` is a prefix of it
    refine clear_cons.2 ⟨fun hp => ?_, ih h.2⟩
    rw [← List.cons_append] at hp
    rcases List.prefix_or_prefix_of_prefix hp (List.prefix_append (x :: w) v) with hp | hp
    · simp [List.isPrefixOf_iff_prefix.2 hp] at h
    · simp [List.isPrefixOf_iff_prefix.2 hp] at h

/-- A text with a character that `w` does not have begins in `w` only if it reaches beyond; and it
does not if what follows is a character that does not come before that one. -/
theorem clear_of_not_mem {t₁ t₂ w v : List Char} {a x : Char} (ha : a ∉ w) (hx : x ∉ t₁)
    (hxa : x ≠ a) : Clear (t₁ ++ a :: t₂) w (x :: v) := by
  rintro s hs hne ⟨r, hr⟩
  rw [List.append_assoc, List.cons_append] at hr
  -- the character falls into what is left of `w`, or it lies behind `x`
  rcases List.append_eq_append_iff.1 hr with ⟨m, rfl, hm⟩ | ⟨m, rfl, hm⟩
  · cases m with
    | nil =>
      simp only [List.nil_append, List.cons.injEq] at hm
      exact hxa hm.1.symm
    | cons y m =>
      simp only [List.cons_append, List.cons.injEq] at hm
      exact ha (hs.subset (by simp [hm.1]))
  · cases m with
    | nil =>
      simp only [List.nil_append, List.cons.injEq] at hm
      exact hxa hm.1
    | cons y m =>
      simp only [List.cons_append, List.cons.injEq] at hm
      exact hx (by simp [hm.1])

/-- A text that `w` does not contain begins nowhere in `w` if what follows begins with its first
character and it has that character only once. -/
theorem clear_of_not_infix {t w v : List Char} {a : Char} (ha : a ∉ t) (h : ¬ a :: t <:+: w) :
    Clear (a :: t) w (a :: v) := by
  rintro s hs hne ⟨r, hr⟩
  -- it ends inside `w`, or it reaches `a` a second time
  rcases List.append_eq_append_iff.1 hr with ⟨m, rfl, -⟩ | ⟨m, hm, hr'⟩
  · exact h ((List.prefix_append (a :: t) m).isInfix.trans hs.isInfix)
  · cases s with
    | nil => exact hne rfl
    | cons x s =>
      cases m with
      | nil =>
        have hx : a :: t = x :: s := hm.trans (List.append_nil _)
        exact h (hx ▸ hs.isInfix)
      | cons y m =>
        simp only [List.cons_append, List.cons.injEq] at hm hr'
        exact ha (by simp [hm.2, hr'.1])

/-- A text that `w` does not contain begins nowhere in `w` if what follows begins with a character
that it does not have. -/
theorem clear_of_not_infix_of_head {t w v : List Char} (h : ¬ t <:+: w)
    (hv : ∀ x ∈ v.head?, x ∉ t) : Clear t w v := by
  rintro s hs hne ⟨r, hr⟩
  rcases List.append_eq_append_iff.1 hr with ⟨m, rfl, -⟩ | ⟨m, rfl, rfl⟩
  · exact h ((List.prefix_append t m).isInfix.trans hs.isInfix)
  · cases m with
    | nil => exact h (by simpa using hs.isInfix)
    | cons x m => exact hv x (by simp) (by simp)

/-- What follows begins with a character the text does not have. -/
theorem clear_of_not_infix_of_not_mem {t w v : List Char} {x : Char} (h : ¬ t <:+: w)
    (hx : x ∉ t) : Clear t w (x :: v) := by
  refine clear_of_not_infix_of_head h ?_
  simp only [List.head?_cons, Option.mem_some_iff, forall_eq']
  exact hx

/-- A text whose last character is not in `w` begins nowhere in `w`, with that character behind it,
if `w` does not end in the rest of the text. -/
theorem clear_of_not_suffix {t w v : List Char} {x : Char} (ht : x ∉ t) (hw : x ∉ w)
    (h : ¬ t <:+ w) : Clear (t ++ [x]) w (x :: v) := by
  rintro s hs - ⟨r, hr⟩
  -- the last character is the one behind `w`, as it occurs neither in `w` nor earlier in the text
  rcases List.append_eq_append_iff.1 hr with ⟨m, rfl, -⟩ | ⟨m, hm, hv⟩
  · exact hw (hs.subset (by simp))
  · cases m with
    | nil =>
      rw [List.append_nil] at hm
      exact hw (hs.subset (by simp [← hm]))
    | cons y m =>
      obtain rfl : x = y := (List.cons.inj hv).1
      rcases List.append_eq_append_iff.1 hm with ⟨n, rfl, hn⟩ | ⟨n, rfl, hn⟩
      · cases n with
        | nil => exact h (by simpa using hs)
        | cons z n => simp at hn
      · cases n with
        | nil => exact h (by simpa using hs)
        | cons z n => exact ht (by simp [(List.cons.inj hn).1])

/-- What begins nowhere in a text is not contained in it. -/
theorem not_infix_of_clear {t w v : List Char} (ht : t ≠ []) (h : Clear t w v) : ¬ t <:+: w := by
  rintro ⟨x, y, rfl⟩
  refine h (t ++ y) ?_ (List.append_ne_nil_of_left_ne_nil ht _) ?_
  · rw [List.append_assoc]
    exact List.suffix_append _ _
  · rw [List.append_assoc]
    exact List.prefix_append _ _

/-! ## The ways of a single piece -/

namespace Pattern

variable {a b : Pattern} {c d e : Cursor} {u v t : List Char} {p : Char → Bool} {greedy : Bool}

/-- A text that stands at the place is read in one way, with no mark. -/
theorem ways_text {s : String} (h : c.Reads s.toList d) : (text s).ways c = [⟨d, []⟩] := by
  have hpre : s.toList <+: c.rest := by
    rw [h.rest]
    exact List.prefix_append _ _
  simp [text, ways, hpre, hpre.length_le, Option.filter, h.stop]

theorem ways_text_eq_nil {s : String} (h : ¬ s.toList <+: c.rest) : (text s).ways c = [] := by
  simp [text, ways, h]

theorem ways_char {x : Char} (h : c.Reads [x] d) (hx : p x) : (char p).ways c = [⟨d, []⟩] := by
  simp [char, ways, h.rest, hx, Option.filter, h.stop]

/-- Nothing is read at the end, or at a character outside the class. -/
theorem ways_char_eq_nil (h : c.rest.head?.any p = false) : (char p).ways c = [] := by
  simp [char, ways, h]

/-- A run stops at the places that are reached over characters of its class. -/
theorem mem_stopsFrom_iff :
    d ∈ stopsFrom p c.index c.before c.rest ↔ ∃ u, c.Reads u d ∧ ∀ x ∈ u, p x := by
  obtain ⟨i, b, rest⟩ := c
  induction rest generalizing i b with
  | nil =>
    simp only [stopsFrom, List.mem_singleton]
    constructor
    · rintro rfl
      exact ⟨[], .nil _, by simp⟩
    · rintro ⟨u, hu, -⟩
      have : u = [] := (List.append_eq_nil_iff.1 hu.rest.symm).1
      subst this
      exact hu.eq (.nil _)
  | cons x rest ih =>
    have step : Cursor.Reads ⟨i, b, x :: rest⟩ [x] ⟨i + 1, some x, rest⟩ := ⟨rfl, rfl⟩
    -- the run stops before `x`, or reads it and stops later
    simp only [stopsFrom, List.mem_cons]
    constructor
    · rintro (rfl | h)
      · exact ⟨[], .nil _, by simp⟩
      · split at h
        · rename_i hx
          obtain ⟨u, hu, hall⟩ := (ih (i + 1) (some x)).1 h
          exact ⟨x :: u, step.trans hu, by simpa [hx] using hall⟩
        · simp at h
    · rintro ⟨u, hu, hall⟩
      cases u with
      | nil => exact .inl (hu.eq (.nil _))
      | cons y u =>
        obtain ⟨d', hd', hu'⟩ := Cursor.Reads.split (u := [y]) hu
        obtain rfl : x = y := (List.cons.inj hu.rest).1
        obtain rfl := step.eq hd'
        have hx : p x = true := hall x (by simp)
        rw [if_pos hx]
        exact .inr ((ih (i + 1) (some x)).2 ⟨u, hu', fun z hz => hall z (by simp [hz])⟩)

/-- A run can stop at each place once. -/
private theorem nodup_stopsFrom (p : Char → Bool) (i : Nat) (b : Option Char) (cs : List Char) :
    (stopsFrom p i b cs).Nodup := by
  -- the places come in the order of the text
  have later (p : Char → Bool) (i : Nat) (b : Option Char) (cs : List Char) :
      ∀ d ∈ stopsFrom p i b cs, i ≤ d.index := by
    intro d hd
    obtain ⟨u, hu, -⟩ := mem_stopsFrom_iff (c := ⟨i, b, cs⟩) |>.1 hd
    rw [hu.index]
    exact Nat.le_add_right _ _
  induction cs generalizing i b with
  | nil => simp [stopsFrom]
  | cons x cs ih =>
    simp only [stopsFrom, List.nodup_cons]
    split
    · refine ⟨fun hmem => ?_, ih _ _⟩
      have := later p (i + 1) (some x) cs _ hmem
      dsimp only at this
      omega
    · simp

/-! ## The ways of a sequence -/

/-- If the first pattern has one way and no mark, the second one goes on from its end. -/
theorem ways_seq_of_single (h : a.ways c = [⟨d, []⟩]) : (seq a b).ways c = b.ways d := by
  simp [ways, h]

theorem ways_seq_eq_nil (h : a.ways c = []) : (seq a b).ways c = [] := by
  simp [ways, h]

/-- Sequences may be bracketed either way. -/
theorem ways_seq_assoc (a b f : Pattern) (c : Cursor) :
    (seq (seq a b) f).ways c = (seq a (seq b f)).ways c := by
  have happend (x y : Way) : (x.append y).append = x.append ∘ y.append :=
    funext fun z => Way.append_assoc x y z
  simp only [ways, List.flatMap_assoc, List.map_flatMap, List.flatMap_map, List.map_map, happend]
  rfl

theorem ways_seq_text {s : String} (h : c.Reads s.toList d) :
    (seq (text s) b).ways c = b.ways d :=
  ways_seq_of_single (ways_text h)

/-- Two texts in a row are one text. -/
theorem ways_seq_text_text (s s' : String) (b : Pattern) (c : Cursor) :
    (seq (text s) (seq (text s') b)).ways c = (seq (text (s ++ s')) b).ways c := by
  -- both stand there, or one of them does not
  by_cases h : (s ++ s').toList <+: c.rest
  · obtain ⟨v, hv⟩ := h
    obtain ⟨d, hd, -⟩ := Cursor.Reads.ofRest hv.symm
    obtain ⟨e, he, hed⟩ := Cursor.Reads.split (String.toList_append ▸ hd)
    rw [ways_seq_text hd, ways_seq_text he, ways_seq_text hed]
  · rw [ways_seq_eq_nil (ways_text_eq_nil h)]
    by_cases hs : s.toList <+: c.rest
    · obtain ⟨v, hv⟩ := hs
      obtain ⟨d, hd, hdv⟩ := Cursor.Reads.ofRest hv.symm
      rw [ways_seq_text hd, ways_seq_eq_nil (ways_text_eq_nil fun hs' => h ?_)]
      rw [String.toList_append, ← hv, List.prefix_append_right_inj, ← hdv]
      exact hs'
    · rw [ways_seq_eq_nil (ways_text_eq_nil hs)]

/-- The second pattern of a sequence counts by its ways alone. -/
theorem ways_seq_congr {f : Pattern} (h : ∀ d, b.ways d = f.ways d) :
    (seq a b).ways c = (seq a f).ways c := by
  simp only [ways, h]

theorem ways_seq_char {x : Char} (h : c.Reads [x] d) (hx : p x) :
    (seq (char p) b).ways c = b.ways d :=
  ways_seq_of_single (ways_char h hx)

/-- A mark in front of a pattern notes the place in each way of it. -/
theorem ways_seq_mark (n : Nat) : (seq (mark n) b).ways c = (b.ways c).map (·.remember n c) := by
  simp [ways, Way.remember_eq_append]

/-- A remembered piece of a sequence: its two ends are remembered around it. -/
theorem ways_seq_group (n : Nat) :
    (seq (group n a) b).ways c =
      ((seq a (seq (mark n) b)).ways c).map (·.remember n c) := by
  simp only [group, all]
  rw [ways_seq_assoc, ways_seq_mark, ways_seq_assoc]

/-- The ways of a choice come in order, and so do those of what follows it. -/
theorem ways_seq_alt (a f b : Pattern) (c : Cursor) :
    (seq (alt a f) b).ways c = (seq a b).ways c ++ (seq f b).ways c := by
  simp [ways]

theorem ways_seq_alt_right {f : Pattern} (h : a.ways c = []) :
    (seq (alt a f) b).ways c = (seq f b).ways c := by
  simp [ways, h]

/-! ## Runs in a sequence -/

/-- In a list without repetition one element alone gives something. -/
private theorem flatMap_eq_of_unique {α β : Type} {l : List α} {f : α → List β} {x : α}
    (hnodup : l.Nodup) (hx : x ∈ l) (hne : ∀ y ∈ l, y ≠ x → f y = []) : l.flatMap f = f x := by
  induction l with
  | nil => simp at hx
  | cons y l ih =>
    rw [List.nodup_cons] at hnodup
    rw [List.flatMap_cons]
    rcases List.mem_cons.1 hx with rfl | hx
    · have : l.flatMap f = [] := by
        rw [List.flatMap_eq_nil_iff]
        exact fun z hz => hne z (by simp [hz]) (fun h => hnodup.1 (h ▸ hz))
      rw [this, List.append_nil]
    · have hy : f y = [] := hne y (by simp) (fun h => hnodup.1 (h ▸ hx))
      rw [hy, List.nil_append]
      exact ih hnodup.2 hx fun z hz => hne z (by simp [hz])

/-- A run has one way if the sequence can go on from one of its places only. -/
theorem ways_seq_run_of_unique (h : c.Reads u d) (hu : ∀ x ∈ u, p x)
    (hne : ∀ u' e, c.Reads u' e → (∀ x ∈ u', p x) → e ≠ d → b.ways e = []) :
    (seq (run p greedy) b).ways c = b.ways d := by
  have hmem : d ∈ stopsFrom p c.index c.before c.rest := mem_stopsFrom_iff.2 ⟨u, h, hu⟩
  have hnodup := nodup_stopsFrom p c.index c.before c.rest
  -- one of the places leads on, and it is listed once
  have hother : ∀ e ∈ stopsFrom p c.index c.before c.rest, e ≠ d → b.ways e = [] := by
    intro e he hed
    obtain ⟨u', hu', hall⟩ := mem_stopsFrom_iff.1 he
    exact hne u' e hu' hall hed
  simp only [ways, List.flatMap_map, Way.append_of_marks_nil, List.map_id]
  cases greedy with
  | true =>
    refine flatMap_eq_of_unique ?_ (by simpa using hmem) fun e he => hother e (by simpa using he)
    exact List.pairwise_reverse.2 (hnodup.imp fun h => h.symm)
  | false => exact flatMap_eq_of_unique hnodup hmem hother

/-- A run that goes as far as it can has one way if the rest of the sequence cannot begin with a
character of the run. -/
theorem ways_seq_run_of_stop (h : c.Reads u d) (hu : ∀ x ∈ u, p x)
    (hd : ∀ x ∈ d.rest.head?, ¬ p x)
    (hb : ∀ e : Cursor, e.rest.head?.any p = true → b.ways e = []) :
    (seq (run p greedy) b).ways c = b.ways d := by
  refine ways_seq_run_of_unique h hu fun u' e he hu' hne => ?_
  -- a longer run is not possible, and from a shorter one the sequence does not go on
  rcases h.linear he with ⟨s, rfl, hs⟩ | ⟨s, rfl, hs⟩
  · cases s with
    | nil => exact absurd (hs.eq (.nil d)) hne
    | cons x s => exact absurd (hu' x (by simp)) (hd x (by simp [hs.rest]))
  · cases s with
    | nil => exact absurd (hs.eq (.nil e)).symm hne
    | cons x s =>
      refine hb e ?_
      rw [hs.rest]
      simpa using hu x (by simp)

/-- At least one character: the first is read, the rest is any run. -/
private theorem ways_seq_many1_cons {x : Char} (h : c.Reads [x] d) (hx : p x) :
    (seq (many1 p) b).ways c = (seq (many p) b).ways d := by
  rw [many1, ways_seq_assoc, ways_seq_char h hx]
  rfl

/-- The same for a run of at least one character. -/
theorem ways_seq_many1_of_stop (h : c.Reads u d) (hne : u ≠ []) (hu : ∀ x ∈ u, p x)
    (hd : ∀ x ∈ d.rest.head?, ¬ p x)
    (hb : ∀ e : Cursor, e.rest.head?.any p = true → b.ways e = []) :
    (seq (many1 p) b).ways c = b.ways d := by
  cases u with
  | nil => exact absurd rfl hne
  | cons x u =>
    obtain ⟨e, he, hu'⟩ := Cursor.Reads.split (u := [x]) h
    rw [ways_seq_many1_cons he (hu x (by simp))]
    exact ways_seq_run_of_stop hu' (fun y hy => hu y (by simp [hy])) hd hb

/-- A run stops in front of a character, and behind it as well if it can take it. -/
private theorem stopsFrom_of_reads {x : Char} (h : c.Reads [x] d) :
    stopsFrom p c.index c.before c.rest =
      c :: if p x then stopsFrom p d.index d.before d.rest else [] := by
  obtain ⟨i, o, rest⟩ := c
  obtain ⟨j, o', rest'⟩ := d
  obtain ⟨hrest, hstop⟩ := h
  simp only [List.singleton_append] at hrest
  subst hrest
  obtain ⟨rfl, rfl, -⟩ : j = i + 1 ∧ o' = some x ∧ rest' = rest' := by
    simpa [Cursor.advance] using hstop
  rfl

/-- A greedy run first goes on, and then stops. -/
private theorem ways_seq_many_cons {x : Char} (h : c.Reads [x] d) :
    (seq (many p) b).ways c = (if p x then (seq (many p) b).ways d else []) ++ b.ways c := by
  simp only [many, ways, stopsFrom_of_reads h, List.flatMap_map, Way.append_of_marks_nil,
    List.map_id, if_true, List.reverse_cons, List.flatMap_append, List.flatMap_cons,
    List.flatMap_nil, List.append_nil]
  split <;> rfl

/-- A run of as many characters as can be ends where no further one can be read, if the sequence
goes on from there. -/
theorem head?_ways_seq_many {w : Way} (h : c.Reads u d) (hu : ∀ x ∈ u, p x)
    (hd : ∀ x ∈ d.rest.head?, ¬ p x) (hb : (b.ways d).head? = some w) :
    ((seq (many p) b).ways c).head? = some w := by
  induction u generalizing c with
  -- nothing more to read: the run stops at once, as the next character is not of the class
  | nil =>
    obtain rfl := h.eq (.nil c)
    obtain ⟨i, o, rest⟩ := d
    cases rest with
    | nil => simpa [many, ways, stopsFrom] using hb
    | cons x rest => simpa [many, ways, stopsFrom, hd x (by simp)] using hb
  | cons x u ih =>
    -- the ways of the longer run come first
    obtain ⟨e, he, hu'⟩ := Cursor.Reads.split (u := [x]) h
    have hlonger := ih hu' fun y hy => hu y (by simp [hy])
    rw [ways_seq_many_cons he, if_pos (hu x (by simp)), List.head?_append, hlonger]
    rfl

/-- The same for a run of at least one character. -/
theorem head?_ways_seq_many1 {w : Way} (h : c.Reads u d) (hne : u ≠ []) (hu : ∀ x ∈ u, p x)
    (hd : ∀ x ∈ d.rest.head?, ¬ p x) (hb : (b.ways d).head? = some w) :
    ((seq (many1 p) b).ways c).head? = some w := by
  cases u with
  | nil => exact absurd rfl hne
  | cons x u =>
    obtain ⟨e, he, hu'⟩ := Cursor.Reads.split (u := [x]) h
    rw [ways_seq_many1_cons he (hu x (by simp))]
    exact head?_ways_seq_many hu' (fun y hy => hu y (by simp [hy])) hd hb

/-- A sequence that begins with a text has no way where another character stands. -/
theorem ways_seq_text_eq_nil {s : String} {x : Char} (hs : s.toList.head? = some x)
    (hc : x ∉ c.rest.head?) : (seq (text s) b).ways c = [] := by
  refine ways_seq_eq_nil (ways_text_eq_nil fun h => hc ?_)
  obtain ⟨r, hr⟩ := h
  -- the text begins with `x`, and what stands there does not
  cases hl : s.toList with
  | nil => simp [hl] at hs
  | cons y l =>
    obtain rfl : y = x := by simpa [hl] using hs
    simp [← hr, hl]

/-- So it has none where a run goes on that does not take the first character of the text. -/
theorem ways_seq_text_eq_nil_of_any {s : String} {x : Char} (hs : s.toList.head? = some x)
    (hx : p x = false) (hc : c.rest.head?.any p) : (seq (text s) b).ways c = [] := by
  refine ways_seq_text_eq_nil hs fun hmem => ?_
  rw [Option.mem_def.1 hmem, Option.any_some, hx] at hc
  exact absurd hc (by simp)

/-- A run up to a text has one way if the text occurs in its reach only once. The reach is `u`, the
text, `w`, and ends before `v`. -/
theorem ways_seq_run_text {s : String} {w : List Char} {x : Char} (hs : s.toList = x :: t)
    (h : c.Reads u d) (ht : d.Reads s.toList e) (he : e.rest = w ++ v) (hu : ∀ x ∈ u, p x)
    (hv : ∀ x ∈ v.head?, ¬ p x) (hbefore : Clear s.toList u d.rest)
    (hafter : Clear s.toList (t ++ w) v) (hend : ¬ s.toList <+: v) :
    (seq (run p greedy) (seq (text s) b)).ways c = b.ways e := by
  rw [← ways_seq_text (b := b) ht]
  refine ways_seq_run_of_unique h hu fun u' e' he' hu' hne => ways_seq_eq_nil (ways_text_eq_nil ?_)
  rcases h.linear he' with ⟨r, rfl, hr⟩ | ⟨r, rfl, hr⟩
  · -- the run goes on behind the place where the text begins
    have hrest : x :: (t ++ w) ++ v = r ++ e'.rest := by
      rw [← hr.rest, ht.rest, he, hs]
      simp
    rcases List.append_eq_append_iff.1 hrest with ⟨m, rfl, hm⟩ | ⟨m, hm, hrest'⟩
    · cases m with
      | nil => simpa [hm] using hend
      | cons y m => exact absurd (hu' y (by simp)) (hv y (by simp [hm]))
    · cases r with
      | nil => exact absurd (hr.eq (.nil d)) hne
      | cons y r =>
        rw [hrest']
        cases m with
        | nil => simpa using hend
        | cons z m =>
          simp only [List.cons_append, List.cons.injEq] at hm
          exact hafter _ (hm.2 ▸ List.suffix_append r (z :: m)) (by simp)
  · -- the run ends before it
    rw [hr.rest]
    cases r with
    | nil => exact absurd (hr.eq (.nil e')).symm hne
    | cons y r => exact hbefore _ (List.suffix_append u' (y :: r)) (by simp)

/-- A lazy run first stops, and then goes on. -/
private theorem ways_seq_few_cons {x : Char} (h : c.Reads [x] d) :
    (seq (few p) b).ways c = b.ways c ++ if p x then (seq (few p) b).ways d else [] := by
  simp only [few, ways, stopsFrom_of_reads h, List.flatMap_map, Way.append_of_marks_nil,
    List.map_id, Bool.false_eq_true, if_false, List.flatMap_cons]
  split <;> rfl

/-- A run of as few characters as can be ends at the first place from which the sequence goes on. -/
theorem head?_ways_seq_few {w : Way} (h : c.Reads u d) (hu : ∀ x ∈ u, p x)
    (hbefore : ∀ u' s e, u = u' ++ s → s ≠ [] → c.Reads u' e → b.ways e = [])
    (hb : (b.ways d).head? = some w) : ((seq (few p) b).ways c).head? = some w := by
  induction u generalizing c with
  -- the run stops here, and its first way is the one of what follows
  | nil =>
    obtain rfl := h.eq (.nil c)
    cases hrest : d.rest with
    | nil =>
      obtain ⟨i, o, rest⟩ := d
      subst hrest
      simpa [few, ways, stopsFrom] using hb
    | cons x xs =>
      obtain ⟨e, he, -⟩ := Cursor.Reads.ofRest (c := d) (u := [x]) hrest
      simp [ways_seq_few_cons he, hb]
  | cons x u ih =>
    -- here nothing follows, so the run takes the character
    obtain ⟨e, he, hu'⟩ := Cursor.Reads.split (u := [x]) h
    have hc : b.ways c = [] := hbefore [] (x :: u) c rfl (by simp) (.nil c)
    rw [ways_seq_few_cons he, hc, List.nil_append, if_pos (hu x (by simp))]
    refine ih hu' (fun y hy => hu y (by simp [hy])) fun u' s f hus hs hf => ?_
    exact hbefore (x :: u') s f (by rw [hus]; rfl) hs (he.trans hf)

/-- Where a run of as few characters as can be ends, the sequence goes on, and it does so from no
place before. -/
theorem exists_of_head?_ways_seq_few {w : Way} (h : ((seq (few p) b).ways c).head? = some w) :
    ∃ u d, c.Reads u d ∧ (b.ways d).head? = some w ∧
      ∀ u' s e, u = u' ++ s → s ≠ [] → c.Reads u' e → b.ways e = [] := by
  have here (c : Cursor) (hb : (b.ways c).head? = some w) :
      ∃ u d, c.Reads u d ∧ (b.ways d).head? = some w ∧
        ∀ u' s e, u = u' ++ s → s ≠ [] → c.Reads u' e → b.ways e = [] := by
    refine ⟨[], c, .nil c, hb, fun u' s e hus hs => ?_⟩
    exact absurd (List.append_eq_nil_iff.1 hus.symm).2 hs
  -- by induction on the text behind the place: the run stops here, or takes a character
  generalize hrest : c.rest = rest at h
  induction rest generalizing c with
  | nil =>
    obtain ⟨i, o, r⟩ := c
    subst hrest
    exact here _ (by simpa [few, ways, stopsFrom] using h)
  | cons x rest ih =>
    obtain ⟨e, he, her⟩ := Cursor.Reads.ofRest (c := c) (u := [x]) hrest
    rw [ways_seq_few_cons he] at h
    cases hb : b.ways c with
    | cons v vs =>
      refine here c ?_
      simpa [hb] using h
    | nil =>
      rw [hb, List.nil_append] at h
      split at h
      · obtain ⟨u, d, hd, hw, hno⟩ := ih h her
        refine ⟨x :: u, d, he.trans hd, hw, fun u' s f hus hs hf => ?_⟩
        -- `u'` ends before the character, where nothing follows, or behind it
        cases u' with
        | nil => rw [← (Cursor.Reads.nil c).eq hf, hb]
        | cons y u' =>
          simp only [List.cons_append, List.cons.injEq] at hus
          obtain ⟨rfl, hus⟩ := hus
          obtain ⟨e', he', hf'⟩ := Cursor.Reads.split (u := [x]) hf
          exact hno u' s f hus hs (he.eq he' ▸ hf')
      · simp at h

/-! ## The parts of a way -/

/-- A way of a sequence is one of each pattern, the second from where the first ends. -/
theorem exists_of_mem_ways_seq {w : Way} (h : w ∈ (seq a b).ways c) :
    ∃ v ∈ a.ways c, ∃ v' ∈ b.ways v.stop, w = v.append v' := by
  simp only [ways, List.mem_flatMap, List.mem_map] at h
  obtain ⟨v, hv, v', hv', rfl⟩ := h
  exact ⟨v, hv, v', hv', rfl⟩

/-- A text is read as it stands. -/
theorem exists_of_mem_ways_text {s : String} {w : Way} (h : w ∈ (text s).ways c) :
    ∃ d, c.Reads s.toList d ∧ w = ⟨d, []⟩ := by
  by_cases hs : s.toList <+: c.rest
  · obtain ⟨v, hv⟩ := hs
    obtain ⟨d, hd, -⟩ := Cursor.Reads.ofRest hv.symm
    exact ⟨d, hd, by simpa [ways_text hd] using h⟩
  · simp [ways_text_eq_nil hs] at h

/-- A run reads characters of its class. -/
theorem exists_of_mem_ways_run {w : Way} (h : w ∈ (run p greedy).ways c) :
    ∃ u d, c.Reads u d ∧ (∀ x ∈ u, p x) ∧ w = ⟨d, []⟩ := by
  simp only [ways, List.mem_map] at h
  obtain ⟨d, hd, rfl⟩ := h
  have hmem : d ∈ stopsFrom p c.index c.before c.rest := by
    cases greedy <;> simpa using hd
  obtain ⟨u, hu, hall⟩ := mem_stopsFrom_iff.1 hmem
  exact ⟨u, d, hu, hall, rfl⟩

/-- One character of the class is read. -/
theorem exists_of_mem_ways_char {w : Way} (h : w ∈ (char p).ways c) :
    ∃ x d, c.Reads [x] d ∧ p x ∧ w = ⟨d, []⟩ := by
  cases hrest : c.rest with
  | nil => simp [ways_char_eq_nil (p := p) (c := c) (by simp [hrest])] at h
  | cons x rest =>
    by_cases hx : p x
    · obtain ⟨d, hd, -⟩ := Cursor.Reads.ofRest (c := c) (u := [x]) hrest
      exact ⟨x, d, hd, hx, by simpa [ways_char hd hx] using h⟩
    · simp [ways_char_eq_nil (p := p) (c := c) (by simp [hrest, hx])] at h

/-- At least one character of the class is read. -/
theorem exists_of_mem_ways_many1 {w : Way} (h : w ∈ (many1 p).ways c) :
    ∃ u d, c.Reads u d ∧ u ≠ [] ∧ (∀ x ∈ u, p x) ∧ w = ⟨d, []⟩ := by
  obtain ⟨v, hv, v', hv', rfl⟩ := exists_of_mem_ways_seq h
  obtain ⟨x, e, he, hx, rfl⟩ := exists_of_mem_ways_char hv
  obtain ⟨u, d, hd, hall, rfl⟩ := exists_of_mem_ways_run hv'
  exact ⟨x :: u, d, he.trans hd, by simp, by simpa [hx] using hall, rfl⟩

/-- A group reads what its pattern does, and notes both its ends. -/
theorem exists_of_mem_ways_group {n : Nat} {w : Way} (h : w ∈ (group n a).ways c) :
    ∃ v ∈ a.ways c, w = ⟨v.stop, (n, c) :: (v.marks ++ [(n, v.stop)])⟩ := by
  obtain ⟨v, hv, w', hw', rfl⟩ := exists_of_mem_ways_seq h
  obtain ⟨v', hv', w'', hw'', rfl⟩ := exists_of_mem_ways_seq hw'
  simp only [all, ways, List.mem_singleton] at hv hw''
  subst hv hw''
  exact ⟨v', hv', rfl⟩

/-- The first way of a sequence goes on from some way of its first pattern, and it does so in the
first way of the rest. -/
theorem exists_of_head?_ways_seq {w : Way} (h : ((seq a b).ways c).head? = some w) :
    ∃ v w', v ∈ a.ways c ∧ (b.ways v.stop).head? = some w' ∧ w = v.append w' := by
  simp only [ways, List.head?_flatMap, List.head?_map] at h
  obtain ⟨v, hv, hw⟩ := List.exists_of_findSome?_eq_some h
  obtain ⟨w', hw', rfl⟩ := Option.map_eq_some_iff.1 hw
  exact ⟨v, w', hv, hw', rfl⟩

/-- A sequence of several patterns is the first one and the sequence of the others. -/
theorem ways_all_cons {as : List Pattern} (h : as ≠ []) : all (a :: as) = seq a (all as) := by
  cases as with
  | nil => exact absurd rfl h
  | cons b bs => rfl

end Pattern

end SceneBoard.Text
