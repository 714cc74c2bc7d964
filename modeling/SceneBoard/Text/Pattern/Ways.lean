import SceneBoard.Text.Pattern

/-!
# The ways of a pattern

`Pattern.ways` lists everything that a pattern can do at a place, in the order of preference. It is
the plain account of what `Pattern.table` computes without making the lists: from every place the
first way that can be continued (`table_map_eq`). Statements about matches are proved from the list,
where "the pattern can match so" is membership and "it prefers this" is order: a search finds, from
each place that has a way, the first of them (`starts_eq`).
-/

namespace SceneBoard.Text

/-- The place a number of characters further on, or the end of the text. -/
def Cursor.advance : Nat → Cursor → Cursor
  | n + 1, ⟨i, _, c :: cs⟩ => advance n ⟨i + 1, some c, cs⟩
  | _, c => c

/-- The places reached from a place by stepping over characters of a class, the nearest first. -/
def stopsFrom (p : Char → Bool) (index : Nat) (before : Option Char) : List Char → List Cursor
  | [] => [⟨index, before, []⟩]
  | c :: cs => ⟨index, before, c :: cs⟩ :: if p c then stopsFrom p (index + 1) (some c) cs else []

/-- A way and then another. -/
def Way.append (v w : Way) : Way :=
  ⟨w.stop, v.marks ++ w.marks⟩

@[simp] theorem Way.append_of_marks_nil (c : Cursor) : Way.append ⟨c, []⟩ = id := by
  funext w
  simp [Way.append]

theorem Way.append_assoc (u v w : Way) : (u.append v).append w = u.append (v.append w) := by
  simp [Way.append]

/-- To remember a place is to put the way that marks it in front. -/
theorem Way.remember_eq_append (n : Nat) (c : Cursor) :
    Way.remember n c = Way.append ⟨c, [(n, c)]⟩ := by
  funext w
  simp [Way.remember, Way.append]

namespace Pattern

/-- The ways to go on from a place through the pattern, the preferred ones first. -/
def ways : Pattern → Cursor → List Way
  | .piece length?, c =>
    ((length? c.rest).filter (· ≤ c.rest.length)).toList.map fun n => ⟨c.advance n, []⟩
  | .seq a b, c => (a.ways c).flatMap fun v => (b.ways v.stop).map v.append
  | .alt a b, c => a.ways c ++ b.ways c
  | .run p greedy, c =>
    let stops := stopsFrom p c.index c.before c.rest
    (if greedy then stops.reverse else stops).map fun d => ⟨d, []⟩
  | .mark n, c => [⟨c, [(n, c)]⟩]
  | .anchor t, c => if t.holds c then [⟨c, []⟩] else []

/-- The first way from a place that can be continued, with its continuation. -/
def first (a : Pattern) (follow : Cursor → Option Way) (c : Cursor) : Option Way :=
  (a.ways c).findSome? fun v => (follow v.stop).map v.append

/-! ## The table -/

/-- The places are reached by going on, until the end of the text. -/
private theorem getElem?_placesFrom (i : Nat) (b : Option Char) (cs : List Char) (n : Nat) :
    (placesFrom i b cs)[n]? = if n ≤ cs.length then some (Cursor.advance n ⟨i, b, cs⟩) else none := by
  induction cs generalizing i b n with
  | nil => cases n <;> simp [placesFrom, Cursor.advance]
  | cons c cs ih => cases n <;> simp [placesFrom, Cursor.advance, ih]

/-- The column of a piece has at each place what the piece finds there. -/
private theorem afterPieces_map (length? : List Char → Option Nat) (follow : Cursor → Option Way)
    (i : Nat) (b : Option Char) (cs : List Char) :
    afterPieces length? (placesFrom i b cs) ((placesFrom i b cs).map follow) =
      (placesFrom i b cs).map ((Pattern.piece length?).first follow) := by
  have head (i : Nat) (b : Option Char) (cs : List Char) :
      -- at one place: the piece goes on by as many characters as it takes, if there are so many
      ((length? cs).bind fun n => ((placesFrom i b cs).map follow)[n]?.join) =
        (Pattern.piece length?).first follow ⟨i, b, cs⟩ := by
    simp only [first, ways, List.getElem?_map, getElem?_placesFrom]
    cases length? cs with
    | none => rfl
    | some n => by_cases h : n ≤ cs.length <;> simp [Option.filter, h]
  induction cs generalizing i b with
  | nil => simpa [placesFrom, afterPieces] using head i b []
  | cons c cs ih => simpa [placesFrom, afterPieces, ih] using head i b (c :: cs)

private theorem head?_placesFrom (i : Nat) (b : Option Char) (cs : List Char) :
    (placesFrom i b cs).head? = some ⟨i, b, cs⟩ := by
  cases cs <;> rfl

/-- The column of a run has at each place what the run finds there. -/
private theorem afterRuns_map (p : Char → Bool) (greedy : Bool) (follow : Cursor → Option Way)
    (i : Nat) (b : Option Char) (cs : List Char) :
    afterRuns p greedy (placesFrom i b cs) ((placesFrom i b cs).map follow) =
      (placesFrom i b cs).map ((Pattern.run p greedy).first follow) := by
  induction cs generalizing i b with
  | nil => cases greedy <;> simp [placesFrom, afterRuns, first, ways, stopsFrom]
  | cons c cs ih =>
    simp only [placesFrom, List.map_cons, afterRuns, ih, List.cons.injEq, and_true, List.head?_map,
      head?_placesFrom]
    -- a longer run from here is a run from the next place
    cases greedy <;> by_cases h : p c <;> cases hf : follow ⟨i, b, c :: cs⟩ <;>
      simp [first, ways, stopsFrom, h, hf, List.findSome?_append, List.findSome?_map,
        Function.comp_def]

/-- The first result of all lists is the first result of the first list that has one. -/
private theorem findSome?_flatMap {α β γ : Type} (f : α → List β) (g : β → Option γ) (as : List α) :
    (as.flatMap f).findSome? g = as.findSome? fun a => (f a).findSome? g := by
  induction as with
  | nil => rfl
  | cons a as ih =>
    rw [List.flatMap_cons, List.findSome?_append, List.findSome?_cons, ih]
    cases (f a).findSome? g <;> rfl

/-- The first way through one pattern and then another. -/
theorem first_seq (a b : Pattern) (follow : Cursor → Option Way) (c : Cursor) :
    (Pattern.seq a b).first follow c = a.first (b.first follow) c := by
  -- the ways of the first, each with what follows the second
  simp only [first, ways, findSome?_flatMap, List.findSome?_map, List.map_findSome?]
  congr 1
  funext u
  congr 1
  funext v
  simp only [Function.comp_apply, Option.map_map, Function.comp_def, ← Way.append_assoc]
  rfl

/-- The first way through one pattern or else another. -/
theorem first_alt (a b : Pattern) (follow : Cursor → Option Way) (c : Cursor) :
    (Pattern.alt a b).first follow c = (a.first follow c).or (b.first follow c) := by
  simp [first, ways, List.findSome?_append]

private theorem zipWith_map {α β γ δ : Type} (f : β → γ → δ) (g : α → β) (h : α → γ) (as : List α) :
    List.zipWith f (as.map g) (as.map h) = as.map fun a => f (g a) (h a) := by
  simp [List.zipWith_map, List.zipWith_self]

/-- The table holds the first way from every place. -/
theorem table_map_eq (a : Pattern) (follow : Cursor → Option Way) (i : Nat) (b : Option Char)
    (cs : List Char) :
    a.table (placesFrom i b cs) ((placesFrom i b cs).map follow) =
      (placesFrom i b cs).map (a.first follow) := by
  -- what follows the first of two patterns is the second, with what follows that one
  induction a generalizing follow with
  | piece length? => exact afterPieces_map length? follow i b cs
  | seq a a' iha iha' =>
    rw [table, iha', iha]
    simp only [List.map_inj_left]
    intro c _
    exact (first_seq a a' follow c).symm
  | alt a a' iha iha' =>
    rw [table, iha, iha', zipWith_map]
    simp only [List.map_inj_left]
    intro c _
    exact (first_alt a a' follow c).symm
  | run p greedy => exact afterRuns_map p greedy follow i b cs
  | mark n =>
    simp only [table, List.zipWith_map_right, List.zipWith_self]
    simp [first, ways, Way.remember_eq_append]
  | anchor t =>
    simp only [table, List.zipWith_map_right, List.zipWith_self, List.map_inj_left]
    intro c _
    by_cases h : t.holds c <;> simp [first, ways, h]

/-! ## Searching -/

/-- A search finds, from each place that has a way, the first of them. -/
theorem starts_eq (a : Pattern) (cs : List Char) :
    a.starts cs = (places cs).filterMap fun c =>
      ((a.ways c).head?).map fun w => ⟨c, w.stop, w.marks⟩ := by
  have first_eq (c : Cursor) : a.first (fun c => some ⟨c, []⟩) c = (a.ways c).head? := by
    cases h : a.ways c <;> simp [first, h, Way.append]
  simp only [starts, places, table_map_eq, List.zip_eq_zipWith, List.zipWith_map_right,
    List.zipWith_self, List.filterMap_map]
  congr 1
  funext c
  simp [first_eq]

end Pattern

end SceneBoard.Text
