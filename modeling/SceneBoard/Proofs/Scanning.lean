import SceneBoard.Proofs.Reading

/-!
# Scanning a known text

`Pattern.findAll` takes the leftmost match, goes on behind it and so on. `Pattern.scan` is the same
search from a place on, so that a text can be scanned in parts:

* `findAll_eq_scan`: a search is a scan from the beginning;
* `scan_of_none`: a stretch of text from which the pattern has no way is passed over, and so is one
  in which what every match begins with does not occur (`scan_of_clear`);
* `scan_of_some`: a match is taken, and the scan goes on behind it;
* `exists_of_mem_findAll`: what is found is the first way from some place of the text.
-/

namespace SceneBoard.Text

/-- The first matches from the places from `c` on. -/
def Pattern.startsFrom (a : Pattern) (c : Cursor) : List Match :=
  (placesFrom c.index c.before c.rest).filterMap fun d =>
    ((a.ways d).head?).map fun w => ⟨d, w.stop, w.marks⟩

/-- The matches in a text from a place on. -/
def Pattern.scan (a : Pattern) (c : Cursor) : List Match :=
  disjointFrom c.index (a.startsFrom c)

namespace Pattern

variable {a : Pattern} {c d : Cursor} {u : List Char}

/-- A search is a scan from the beginning. -/
theorem findAll_eq_scan (a : Pattern) (cs : List Char) : a.findAll cs = a.scan ⟨0, none, cs⟩ := by
  rw [findAll, starts_eq]
  rfl

/-- The leftmost match is the first of a scan. -/
theorem find?_eq_head?_scan (a : Pattern) (cs : List Char) :
    a.find? cs = (a.scan ⟨0, none, cs⟩).head? := by
  rw [← findAll_eq_scan, find?, findAll]
  cases a.starts cs <;> simp [disjointFrom]

/-- The matches from a place are the one that begins there and those from the next place. -/
private theorem startsFrom_cons {x : Char} (h : c.Reads [x] d) :
    a.startsFrom c =
      ((a.ways c).head?.map fun w => (⟨c, w.stop, w.marks⟩ : Match)).toList ++ a.startsFrom d := by
  obtain ⟨i, o, rest⟩ := c
  obtain ⟨hrest, rfl⟩ := h
  simp only [startsFrom, List.length_singleton] at hrest ⊢
  cases rest with
  | nil => simp at hrest
  | cons y rest =>
    obtain rfl : y = x := (List.cons.inj hrest).1
    rw [placesFrom, List.filterMap_cons]
    cases ((a.ways ⟨i, o, y :: rest⟩).head?.map fun w => (⟨_, w.stop, w.marks⟩ : Match)) <;> rfl

/-- A match from some place on is the first way from a place that can be read from there. -/
theorem exists_of_mem_startsFrom {m : Match} (h : m ∈ a.startsFrom c) :
    ∃ w u, c.Reads u m.start ∧ (a.ways m.start).head? = some w ∧
      m = ⟨m.start, w.stop, w.marks⟩ := by
  -- by induction on the text behind the place
  generalize hrest : c.rest = rest
  induction rest generalizing c with
  | nil =>
    obtain ⟨i, o, r⟩ := c
    subst hrest
    simp only [startsFrom, placesFrom, List.filterMap_cons, List.filterMap_nil] at h
    split at h
    · simp at h
    · rename_i hm
      obtain ⟨w, hw, rfl⟩ := Option.map_eq_some_iff.1 hm
      simp only [List.mem_singleton] at h
      subst h
      exact ⟨w, [], .nil _, hw, rfl⟩
  | cons x rest ih =>
    obtain ⟨e, he, her⟩ := Cursor.Reads.ofRest (c := c) (u := [x]) hrest
    rw [startsFrom_cons he, List.mem_append] at h
    -- it begins here, or at a later place
    rcases h with h | h
    · simp only [Option.mem_toList, Option.map_eq_some_iff] at h
      obtain ⟨w, hw, rfl⟩ := h
      exact ⟨w, [], .nil _, hw, rfl⟩
    · obtain ⟨w, u, hu, hw⟩ := ih h her
      exact ⟨w, x :: u, he.trans hu, hw⟩

/-- Matches from a place do not begin before it. -/
private theorem le_index_of_mem_startsFrom {m : Match} (h : m ∈ a.startsFrom c) :
    c.index ≤ m.start.index := by
  obtain ⟨w, u, hu, -, -⟩ := exists_of_mem_startsFrom h
  rw [hu.index]
  exact Nat.le_add_right _ _

/-- Matches that begin behind an index do not notice that index. -/
private theorem disjointFrom_of_le {i j : Nat} {ms : List Match}
    (hi : ∀ m ∈ ms, i ≤ m.start.index) (hj : ∀ m ∈ ms, j ≤ m.start.index) :
    disjointFrom i ms = disjointFrom j ms := by
  cases ms with
  | nil => rfl
  | cons m ms => simp [disjointFrom, hi m (by simp), hj m (by simp)]

/-- Matches that begin before an index are left out. -/
private theorem disjointFrom_startsFrom (h : c.Reads u d) :
    disjointFrom d.index (a.startsFrom c) = a.scan d := by
  induction u generalizing c with
  | nil =>
    obtain rfl := h.eq (.nil c)
    rfl
  | cons x u ih =>
    obtain ⟨e, he, hu⟩ := Cursor.Reads.split (u := [x]) h
    have hindex := h.index
    rw [startsFrom_cons he]
    -- a match that begins before the place is not taken
    cases (a.ways c).head? with
    | none => exact ih hu
    | some w =>
      simp only [List.length_cons] at hindex
      simp only [Option.map_some, Option.toList_some, List.singleton_append, disjointFrom,
        if_neg (show ¬ d.index ≤ c.index by omega)]
      exact ih hu

/-- Where the pattern has no way, the scan passes over. -/
theorem scan_of_none (h : c.Reads u d)
    (hno : ∀ u' s e, u = u' ++ s → s ≠ [] → c.Reads u' e → a.ways e = []) :
    a.scan c = a.scan d := by
  induction u generalizing c with
  | nil => rw [h.eq (.nil c)]
  | cons x u ih =>
    obtain ⟨e, he, hu⟩ := Cursor.Reads.split (u := [x]) h
    have hc : a.ways c = [] := hno [] (x :: u) c rfl (by simp) (.nil c)
    -- later matches do not notice from where the scan begins
    have hscan : a.scan c = a.scan e := by
      rw [scan, startsFrom_cons he, hc]
      refine disjointFrom_of_le (fun m hm => ?_) fun m hm => le_index_of_mem_startsFrom hm
      have := le_index_of_mem_startsFrom hm
      have := he.index
      omega
    rw [hscan]
    refine ih hu fun u' s f hus hs hf => ?_
    exact hno (x :: u') s f (by rw [hus]; rfl) hs (he.trans hf)

/-- A stretch of text in which the beginning of every match does not occur is passed over. -/
theorem scan_of_clear {t : List Char} (hbegin : ∀ e : Cursor, ¬ t <+: e.rest → a.ways e = [])
    (h : c.Reads u d) (hclear : Clear t u d.rest) : a.scan c = a.scan d := by
  refine scan_of_none h fun u' s e hus hs he => hbegin e ?_
  obtain ⟨e', he', hs'⟩ := (hus ▸ h).split
  rw [he.eq he', hs'.rest]
  exact hclear s (hus ▸ List.suffix_append u' s) hs

/-- A match is taken, and the scan goes on behind it. -/
theorem scan_of_some {w : Way} (hw : (a.ways c).head? = some w) (h : c.Reads u w.stop)
    (hu : u ≠ []) : a.scan c = ⟨c, w.stop, w.marks⟩ :: a.scan w.stop := by
  cases u with
  | nil => exact absurd rfl hu
  | cons x u =>
    obtain ⟨e, he, hu'⟩ := Cursor.Reads.split (u := [x]) h
    rw [scan, startsFrom_cons he, hw]
    simp only [Option.map_some, Option.toList_some, List.singleton_append, disjointFrom,
      Nat.le_refl, if_true]
    rw [disjointFrom_startsFrom hu']

/-- At the end of the text there is nothing left to find for a pattern without a way there. -/
theorem scan_of_rest_nil (h : c.rest = []) (hno : a.ways c = []) : a.scan c = [] := by
  obtain ⟨i, o, rest⟩ := c
  subst h
  simp [scan, startsFrom, placesFrom, hno, disjointFrom]

/-- The matches that are taken are some of all, in their order. -/
theorem disjointFrom_sublist (i : Nat) (ms : List Match) :
    (disjointFrom i ms).Sublist ms := by
  induction ms generalizing i with
  | nil => exact .slnil
  | cons m ms ih =>
    simp only [disjointFrom]
    split
    · exact (ih _).cons_cons m
    · exact (ih i).cons m

/-- What is found is the first way from some place of the text. -/
theorem exists_of_mem_findAll {m : Match} {cs : List Char} (h : m ∈ a.findAll cs) :
    ∃ w u, (Cursor.mk 0 none cs).Reads u m.start ∧ (a.ways m.start).head? = some w ∧
      m = ⟨m.start, w.stop, w.marks⟩ := by
  have hmem : m ∈ a.startsFrom ⟨0, none, cs⟩ := by
    rw [findAll_eq_scan] at h
    exact (disjointFrom_sublist _ _).subset h
  exact exists_of_mem_startsFrom hmem

end Pattern

end SceneBoard.Text
