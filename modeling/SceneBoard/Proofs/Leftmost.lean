import SceneBoard.Proofs.Scanning

/-!
# What a search finds

A search for pieces of a kind goes through a text from its beginning, takes the first piece that it
meets and goes on behind it. `IsSearch` says this of a list of matches by the text alone: they are
pieces of the kind where they stand, they follow each other without overlap, and no piece begins
outside of them. `Pattern.findAll` is such a search for any kind that its pattern describes
(`Describes.isSearch`), and `Pattern.find?` the first match of it.
-/

namespace SceneBoard.Text

/-- What a search for pieces of a kind finds in a text. Whether a piece is of the kind may depend on
what stands before and behind it. -/
structure IsSearch (IsPiece : (before piece after : List Char) → Prop) (cs : List Char)
    (ms : List Match) : Prop where
  /-- A match is a piece of the kind and stands at its place. -/
  sound : ∀ m ∈ ms, ∃ before after, cs = before ++ (m.text ++ after) ∧
    m.start.index = before.length ∧ m.stop.index = before.length + m.text.length ∧
    IsPiece before m.text after
  /-- A match ends before the next one begins. -/
  disjoint : ms.Pairwise fun m m' => m.stop.index ≤ m'.start.index
  /-- Where a piece begins, a match begins or goes on. -/
  complete : ∀ before piece after, cs = before ++ (piece ++ after) → IsPiece before piece after →
    ∃ m ∈ ms, m.start.index ≤ before.length ∧ before.length < m.stop.index

namespace IsSearch

variable {IsPiece : List Char → List Char → List Char → Prop} {cs : List Char} {m : Match}
  {ms : List Match}

/-- A match does not end before it begins. -/
theorem start_le_stop (h : IsSearch IsPiece cs ms) (hm : m ∈ ms) :
    m.start.index ≤ m.stop.index := by
  obtain ⟨before, after, -, hstart, hstop, -⟩ := h.sound m hm
  omega

/-- No piece begins before the first match. -/
theorem leftmost (h : IsSearch IsPiece cs (m :: ms)) {before piece after : List Char}
    (hcs : cs = before ++ (piece ++ after)) (hpiece : IsPiece before piece after) :
    m.start.index ≤ before.length := by
  obtain ⟨m', hm', hle, -⟩ := h.complete before piece after hcs hpiece
  rcases List.mem_cons.1 hm' with rfl | hlater
  · -- the piece is covered by the first match, or by a later one, which stands behind it
    exact hle
  · have hdisjoint := (List.pairwise_cons.1 h.disjoint).1 m' hlater
    have hends := h.start_le_stop (m := m) List.mem_cons_self
    omega

end IsSearch

/-! ## Places in their order -/

section

variable {c d : Cursor} {u : List Char}

/-- Every place that is reached by reading on is one of the places. -/
private theorem mem_placesFrom (h : c.Reads u d) : d ∈ placesFrom c.index c.before c.rest := by
  induction u generalizing c with
  | nil =>
    obtain rfl := h.eq (.nil c)
    obtain ⟨i, o, rest⟩ := d
    cases rest <;> simp [placesFrom]
  | cons x u ih =>
    obtain ⟨i, o, rest⟩ := c
    obtain rfl : rest = x :: (u ++ d.rest) := h.rest
    have hstep : Cursor.Reads ⟨i, o, x :: (u ++ d.rest)⟩ [x] ⟨i + 1, some x, u ++ d.rest⟩ :=
      ⟨rfl, rfl⟩
    obtain ⟨e, he, hu⟩ := Cursor.Reads.split (u := [x]) h
    obtain rfl := hstep.eq he
    exact List.mem_cons_of_mem _ (ih hu)

/-- The places begin with the one where the search starts. -/
private theorem le_index_of_mem_placesFrom {i : Nat} {b : Option Char} {cs : List Char}
    (h : d ∈ placesFrom i b cs) : i ≤ d.index := by
  induction cs generalizing i b with
  | nil =>
    obtain rfl : d = ⟨i, b, []⟩ := by simpa [placesFrom] using h
    exact Nat.le_refl i
  | cons x cs ih =>
    rcases List.mem_cons.1 h with rfl | h
    · exact Nat.le_refl i
    · exact Nat.le_of_succ_le (ih h)

/-- The places stand in the order of the text. -/
private theorem pairwise_placesFrom (i : Nat) (b : Option Char) (cs : List Char) :
    (placesFrom i b cs).Pairwise fun c d => c.index < d.index := by
  induction cs generalizing i b with
  | nil => simp [placesFrom]
  | cons x cs ih =>
    rw [placesFrom, List.pairwise_cons]
    exact ⟨fun d hd => le_index_of_mem_placesFrom hd, ih (i + 1) (some x)⟩

end

/-! ## Matches without overlap -/

section

variable {ms : List Match} {m : Match}

/-- The matches that are taken do not overlap, and none begins before the search does. -/
private theorem pairwise_disjointFrom (h : ∀ m ∈ ms, m.start.index < m.stop.index) (i : Nat) :
    (∀ m ∈ disjointFrom i ms, i ≤ m.start.index) ∧
      (disjointFrom i ms).Pairwise fun m m' => m.stop.index ≤ m'.start.index := by
  induction ms generalizing i with
  | nil => simp [disjointFrom]
  | cons m ms ih =>
    have ih := ih fun m' hm' => h m' (by simp [hm'])
    have hlt := h m (by simp)
    rw [disjointFrom]
    split
    · -- the first match is taken, and the search goes on behind it
      obtain ⟨hbehind, hpairwise⟩ := ih m.stop.index
      refine ⟨fun m' hm' => ?_, List.pairwise_cons.2 ⟨hbehind, hpairwise⟩⟩
      rcases List.mem_cons.1 hm' with rfl | hm'
      · assumption
      · have := hbehind m' hm'
        omega
    · exact ih i

/-- A match that is left out begins inside one that is kept, or too early. -/
private theorem exists_mem_disjointFrom (h : ∀ m ∈ ms, m.start.index < m.stop.index)
    (hsorted : ms.Pairwise fun m m' => m.start.index < m'.start.index) {i : Nat} (hm : m ∈ ms)
    (hi : i ≤ m.start.index) :
    ∃ m' ∈ disjointFrom i ms, m'.start.index ≤ m.start.index ∧ m.start.index < m'.stop.index := by
  induction ms generalizing i with
  | nil => simp at hm
  | cons m₀ ms ih =>
    have ih {i : Nat} := ih (i := i) (fun m' hm' => h m' (by simp [hm'])) hsorted.of_cons
    rw [disjointFrom]
    split
    · -- it is the first match itself, or one behind it, or one that the first reaches into
      rcases List.mem_cons.1 hm with rfl | hm
      · exact ⟨m, by simp, Nat.le_refl _, h m (by simp)⟩
      · by_cases hstop : m₀.stop.index ≤ m.start.index
        · obtain ⟨m', hm', hcovers⟩ := ih hm hstop
          exact ⟨m', by simp [hm'], hcovers⟩
        · have hlt := (List.pairwise_cons.1 hsorted).1 m hm
          exact ⟨m₀, by simp, by omega, by omega⟩
    · -- a first match that begins too early is passed over, and it is not the one in question
      rcases List.mem_cons.1 hm with rfl | hm
      · contradiction
      · exact ih hm hi

end

/-! ## Searching with a pattern -/

namespace Pattern

/-- The pattern has a way wherever a piece of the kind begins, and its first way reads one. -/
structure Describes (a : Pattern) (IsPiece : (before piece after : List Char) → Prop) : Prop where
  ne_nil : ∀ {before piece after : List Char}, IsPiece before piece after → piece ≠ []
  sound : ∀ {cs before : List Char} {c : Cursor} {w : Way}, (Cursor.mk 0 none cs).Reads before c →
    (a.ways c).head? = some w → ∃ piece, c.Reads piece w.stop ∧ IsPiece before piece w.stop.rest
  complete : ∀ {cs before piece : List Char} {c d : Cursor},
    (Cursor.mk 0 none cs).Reads before c → c.Reads piece d → IsPiece before piece d.rest →
    a.ways c ≠ []

variable {a : Pattern} {IsPiece : List Char → List Char → List Char → Prop}

/-- The matches that begin somewhere stand in the order of their places. -/
private theorem starts_sorted (a : Pattern) (cs : List Char) :
    (a.startsFrom ⟨0, none, cs⟩).Pairwise fun m m' => m.start.index < m'.start.index := by
  rw [startsFrom, List.pairwise_filterMap]
  refine (pairwise_placesFrom 0 none cs).imp fun {c d} hcd m hm m' hm' => ?_
  simp only [Option.map_eq_some_iff] at hm hm'
  obtain ⟨w, -, rfl⟩ := hm
  obtain ⟨w', -, rfl⟩ := hm'
  exact hcd

/-- A search with a pattern that describes a kind of pieces is a search for them. -/
theorem Describes.isSearch (h : a.Describes IsPiece) (cs : List Char) :
    IsSearch IsPiece cs (a.findAll cs) := by
  -- every match is a piece of the text at its place
  have hreads (m : Match) (hm : m ∈ a.startsFrom ⟨0, none, cs⟩) : ∃ before,
      (Cursor.mk 0 none cs).Reads before m.start ∧ m.start.Reads m.text m.stop ∧
        IsPiece before m.text m.stop.rest := by
    obtain ⟨w, before, hbefore, hw, hmw⟩ := exists_of_mem_startsFrom hm
    obtain ⟨piece, hread, hpiece⟩ := h.sound hbefore hw
    have hstop : m.stop = w.stop := by rw [hmw]
    have htext : m.text = piece := by rw [Match.text, hstop, hread.upTo]
    exact ⟨before, hbefore, by rwa [htext, hstop], by rwa [htext, hstop]⟩
  have hlt (m : Match) (hm : m ∈ a.startsFrom ⟨0, none, cs⟩) : m.start.index < m.stop.index := by
    obtain ⟨before, -, hread, hpiece⟩ := hreads m hm
    have hlength := List.length_pos_iff.2 (h.ne_nil hpiece)
    have hindex := hread.index
    omega
  rw [findAll_eq_scan, scan]
  -- soundness, then disjointness, then completeness
  constructor
  · intro m hm
    obtain ⟨before, hbefore, hread, hpiece⟩ := hreads m ((disjointFrom_sublist _ _).subset hm)
    have hstart : m.start.index = before.length := by rw [hbefore.index, Nat.zero_add]
    refine ⟨before, m.stop.rest, ?_, hstart, by rw [hread.index, hstart], hpiece⟩
    rw [← hread.rest]
    exact hbefore.rest
  · exact (pairwise_disjointFrom hlt _).2
  · intro before piece after hcs hpiece
    obtain ⟨c, hbefore, hc⟩ := Cursor.Reads.ofRest (c := ⟨0, none, cs⟩) hcs
    obtain ⟨d, hread, rfl⟩ := Cursor.Reads.ofRest hc
    obtain ⟨w, ws, hways⟩ := List.exists_cons_of_ne_nil (h.complete hbefore hread hpiece)
    -- there is a first way from the place of the piece, so the search meets it
    have hmem : (⟨c, w.stop, w.marks⟩ : Match) ∈ a.startsFrom ⟨0, none, cs⟩ :=
      List.mem_filterMap.2 ⟨c, mem_placesFrom hbefore, by rw [hways]; rfl⟩
    have hindex : c.index = before.length := by rw [hbefore.index, Nat.zero_add]
    rw [← hindex]
    exact exists_mem_disjointFrom hlt (starts_sorted a cs) hmem (Nat.zero_le _)

/-- The leftmost match is the first one of a search. -/
theorem find?_eq_head?_findAll (a : Pattern) (cs : List Char) :
    a.find? cs = (a.findAll cs).head? := by
  rw [find?_eq_head?_scan, findAll_eq_scan]

end Pattern

end SceneBoard.Text
