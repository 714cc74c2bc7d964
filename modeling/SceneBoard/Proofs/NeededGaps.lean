import SceneBoard.Layout.Row

/-!
# The gaps that are needed

Between two places of the top row no more gaps are looked for than there are pages. The gaps between
two places become narrower from left to right (`narrowing_gapsBetween`), so the pages that find room
there take them in their order, and with `k` pages to come only the first `k` of them matter. Of all
gaps of a row, the ones that are looked for are therefore enough (`IsEnough`), and taking one of them
leaves enough for the other pages (`IsEnough.take`).

## Key results

- `isEnough_gaps`: the gaps that are looked for are enough
- `fillRow_gaps`: pages are placed as they would be if all gaps were known
-/

namespace SceneBoard.Draft

variable {settings : LayoutSettings} {count k : Nat}

/-- Where a width fits into the second gap, it fits into the first. -/
def Gap.IsWider (settings : LayoutSettings) (g h : Gap) : Prop :=
  ∀ width, h.fits settings width → g.fits settings width

/-- A gap that begins further left is wider. -/
theorem Gap.isWider_of_left_le {g h : Gap} (hleft : g.left ≤ h.left) (hstop : g.stop = h.stop) :
    g.IsWider settings h := by
  intro width hfits
  simp only [Gap.fits, decide_eq_true_eq] at hfits ⊢
  omega

/-- Of gaps between two places, which become narrower, the first `k` are known, or all. -/
structure IsKnown (settings : LayoutSettings) (k : Nat) (all known : List Gap) : Prop where
  narrowing : all.Pairwise (Gap.IsWider settings)
  first : known <+: all
  enough : known = all ∨ k ≤ known.length

/-- The known gaps of a row are enough for `k` pages. -/
inductive IsEnough (settings : LayoutSettings) (k : Nat) : List Gap → List Gap → Prop where
  | nil : IsEnough settings k [] []
  | append {all known gs hs : List Gap} (h : IsKnown settings k all known)
      (hrest : IsEnough settings k gs hs) : IsEnough settings k (all ++ gs) (known ++ hs)

/-! ## Taking a gap -/

section

variable {all known gs hs : List Gap} {g : Gap}

theorem IsKnown.mono (h : IsKnown settings (k + 1) all known) : IsKnown settings k all known :=
  ⟨h.narrowing, h.first, h.enough.imp_right (Nat.le_trans (Nat.le_succ k))⟩

/-- What is enough for one more scene is enough. -/
theorem IsEnough.mono (h : IsEnough settings (k + 1) gs hs) : IsEnough settings k gs hs := by
  induction h with
  | nil => exact .nil
  | append h _ ih => exact .append h.mono ih

/-- As long as there is a page to come, the first gap is known, and behind it enough for the pages
after that one. -/
theorem IsKnown.exists_cons (h : IsKnown settings (k + 1) (g :: all) known) :
    ∃ known', known = g :: known' ∧ IsKnown settings k all known' := by
  cases known with
  | nil => simpa using h.enough
  | cons g' known' =>
    obtain ⟨rfl, hfirst⟩ := List.cons_prefix_cons.1 h.first
    refine ⟨known', rfl, (List.pairwise_cons.1 h.narrowing).2, hfirst, ?_⟩
    exact h.enough.imp (fun heq => (List.cons.inj heq).2) Nat.le_of_succ_le_succ

/-- The first gap into which a width fits is known, and without it enough are left. -/
theorem IsEnough.take (h : IsEnough settings (k + 1) gs hs) (width : Int) :
    gs.find? (·.fits settings width) = hs.find? (·.fits settings width) ∧
      IsEnough settings k (gs.eraseP (·.fits settings width))
        (hs.eraseP (·.fits settings width)) := by
  -- by induction on the places between which there are gaps
  induction h with
  | nil => exact ⟨rfl, .nil⟩
  | @append all known gs hs h hrest ih =>
    obtain ⟨hfind, herase⟩ := ih
    cases all with
    -- no gap is left here, so the next place decides
    | nil =>
      obtain rfl := List.prefix_nil.1 h.first
      exact ⟨hfind, herase⟩
    | cons g all =>
      obtain ⟨known, rfl, hknown⟩ := h.exists_cons
      by_cases hfit : g.fits settings width
      · -- the first gap fits, in the list of all and in that of the known ones
        refine ⟨by simp [hfit], ?_⟩
        simpa [hfit] using IsEnough.append hknown hrest.mono
      · -- none of the gaps before the next place is wider than this one
        have hnone : ∀ g' ∈ g :: all, ¬ g'.fits settings width := by
          intro g' hg'
          rcases List.mem_cons.1 hg' with rfl | hg'
          · exact hfit
          · exact fun h' => hfit ((List.pairwise_cons.1 h.narrowing).1 g' hg' width h')
        have hnone' : ∀ g' ∈ g :: known, ¬ g'.fits settings width :=
          fun g' hg' => hnone g' (h.first.subset hg')
        rw [List.find?_append, List.find?_append, List.find?_eq_none.2 hnone,
          List.find?_eq_none.2 hnone', List.eraseP_append_right _ hnone,
          List.eraseP_append_right _ hnone']
        exact ⟨hfind, .append h.mono herase⟩

/-- Pages are placed as if all gaps were known. -/
theorem fillRow_of_isEnough {d : Draft} {next : Int} {pages : List Component}
    (h : IsEnough settings pages.length gs hs) :
    d.fillRow settings gs next pages = d.fillRow settings hs next pages := by
  induction pages generalizing d gs hs next with
  | nil => rfl
  | cons page pages ih =>
    -- the page takes the same gap of both lists, or none of either
    obtain ⟨hfind, herase⟩ := h.take (page.sceneSize settings).width
    rw [fillRow, fillRow, hfind]
    split
    · exact ih herase
    · exact ih h.mono

end

/-! ## The gaps that are looked for -/

section

variable {start stop : Int} {n : Nat}

/-- Where a condition holds of no member behind one of which it does not hold, the members of a
beginning of which it holds are all of them, or the whole of the beginning. -/
private theorem filter_prefix {α : Type} {p : α → Bool} {l l' : List α}
    (h : l'.Pairwise fun a b => p b → p a) (hl : l <+: l') :
    l.filter p = l'.filter p ∨ l.filter p = l := by
  obtain ⟨r, rfl⟩ := hl
  -- either all fit, or those behind the first that does not fit do not fit either
  by_cases hall : ∀ a ∈ l, p a
  · exact .inr (List.filter_eq_self.2 hall)
  · obtain ⟨a, ha, hpa⟩ : ∃ a ∈ l, ¬ p a := by simpa using hall
    have hnone : r.filter p = [] := List.filter_eq_nil_iff.2 fun b hb hpb =>
      hpa ((List.pairwise_append.1 h).2.2 a ha b hb hpb)
    rw [List.filter_append, hnone, List.append_nil]
    exact .inl rfl

/-- From left to right, the places at every spacing leave less room before `stop`. -/
private theorem narrowing_steps (start stop : Int) (hspacing : 0 ≤ settings.spacing) (n : Nat) :
    ((List.range n).map fun (j : Nat) =>
      (⟨start + settings.spacing * (j + 1), stop⟩ : Gap)).Pairwise (Gap.IsWider settings) := by
  refine List.pairwise_map.2 (List.pairwise_lt_range.imp fun {i j} hij => ?_)
  have hsteps : settings.spacing * ((i : Int) + 1) ≤ settings.spacing * ((j : Int) + 1) :=
    Int.mul_le_mul_of_nonneg_left (by omega) hspacing
  exact Gap.isWider_of_left_le (Int.add_le_add_left hsteps start) rfl

/-- Between two places the first gaps are known, as many as asked for. -/
theorem isKnown_gapsBetween (hspacing : 0 ≤ settings.spacing) (h : count ≤ n) :
    IsKnown settings count (gapsBetween settings n start stop)
      (gapsBetween settings count start stop) := by
  unfold gapsBetween
  dsimp only
  -- the most gaps that there can be between the two places
  generalize (Pixels.sub stop start / settings.spacing).toNat = most
  split
  · exact ⟨.nil, List.prefix_refl _, .inl rfl⟩
  · have hnarrowing := narrowing_steps start stop hspacing (min n most)
    have hfirst : (List.range (min count most)).map (fun (j : Nat) =>
        (⟨start + settings.spacing * (j + 1), stop⟩ : Gap)) <+:
          (List.range (min n most)).map fun (j : Nat) =>
            ⟨start + settings.spacing * (j + 1), stop⟩ := by
      refine List.IsPrefix.map _ (List.prefix_iff_eq_take.2 ?_)
      rw [List.length_range, List.take_range]
      congr 1
      omega
    refine ⟨hnarrowing.filter _, hfirst.filter _, ?_⟩
    rcases filter_prefix (hnarrowing.imp fun h => h settings.defaultScene.width) hfirst with
      heq | heq
    · exact .inl heq
    · -- a gap that ends before its place `count` is known as a whole
      by_cases hmost : count ≤ most
      · rw [heq, List.length_map, List.length_range]
        exact .inr (by omega)
      · rw [Nat.min_eq_right (by omega), Nat.min_eq_right (by omega)]
        exact .inl rfl

/-- Along a row the first gaps behind each place are enough. -/
theorem isEnough_gaps {places : List Int} (h : count ≤ n) :
    IsEnough settings count (gaps settings n places) (gaps settings count places) := by
  unfold gaps
  split
  · exact .nil
  · rename_i hspacing
    induction places.zip places.tail with
    | nil => exact .nil
    | cons p ps ih => exact .append (isKnown_gapsBetween (by omega) h) ih

/-- Pages are placed as they would be if all gaps were known. -/
theorem fillRow_gaps {d : Draft} {next : Int} {pages : List Component} {places : List Int}
    (h : pages.length ≤ n) : d.fillRow settings (gaps settings n places) next pages =
      d.fillRow settings (gaps settings pages.length places) next pages :=
  fillRow_of_isEnough (isEnough_gaps h)

end

end SceneBoard.Draft
