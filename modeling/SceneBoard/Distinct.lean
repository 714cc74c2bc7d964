/-! # The first of each

Lists in which only the first of several elements with one key is kept. Which key does not matter:
ids of scenes, names of imports, names of components.
-/

namespace SceneBoard

/-- The elements whose key has not occurred before them. -/
def distinctBy {α β : Type} [DecidableEq β] (key : α → β) : List α → List α
  | [] => []
  | a :: as => a :: (distinctBy key as).filter fun b => key b ≠ key a

/-- The elements without the repetitions. -/
def distinct {α : Type} [DecidableEq α] (as : List α) : List α :=
  distinctBy id as

variable {α β : Type} [DecidableEq β] {key : α → β}

/-- What is kept stays in order. -/
theorem distinctBy_sublist (as : List α) : (distinctBy key as).Sublist as := by
  induction as with
  | nil => exact .slnil
  | cons a as ih => exact (List.filter_sublist.trans ih).cons_cons a

/-- No key is left twice. -/
theorem nodup_map_distinctBy (as : List α) : ((distinctBy key as).map key).Nodup := by
  induction as with
  | nil => simp [distinctBy]
  | cons a as ih =>
    simp only [distinctBy, List.map_cons, List.nodup_cons, List.mem_map, List.mem_filter]
    exact ⟨by simp, ih.sublist (List.filter_sublist.map key)⟩

/-- Every key is still there. -/
theorem mem_map_distinctBy {as : List α} {k : β} :
    k ∈ (distinctBy key as).map key ↔ k ∈ as.map key := by
  induction as with
  | nil => simp [distinctBy]
  | cons a as ih =>
    have ih' : (∃ x ∈ distinctBy key as, key x = k) ↔ ∃ x ∈ as, key x = k := by simpa using ih
    simp only [distinctBy, List.map_cons, List.mem_cons, List.mem_map, List.mem_filter]
    -- it is the key of the first element, or that of a later one
    by_cases h : k = key a
    · simp [h]
    · simp only [h, false_or]
      rw [← ih']
      exact ⟨fun ⟨x, hx, e⟩ => ⟨x, hx.1, e⟩, fun ⟨x, hx, e⟩ => ⟨x, ⟨hx, by simpa [e] using h⟩, e⟩⟩

/-- A list without repeated keys is left as it is. -/
theorem distinctBy_eq_self {as : List α} (h : (as.map key).Nodup) : distinctBy key as = as := by
  induction as with
  | nil => rfl
  | cons a as ih =>
    simp only [List.map_cons, List.nodup_cons, List.mem_map, not_exists, not_and] at h
    rw [distinctBy, ih h.2, List.filter_eq_self.2]
    exact fun b hb => by simpa using h.1 b hb

/-- Of a list behind another one stays what has no key of that one. -/
theorem distinctBy_append (as bs : List α) : distinctBy key (as ++ bs) =
    distinctBy key as ++ (distinctBy key bs).filter fun b => key b ∉ as.map key := by
  induction as with
  | nil => exact (List.filter_eq_self.2 fun b _ => by simp).symm
  | cons a as ih =>
    rw [List.cons_append, distinctBy, distinctBy, ih, List.filter_append, List.filter_filter,
      List.cons_append]
    congr 2
    refine List.filter_congr fun b _ => ?_
    by_cases h : key b = key a <;> simp [h]

/-- Elements can be sorted out by their keys before or after. -/
theorem filter_distinctBy (p : β → Bool) (as : List α) :
    (distinctBy key as).filter (fun a => p (key a)) =
      distinctBy key (as.filter fun a => p (key a)) := by
  induction as with
  | nil => rfl
  | cons a as ih =>
    have hcomm : ((distinctBy key as).filter fun b => key b ≠ key a).filter (fun b => p (key b)) =
        (distinctBy key (as.filter fun b => p (key b))).filter fun b => key b ≠ key a := by
      rw [← ih, List.filter_filter, List.filter_filter]
      exact List.filter_congr fun b _ => Bool.and_comm _ _
    rw [distinctBy, List.filter_cons, List.filter_cons, hcomm]
    -- elements with the key of the first are dropped before or after the filter
    by_cases h : p (key a)
    · rw [if_pos h, if_pos h, distinctBy]
    · rw [if_neg h, if_neg h, List.filter_eq_self]
      intro b hb
      have hpb := (List.mem_filter.1 ((distinctBy_sublist _).subset hb)).2
      simp only [ne_eq, decide_not, Bool.not_eq_true', decide_eq_false_iff_not]
      exact fun heq => h (heq ▸ hpb)

/-- Whether keys are taken before or after a list is mapped does not matter. -/
theorem distinctBy_map {γ : Type} (f : γ → α) (cs : List γ) :
    distinctBy key (cs.map f) = (distinctBy (fun c => key (f c)) cs).map f := by
  induction cs with
  | nil => rfl
  | cons c cs ih => simp only [List.map_cons, distinctBy, ih, List.filter_map, Function.comp_def]

/-- What is kept are the elements with no earlier element of their key. -/
theorem distinctBy_eq_filter (as : List α) : distinctBy key as =
    (as.zipIdx.filter fun a => (as.take a.2).all fun b => key b ≠ key a.1).map (·.1) := by
  induction as with
  | nil => rfl
  | cons a as ih =>
    rw [distinctBy, ih, List.zipIdx_cons', List.filter_cons_of_pos (by simp), List.map_cons,
      List.filter_map, List.filter_map, List.map_map, List.filter_filter]
    congr 2
    refine List.filter_congr fun b _ => ?_
    simp [eq_comm]

/-- What is kept has no earlier element of its key. -/
theorem mem_distinctBy_iff {as : List α} {a : α} : a ∈ distinctBy key as ↔
    ∃ before after, as = before ++ a :: after ∧ ∀ b ∈ before, key b ≠ key a := by
  induction as with
  | nil => simp [distinctBy]
  | cons c as ih =>
    simp only [distinctBy, List.mem_cons, List.mem_filter, decide_eq_true_eq, ih]
    -- the first element with its key, or one behind it
    constructor
    · rintro (rfl | ⟨⟨before, after, rfl, hbefore⟩, hne⟩)
      · exact ⟨[], as, rfl, by simp⟩
      · exact ⟨c :: before, after, rfl, by simpa [hne.symm] using hbefore⟩
    · rintro ⟨before, after, heq, hbefore⟩
      cases before with
      | nil => exact .inl (List.cons.inj heq).1.symm
      | cons b before =>
        obtain ⟨rfl, rfl⟩ := List.cons.inj heq
        have hne := hbefore c (by simp)
        exact .inr ⟨⟨before, after, rfl, fun b hb => hbefore b (by simp [hb])⟩, hne.symm⟩

theorem mem_distinct {as : List β} {b : β} : b ∈ distinct as ↔ b ∈ as := by
  simpa [distinct] using @mem_map_distinctBy _ _ _ id as b

theorem nodup_distinct (as : List β) : (distinct as).Nodup := by
  simpa [distinct] using @nodup_map_distinctBy _ _ _ id as

theorem distinct_eq_self {as : List β} (h : as.Nodup) : distinct as = as :=
  distinctBy_eq_self (by simpa using h)

end SceneBoard
