import SceneBoard.Generation
import SceneBoard.Proofs.SceneIds

/-!
# Which ids get a number

What making ids distinct does is told in full by four rules (`IsNumbering`): the list keeps its
length and its order, no two ids of the result are the same, the first scene of each id stays as it
is, and a later one changes in its id only, which gets the least number from 2 on that makes an id
not in use. In use are the ids of all scenes, those that come later among them, and the ids given
before. There always is such a number, and no other list obeys the rules (`isNumbering_iff`).
-/

namespace SceneBoard

/-- The scenes `qs` are the scenes `ps` under distinct ids. -/
structure IsNumbering (ps qs : List PlacedScene) : Prop where
  length : qs.length = ps.length
  distinct : (qs.map (·.scene.id)).Nodup
  first : ∀ i p, ps[i]? = some p → p.scene.id ∉ (ps.take i).map (·.scene.id) → qs[i]? = some p
  later : ∀ i p, ps[i]? = some p → p.scene.id ∈ (ps.take i).map (·.scene.id) → ∃ n,
    IsLeastFree (ps.map (·.scene.id) ++ (qs.take i).map (·.scene.id)) p.scene.id n ∧
    qs[i]? = some { p with scene := { p.scene with id := numberedId p.scene.id n } }

section

variable {ps qs qs' : List PlacedScene}

/-- The ids that the layout gives are a numbering. -/
theorem isNumbering_distinctIds (ps : List PlacedScene) : IsNumbering ps (distinctIds ps) where
  length := (forall₂_distinctIds ps).length_eq.symm
  distinct := nodup_distinctIds ps
  first := fun _ _ hp => (getElem?_distinctIds hp).1
  later := fun _ _ hp => (getElem?_distinctIds hp).2

/-- The rules leave no choice: the scenes before a place decide which number is the least there. -/
theorem IsNumbering.eq (h : IsNumbering ps qs) (h' : IsNumbering ps qs') : qs = qs' := by
  -- place by place: what stands before decides the id, and so the two agree along the list
  have hplace (i : Nat) (hbefore : qs.take i = qs'.take i) : qs[i]? = qs'[i]? := by
    cases hp : ps[i]? with
    | none =>
      have hend : ps.length ≤ i := List.getElem?_eq_none_iff.1 hp
      rw [List.getElem?_eq_none (h.length ▸ hend),
        List.getElem?_eq_none (h'.length ▸ hend)]
    | some p =>
      -- an id that occurred before gets the least number that is free, and there is one such number
      by_cases hid : p.scene.id ∈ (ps.take i).map (·.scene.id)
      · obtain ⟨n, hn, hget⟩ := h.later i p hp hid
        obtain ⟨n', hn', hget'⟩ := h'.later i p hp hid
        rw [hbefore] at hn
        rw [hget, hget', hn.eq hn']
      · -- any other id stays
        rw [h.first i p hp hid, h'.first i p hp hid]
  have htake (i : Nat) : qs.take i = qs'.take i := by
    induction i with
    | zero => rfl
    | succ i ih => rw [List.take_add_one, List.take_add_one, ih, hplace i ih]
  exact List.ext_getElem? fun i => hplace i (htake i)

/-- Making ids distinct obeys the rules, and nothing else does. -/
theorem isNumbering_iff : IsNumbering ps qs ↔ qs = distinctIds ps := by
  constructor
  · intro h
    exact h.eq (isNumbering_distinctIds ps)
  · rintro rfl
    exact isNumbering_distinctIds ps

end

/-- Any scenes, whatever their ids are, have distinct ids in the end by the rules of `IsNumbering`
and in no other way, and so the scenes of a layout have distinct ids. -/
theorem isNumbering_iff_and_nodup_layout :
    (∀ ps qs : List PlacedScene, IsNumbering ps qs ↔ qs = distinctIds ps) ∧
    ∀ (components : List Component) (previous : Option String) (options : ReconcileOptions)
      (settings : LayoutSettings) (importPrefix : String),
      ((generate components previous options settings importPrefix).layout.scenes.map
        (·.scene.id)).Nodup :=
  ⟨fun _ _ => isNumbering_iff, fun _ _ _ _ _ => nodup_distinctIds _⟩

/-- The number 2 is in use at the end, so the second card gets the number 3. -/
example : (distinctIds (["card-scene", "card-scene", "card-scene-2"].map fun id =>
      ⟨⟨id, default, "Card", none, ""⟩, .retained default⟩)).map (·.scene.id) =
    ["card-scene", "card-scene-3", "card-scene-2"] := by decide

end SceneBoard
