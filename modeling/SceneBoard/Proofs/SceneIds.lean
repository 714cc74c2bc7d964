import Mathlib.Data.List.Forall2
import SceneBoard.Layout.SceneIds
import SceneBoard.Plan
import SceneBoard.Proofs.SceneStyle

/-!
# Scene ids

Two things about ids. The id that a component owns has no capital ASCII letter, so two such ids that
are the same in any case are the same (`ownsId_iff`), and no scene belongs to two components
(`sceneId_eq_of_ownsId`). And `distinctIds` gives distinct ids (`nodup_distinctIds`), by changing
nothing but ids and no id that comes first (`forall₂_distinctIds`, `mem_distinctIds`).
-/

namespace SceneBoard

/-! ## Lower case -/

namespace Text

/-- A character is no capital letter if its code is outside their range. -/
private theorem isUpper_eq_false_iff {x : Char} :
    x.isUpper = false ↔ x.toNat < 65 ∨ 90 < x.toNat := by
  show decide (65 ≤ x.toNat ∧ x.toNat ≤ 90) = false ↔ _
  rw [decide_eq_false_iff_not]
  omega

/-- A digit is no capital letter. -/
private theorem isUpper_of_isDigit {x : Char} (h : x.isDigit) : x.isUpper = false := by
  have hlast : x.toNat ≤ 57 := by
    rw [Char.isDigit, Bool.and_eq_true, decide_eq_true_eq, decide_eq_true_eq] at h
    exact h.2
  exact isUpper_eq_false_iff.2 (by omega)

/-- What is no capital letter is its own small one. -/
theorem toLower_eq_self {x : Char} (h : x.isUpper = false) : x.toLower = x := by
  have hrange : ¬ (65 ≤ x.val ∧ x.val ≤ 90) := by
    have := isUpper_eq_false_iff.1 h
    intro hx
    have hlow : 65 ≤ x.toNat := hx.1
    have hhigh : x.toNat ≤ 90 := hx.2
    omega
  exact dif_neg hrange

/-- Among the first 128 characters no small letter is a capital. -/
private theorem isUpper_toLower (x : Char) (h : x.toNat < 128) : x.toLower.isUpper = false := by
  have hcodes : ∀ n < 128, (Char.ofNat n).toLower.isUpper = false := by decide
  have hx := hcodes x.toNat h
  rwa [Char.ofNat_toNat] at hx

/-- A code point that is no capital gives no capital. -/
private theorem isUpper_ofNat {n : Nat} (h : n < 65 ∨ 90 < n) : (Char.ofNat n).isUpper = false := by
  by_cases hn : n.isValidChar
  · have hchar : Char.ofNat n = Char.ofNatAux n hn := dif_pos hn
    rw [hchar]
    exact isUpper_eq_false_iff.2 h
  · have hchar : Char.ofNat n = '\x00' := dif_neg hn
    rw [hchar]
    decide

/-- No run of capitals has its lower-case forms among the capital ASCII letters. -/
private theorem caseRuns_apart :
    ∀ r ∈ caseRuns, r.last + r.offset < 65 ∨ 90 < r.first + r.offset := by decide +kernel

/-- Lowering a character gives no capital letter. -/
private theorem isUpper_of_mem_lowerChar {c x : Char} (h : x ∈ lowerChar c) :
    x.isUpper = false := by
  unfold lowerChar at h
  -- an ASCII character, the dotted capital I, a character of a run, or any other
  split at h
  · rename_i hc
    rw [List.mem_singleton.1 h]
    exact isUpper_toLower c hc
  split at h
  · simp only [List.mem_cons, List.not_mem_nil, or_false] at h
    rcases h with rfl | rfl <;> decide
  split at h
  · rename_i r hr
    have hapart := caseRuns_apart r (List.mem_of_find?_eq_some hr)
    have hhas := List.find?_some hr
    simp only [CaseRun.has, Bool.and_eq_true, decide_eq_true_eq] at hhas
    rw [List.mem_singleton.1 h]
    exact isUpper_ofNat (by omega)
  · rename_i hc _ _
    rw [List.mem_singleton.1 h]
    exact isUpper_eq_false_iff.2 (by omega)

/-- A lowered character comes from one of the text, or it is one of the two sigmas. -/
private theorem exists_of_mem_lowerAfter {before cs : List Char} {x : Char}
    (h : x ∈ lowerAfter before cs) :
    (∃ c ∈ cs, x ∈ lowerChar c) ∨ x = '\u03C2' ∨ x = '\u03C3' := by
  induction cs generalizing before with
  | nil => simp [lowerAfter] at h
  | cons c cs ih =>
    rcases List.mem_append.1 h with h | h
    · split at h
      · rw [List.mem_singleton.1 h]
        split <;> simp
      · exact .inl ⟨c, by simp, h⟩
    · exact (ih h).imp_left fun ⟨c', hc', hx⟩ => ⟨c', by simp [hc'], hx⟩

/-- A character of a text in lower case comes from a character of the text or is a small sigma. -/
private theorem exists_of_mem_lower {cs : List Char} {x : Char} (h : x ∈ lower cs) :
    (∃ c ∈ cs, x ∈ lowerChar c) ∨ x = '\u03C2' ∨ x = '\u03C3' :=
  exists_of_mem_lowerAfter h

/-- A text in lower case has no capital ASCII letter. -/
theorem isUpper_of_mem_lower {cs : List Char} {x : Char} (h : x ∈ lower cs) :
    x.isUpper = false := by
  rcases exists_of_mem_lower h with ⟨c, -, hx⟩ | rfl | rfl
  · exact isUpper_of_mem_lowerChar hx
  · decide
  · decide

/-- The lower-case forms of a run of capitals are characters behind the capital ASCII letters. -/
private theorem caseRuns_valid : ∀ r ∈ caseRuns, 65 ≤ r.first + r.offset ∧
    (r.last + r.offset < 0xD800 ∨ 0xDFFF < r.first + r.offset ∧ r.last + r.offset < 0x110000) := by
  decide +kernel

/-- A lowered character below the letters is the character itself. -/
private theorem eq_of_mem_lowerChar {c x : Char} (h : x ∈ lowerChar c) (hx : x.toNat < 65) :
    x = c := by
  unfold lowerChar at h
  -- an ASCII character that is below the letters when lowered was not changed
  split at h
  · rename_i hc
    have hcodes : ∀ n < 128, (Char.ofNat n).toLower.toNat < 65 →
        (Char.ofNat n).toLower = Char.ofNat n := by decide
    rw [List.mem_singleton.1 h] at hx ⊢
    simpa using hcodes c.toNat hc (by simpa using hx)
  split at h
  · simp only [List.mem_cons, List.not_mem_nil, or_false] at h
    rcases h with rfl | rfl <;> exact absurd hx (by decide)
  split at h
  · rename_i r hr
    -- the runs have no small letter below 65
    obtain ⟨hlow, hvalid⟩ := caseRuns_valid r (List.mem_of_find?_eq_some hr)
    have hhas := List.find?_some hr
    simp only [CaseRun.has, Bool.and_eq_true, decide_eq_true_eq] at hhas
    have hcode : (c.toNat + r.offset).toNat.isValidChar := by
      unfold Nat.isValidChar
      omega
    have hchar : Char.ofNat (c.toNat + r.offset).toNat =
        Char.ofNatAux (c.toNat + r.offset).toNat hcode := dif_pos hcode
    rw [List.mem_singleton.1 h, hchar] at hx
    have hlow : (c.toNat + r.offset).toNat < 65 := hx
    omega
  · exact List.mem_singleton.1 h

/-- What stands before the capital ASCII letters is in a text if it is in its lower-case form. -/
theorem mem_of_mem_lower {cs : List Char} {x : Char} (h : x ∈ lower cs) (hx : x.toNat < 65) :
    x ∈ cs := by
  rcases exists_of_mem_lower h with ⟨c, hc, hxc⟩ | rfl | rfl
  · exact eq_of_mem_lowerChar hxc hx ▸ hc
  · exact absurd hx (by decide)
  · exact absurd hx (by decide)

end Text

/-- The id that a component owns stays as it is when capital ASCII letters are made small. -/
private theorem map_toLower_sceneId (c : Component) :
    c.sceneId.toList.map Char.toLower = c.sceneId.toList := by
  have hend : ∀ x ∈ "-scene".toList, x.isUpper = false := by simp
  have hall : ∀ x ∈ c.sceneId.toList, x.isUpper = false := by
    intro x hx
    rw [Component.sceneId, sceneId, String.toList_append, List.mem_append] at hx
    rcases hx with hx | hx
    · exact Text.isUpper_of_mem_lower (by simpa [Text.lowercase] using hx)
    · exact hend x hx
  exact (List.map_congr_left fun x hx => Text.toLower_eq_self (hall x hx)).trans (List.map_id _)

namespace Plan

/-- A component owns the scenes whose id is its own when capital ASCII letters are made small. -/
theorem ownsId_iff {c : Component} {s : Scene} :
    ownsId c s ↔ s.id.toList.map Char.toLower = c.sceneId.toList := by
  rw [ownsId, Text.sameIgnoringCase, beq_iff_eq, map_toLower_sceneId]

/-- No scene belongs to two components. -/
theorem sceneId_eq_of_ownsId {c c' : Component} {s : Scene} (h : ownsId c s) (h' : ownsId c' s) :
    c.sceneId = c'.sceneId :=
  String.toList_inj.1 ((ownsId_iff.1 h).symm.trans (ownsId_iff.1 h'))

theorem ownsId_self {c : Component} {s : Scene} (h : s.id = c.sceneId) : ownsId c s :=
  ownsId_iff.2 (by rw [h, map_toLower_sceneId])

end Plan

/-! ## Numbered ids -/

/-- Different numbers give different ids. -/
private theorem numberedId_injective {id : String} {m n : Nat}
    (h : numberedId id m = numberedId id n) :
    m = n := by
  have hlist := congrArg String.toList h
  simp only [numberedId, String.toList_append, List.append_cancel_left_eq,
    String.toList_ofList] at hlist
  exact Text.natDecimal_injective hlist

/-- With the number the id is not in use, and with every smaller one from 2 on it is. -/
structure IsLeastFree (inUse : List String) (id : String) (n : Nat) : Prop where
  two_le : 2 ≤ n
  free : numberedId id n ∉ inUse
  least : ∀ m, 2 ≤ m → m < n → numberedId id m ∈ inUse

namespace IsLeastFree

variable {inUse inUse' : List String} {id : String} {m n : Nat}

/-- What is in use counts, not in which order. -/
theorem congr (h : IsLeastFree inUse id n) (hiff : ∀ x, x ∈ inUse ↔ x ∈ inUse') :
    IsLeastFree inUse' id n :=
  ⟨h.two_le, fun hmem => h.free ((hiff _).2 hmem), fun m hm hlt => (hiff _).1 (h.least m hm hlt)⟩

/-- There is one such number at most. -/
theorem eq (hm : IsLeastFree inUse id m) (hn : IsLeastFree inUse id n) : m = n := by
  apply Nat.le_antisymm
  · apply Nat.le_of_not_lt
    intro hlt
    exact hn.free (hm.least n hn.two_le hlt)
  · apply Nat.le_of_not_lt
    intro hlt
    exact hm.free (hn.least m hm.two_le hlt)

end IsLeastFree

/-- The search for a number ends: there are more numbers to try than ids in use. -/
private theorem find?_numberedId_ne_none (taken : List String) (id : String) :
    ((List.range (taken.length + 1)).find? fun n => !taken.contains (numberedId id (n + 2))) ≠
      none := by
  intro hnone
  -- if no number were free all of these would be in use
  have hall : ∀ n ≤ taken.length, numberedId id (n + 2) ∈ taken := by
    intro n hn
    have := List.find?_eq_none.1 hnone n (List.mem_range.2 (by omega))
    simpa using this
  have hnodup : ((List.range (taken.length + 1)).map fun n => numberedId id (n + 2)).Nodup := by
    refine List.pairwise_map.2 (List.nodup_range.imp fun {m n} hne h => hne ?_)
    have := numberedId_injective h
    omega
  have hsub : ((List.range (taken.length + 1)).map fun n => numberedId id (n + 2)) ⊆ taken := by
    intro i hi
    obtain ⟨n, hn, rfl⟩ := List.mem_map.1 hi
    exact hall n (by have := List.mem_range.1 hn; omega)
  -- one number more than there are ids in use
  have hlength := hnodup.length_le_of_subset hsub
  rw [List.length_map, List.length_range] at hlength
  omega

/-- The new id is the old one with the least number that is free. -/
theorem exists_isLeastFree (taken : List String) (id : String) :
    ∃ n, IsLeastFree taken id n ∧ freshId taken id = numberedId id n := by
  cases hn : (List.range (taken.length + 1)).find? fun n =>
      !taken.contains (numberedId id (n + 2)) with
  | none => exact absurd hn (find?_numberedId_ne_none taken id)
  | some n =>
    have hfresh : freshId taken id = numberedId id (n + 2) := by
      rw [freshId, hn]
    obtain ⟨hfound, i, hi, hget, hbefore⟩ := List.find?_eq_some_iff_getElem.1 hn
    have hin : i = n := by simpa using hget
    subst hin
    -- it is the first one tried that is free, and the numbers tried begin at two
    refine ⟨i + 2, ⟨by omega, by simpa using hfound, ?_⟩, hfresh⟩
    intro m hm hlt
    have hsmaller := hbefore (m - 2) (by omega)
    simpa [Nat.sub_add_cancel hm] using hsmaller

theorem freshId_not_mem (taken : List String) (id : String) : freshId taken id ∉ taken := by
  obtain ⟨n, hn, hfresh⟩ := exists_isLeastFree taken id
  exact hfresh ▸ hn.free

/-- An id with a number belongs to no component: it ends with a digit. -/
theorem not_ownsId_of_numberedId {c : Component} {s : Scene} {id : String} {n : Nat}
    (h : s.id = numberedId id n) : ¬ Plan.ownsId c s := by
  intro hown
  obtain ⟨d, hd⟩ : ∃ d, (Text.natDecimal n).getLast? = some d :=
    ⟨_, List.getLast?_eq_some_getLast (Text.natDecimal_ne_nil n)⟩
  have hdigit : d.isDigit := Text.isDigit_of_mem_natDecimal (List.mem_of_getLast? hd)
  have hend : "-scene".toList.getLast? = some 'e' := by decide
  have hlast := congrArg List.getLast? (Plan.ownsId_iff.1 hown)
  simp only [h, numberedId, Component.sceneId, sceneId, String.toList_append, String.toList_ofList]
    at hlast
  rw [List.getLast?_append, hend, Option.some_or, List.getLast?_map, List.getLast?_append, hd,
    Option.some_or] at hlast
  -- a digit has no case, so it would have to be the letter
  have hlower : d.toLower = 'e' := Option.some.inj hlast
  rw [Text.toLower_eq_self (Text.isUpper_of_isDigit hdigit)] at hlower
  subst hlower
  exact absurd hdigit (by decide)

/-! ## Distinct ids -/

section

variable {taken seen : List String} {p q : PlacedScene} {ps ps' : List PlacedScene}

/-- A scene with a new id goes before scenes whose ids differ from it and have not been seen. -/
private theorem nodup_cons_scene (hp : p.scene.id ∉ seen) (hnodup : (ps.map (·.scene.id)).Nodup)
    (hnew : ∀ q ∈ ps, q.scene.id ∉ p.scene.id :: seen) :
    ((p :: ps).map (·.scene.id)).Nodup ∧ ∀ q ∈ p :: ps, q.scene.id ∉ seen := by
  -- the first scene has an id that the others avoid
  simp only [List.map_cons, List.nodup_cons, List.mem_cons, List.mem_map]
  refine ⟨⟨?_, hnodup⟩, ?_⟩
  · rintro ⟨q, hq, hid⟩
    exact hnew q hq (by simp [hid])
  · rintro q (rfl | hq)
    · exact hp
    · exact fun h => hnew q hq (List.mem_cons_of_mem _ h)

/-- The ids that are given are distinct and have not been seen before. -/
private theorem nodup_renumber (hseen : seen ⊆ taken) (hps : ps.map (·.scene.id) ⊆ taken) :
    ((renumber taken seen ps).map (·.scene.id)).Nodup ∧
      ∀ q ∈ renumber taken seen ps, q.scene.id ∉ seen := by
  -- by induction on the scenes: an id seen so far is in use, and a fresh one is neither
  induction ps generalizing taken seen with
  | nil => simp [renumber]
  | cons p ps ih =>
    simp only [List.map_cons, List.cons_subset] at hps
    rw [renumber]
    split
    · -- seen before: the scene gets a fresh id
      have hfresh := freshId_not_mem taken p.scene.id
      obtain ⟨hnodup, hnew⟩ := ih (List.cons_subset_cons (freshId taken p.scene.id) hseen)
        (List.Subset.trans hps.2 (List.subset_cons_self _ _))
      exact nodup_cons_scene (fun h => hfresh (hseen h)) hnodup hnew
    · -- not seen before: the scene keeps its id
      rename_i hp
      obtain ⟨hnodup, hnew⟩ := ih (List.cons_subset.2 ⟨hps.1, hseen⟩) hps.2
      exact nodup_cons_scene (by simpa using hp) hnodup hnew

/-- The scenes of a layout have distinct ids. -/
theorem nodup_distinctIds (ps : List PlacedScene) : ((distinctIds ps).map (·.scene.id)).Nodup :=
  (nodup_renumber (List.nil_subset _) (List.Subset.refl _)).1

/-- Two scenes that differ in their ids at most. -/
def PlacedScene.SameButId (p q : PlacedScene) : Prop :=
  q = { p with scene := { p.scene with id := q.scene.id } }

/-- A scene that has its id still, or that id with a number. -/
def PlacedScene.SameButNumber (p q : PlacedScene) : Prop :=
  p.SameButId q ∧ (q.scene.id = p.scene.id ∨ ∃ n, q.scene.id = numberedId p.scene.id n)

/-- Renumbering changes ids only, and only to numbered ones. -/
private theorem forall₂_renumber (taken seen : List String) (ps : List PlacedScene) :
    List.Forall₂ PlacedScene.SameButNumber ps (renumber taken seen ps) := by
  induction ps generalizing taken seen with
  | nil => exact .nil
  | cons p ps ih =>
    rw [renumber]
    split
    · obtain ⟨n, -, hfresh⟩ := exists_isLeastFree taken p.scene.id
      exact .cons ⟨rfl, .inr ⟨n, hfresh⟩⟩ (ih _ _)
    · exact .cons ⟨rfl, .inl rfl⟩ (ih _ _)

/-- Some ids get a number. -/
theorem forall₂_numbered_distinctIds (ps : List PlacedScene) :
    List.Forall₂ PlacedScene.SameButNumber ps (distinctIds ps) :=
  forall₂_renumber _ _ ps

/-- Only ids change. -/
theorem forall₂_distinctIds (ps : List PlacedScene) :
    List.Forall₂ PlacedScene.SameButId ps (distinctIds ps) :=
  (forall₂_renumber _ _ ps).imp fun _ _ h => h.1

/-- Two relations between lists, one after the other. -/
theorem forall₂_trans {α β γ : Type} {R : α → β → Prop} {S : β → γ → Prop} {T : α → γ → Prop}
    {as : List α} {bs : List β} {cs : List γ} (h : List.Forall₂ R as bs) (h' : List.Forall₂ S bs cs)
    (hT : ∀ a b c, R a b → S b c → T a c) : List.Forall₂ T as cs := by
  induction h generalizing cs with
  | nil =>
    cases h'
    exact .nil
  | cons ha _ ih =>
    cases h' with
    | cons hb h' => exact .cons (hT _ _ _ ha hb) (ih h')

/-- Every element of the second of two related lists is related to one of the first. -/
theorem exists_of_mem_forall₂ {α β : Type} {R : α → β → Prop} {l : List α} {l' : List β} {b : β}
    (h : List.Forall₂ R l l') (hb : b ∈ l') : ∃ a ∈ l, R a b := by
  induction h with
  | nil => simp at hb
  | @cons a b' l l' hab _ ih =>
    rcases List.mem_cons.1 hb with rfl | hb
    · exact ⟨a, by simp, hab⟩
    · obtain ⟨a', ha', hab'⟩ := ih hb
      exact ⟨a', by simp [ha'], hab'⟩

/-- A scene keeps its id if that was not seen and no scene before it has it. -/
private theorem getElem?_renumber_of_new {i : Nat} (hp : ps[i]? = some p)
    (htaken : p.scene.id ∈ taken) (hseen : p.scene.id ∉ seen)
    (hbefore : p.scene.id ∉ (ps.take i).map (·.scene.id)) :
    (renumber taken seen ps)[i]? = some p := by
  -- by induction on the scenes before it
  induction ps generalizing taken seen i with
  | nil => simp at hp
  | cons q ps ih =>
    rw [renumber]
    cases i with
    | zero =>
      obtain rfl : q = p := by simpa using hp
      simp [hseen]
    | succ i =>
      rw [List.getElem?_cons_succ] at hp
      simp only [List.take_succ_cons, List.map_cons, List.mem_cons, not_or] at hbefore
      split
      · -- a new id is not in use, so it is not that of the scene
        have hne : p.scene.id ≠ freshId taken q.scene.id := by
          intro h
          exact freshId_not_mem taken q.scene.id (h ▸ htaken)
        exact ih hp (List.mem_cons_of_mem _ htaken) (by simp [hne, hseen]) hbefore.2
      · exact ih hp htaken (by simp [hbefore.1, hseen]) hbefore.2

/-- The first scene with an id keeps it. -/
theorem mem_distinctIds (h : p.scene.id ∉ ps.map (·.scene.id)) :
    p ∈ distinctIds (ps ++ p :: ps') := by
  have hp : (ps ++ p :: ps')[ps.length]? = some p := by simp
  exact List.mem_of_getElem? (getElem?_renumber_of_new hp (by simp) (by simp) (by simpa using h))

/-- A scene whose id was seen, or is that of a scene before it, gets a number: the least that is free
of the ids taken at first and of those given since. -/
private theorem exists_getElem?_renumber_of_seen {i : Nat} (hps : ∀ q ∈ ps, q.scene.id ∈ taken)
    (hp : ps[i]? = some p)
    (hseen : p.scene.id ∈ seen ∨ p.scene.id ∈ (ps.take i).map (·.scene.id)) : ∃ n,
      IsLeastFree (taken ++ ((renumber taken seen ps).take i).map (·.scene.id)) p.scene.id n ∧
      (renumber taken seen ps)[i]? =
        some { p with scene := { p.scene with id := numberedId p.scene.id n } } := by
  induction ps generalizing taken seen i with
  | nil => simp at hp
  | cons q ps ih =>
    rw [renumber]
    cases i with
    | zero =>
      -- the scene itself has an id seen before, and gets the least free one
      obtain rfl : q = p := by simpa using hp
      have hseen : seen.contains q.scene.id := by simpa using hseen
      obtain ⟨n, hn, hfresh⟩ := exists_isLeastFree taken q.scene.id
      rw [if_pos hseen, hfresh]
      exact ⟨n, by simpa using hn, rfl⟩
    | succ i =>
      rw [List.getElem?_cons_succ] at hp
      have hrest : ∀ r ∈ ps, r.scene.id ∈ taken := fun r hr => hps r (List.mem_cons_of_mem q hr)
      simp only [List.take_succ_cons, List.map_cons, List.mem_cons] at hseen
      split
      · rename_i hq
        -- the id given to the first scene is in use from here on
        have hseen' : p.scene.id ∈ freshId taken q.scene.id :: seen ∨
            p.scene.id ∈ (ps.take i).map (·.scene.id) := by
          rcases hseen with h | h | h
          · exact .inl (List.mem_cons_of_mem _ h)
          · exact .inl (List.mem_cons_of_mem _ (h ▸ List.contains_iff_mem.1 hq))
          · exact .inr h
        obtain ⟨n, hn, hget⟩ := ih (fun r hr => List.mem_cons_of_mem _ (hrest r hr)) hp hseen'
        exact ⟨n, hn.congr fun x => by simp [or_left_comm], hget⟩
      · have hseen' : p.scene.id ∈ q.scene.id :: seen ∨
            p.scene.id ∈ (ps.take i).map (·.scene.id) := by
          rcases hseen with h | h | h
          · exact .inl (List.mem_cons_of_mem _ h)
          · exact .inl (h ▸ List.mem_cons_self)
          · exact .inr h
        obtain ⟨n, hn, hget⟩ := ih hrest hp hseen'
        -- an id that stays was taken from the beginning
        have hq : q.scene.id ∈ taken := hps q List.mem_cons_self
        exact ⟨n, hn.congr fun x => by simp; grind, hget⟩

/-- The scene at a place, when ids have been made distinct: the same if no scene before it has its
id, and else with the least number that is free of the ids of all scenes and of those given to the
scenes before. -/
theorem getElem?_distinctIds {i : Nat} (hp : ps[i]? = some p) :
    (p.scene.id ∉ (ps.take i).map (·.scene.id) → (distinctIds ps)[i]? = some p) ∧
    (p.scene.id ∈ (ps.take i).map (·.scene.id) → ∃ n,
      IsLeastFree (ps.map (·.scene.id) ++ ((distinctIds ps).take i).map (·.scene.id))
        p.scene.id n ∧
      (distinctIds ps)[i]? =
        some { p with scene := { p.scene with id := numberedId p.scene.id n } }) := by
  constructor
  · exact getElem?_renumber_of_new hp (List.mem_map_of_mem (List.mem_of_getElem? hp)) (by simp)
  · intro h
    exact exists_getElem?_renumber_of_seen (fun q hq => List.mem_map_of_mem hq) hp (.inr h)

/-- A scene gets a number if a scene before it has its id, and otherwise it keeps its id. -/
theorem exists_getElem?_distinctIds {i : Nat} (hp : ps[i]? = some p) :
    ∃ q, (distinctIds ps)[i]? = some q ∧ p.SameButId q ∧
      (p.scene.id ∈ (ps.take i).map (·.scene.id) → ∃ n, q.scene.id = numberedId p.scene.id n) ∧
      (p.scene.id ∉ (ps.take i).map (·.scene.id) → q.scene.id = p.scene.id) := by
  obtain ⟨hkept, hnumbered⟩ := getElem?_distinctIds hp
  by_cases h : p.scene.id ∈ (ps.take i).map (·.scene.id)
  · obtain ⟨n, -, hget⟩ := hnumbered h
    exact ⟨_, hget, rfl, fun _ => ⟨n, rfl⟩, fun h' => absurd h h'⟩
  · exact ⟨p, hkept h, rfl, fun h' => absurd h' h, fun _ => rfl⟩

/-- Scenes whose ids are distinct and unseen stay as they are. -/
private theorem renumber_append (taken seen : List String) (ps' : List PlacedScene)
    (hps : (ps.map (·.scene.id)).Nodup)
    (hseen : ∀ p ∈ ps, p.scene.id ∉ seen) :
    ∃ seen', renumber taken seen (ps ++ ps') = ps ++ renumber taken seen' ps' := by
  induction ps generalizing seen with
  | nil => exact ⟨seen, rfl⟩
  | cons p ps ih =>
    simp only [List.map_cons, List.nodup_cons, List.mem_map, not_exists, not_and] at hps
    have hp : seen.contains p.scene.id = false := by simpa using hseen p (by simp)
    obtain ⟨seen', h⟩ := @ih (p.scene.id :: seen) hps.2 fun q hq => by
      simp only [List.mem_cons, not_or]
      exact ⟨hps.1 q hq, hseen q (by simp [hq])⟩
    exact ⟨seen', by rw [List.cons_append, renumber, hp, if_neg (by simp), h]; rfl⟩

/-- Scenes with distinct ids at the beginning stay as they are, and of the others only the ids
change. -/
theorem distinctIds_append (ps' : List PlacedScene) (hps : (ps.map (·.scene.id)).Nodup) :
    ∃ qs, distinctIds (ps ++ ps') = ps ++ qs ∧ List.Forall₂ PlacedScene.SameButId ps' qs := by
  obtain ⟨seen', h⟩ := renumber_append ((ps ++ ps').map (·.scene.id)) [] ps' hps (by simp)
  exact ⟨_, h, (forall₂_renumber _ _ _).imp fun _ _ h => h.1⟩

/-- Scenes with distinct ids stay as they are. -/
theorem distinctIds_eq_self (hps : (ps.map (·.scene.id)).Nodup) : distinctIds ps = ps := by
  obtain ⟨seen', h⟩ := renumber_append (ps.map (·.scene.id)) [] [] hps (by simp)
  simpa [distinctIds, renumber] using h

end

end SceneBoard
