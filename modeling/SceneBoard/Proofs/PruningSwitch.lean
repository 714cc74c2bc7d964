import SceneBoard.Proofs.Bookkeeping
import SceneBoard.Proofs.Rereading

/-!
# Turning pruning off

Whether to prune is asked only for a scene that no component keeps and whose component is gone. So a
plan without pruning differs from the one with it in these scenes and in nothing else: they are
retained instead of pruned, each where it stood in the file (`IsMerge`), and the imports to which only
they refer are kept for them.

## Key results

- `isMerge_filter`: what two conditions that exclude each other pick out of a list
- `reconcile_without_pruning`: the plans with and without pruning
-/

namespace SceneBoard

/-! ## Merges -/

/-- A list that is made of two others, each of them in its own order. -/
inductive IsMerge {α : Type} : List α → List α → List α → Prop where
  | nil : IsMerge [] [] []
  | left (a : α) {as bs cs : List α} (h : IsMerge as bs cs) : IsMerge (a :: as) bs (a :: cs)
  | right (b : α) {as bs cs : List α} (h : IsMerge as bs cs) : IsMerge as (b :: bs) (b :: cs)

namespace IsMerge

variable {α β : Type} {as bs cs : List α}

/-- The first list is part of a merge. -/
theorem sublist (h : IsMerge as bs cs) : as.Sublist cs := by
  induction h with
  | nil => exact .slnil
  | left a _ ih => exact ih.cons_cons a
  | right b _ ih => exact ih.cons b

/-- A merge has the elements of both lists. -/
theorem mem_iff {a : α} (h : IsMerge as bs cs) : a ∈ cs ↔ a ∈ as ∨ a ∈ bs := by
  induction h with
  | nil => simp
  | left a _ ih => rw [List.mem_cons, List.mem_cons, ih, or_assoc]
  | right b _ ih => rw [List.mem_cons, List.mem_cons, ih, or_left_comm]

/-- A merge stays one under a function. -/
theorem map (f : α → β) (h : IsMerge as bs cs) : IsMerge (as.map f) (bs.map f) (cs.map f) := by
  induction h with
  | nil => exact .nil
  | left a _ ih => exact .left (f a) ih
  | right b _ ih => exact .right (f b) ih

end IsMerge

/-- What satisfies one of two conditions, of which no element satisfies both, is made of what
satisfies the one and what satisfies the other. -/
theorem isMerge_filter {α : Type} {p q r : α → Bool} {as : List α}
    (h : ∀ a ∈ as, r a = (p a || q a) ∧ (p a && q a) = false) :
    IsMerge (as.filter p) (as.filter q) (as.filter r) := by
  induction as with
  | nil => exact .nil
  | cons a as ih =>
    -- by the condition on the first element
    obtain ⟨⟨hr, hpq⟩, htail⟩ := List.forall_mem_cons.1 h
    rw [List.filter_cons, List.filter_cons, List.filter_cons, hr]
    -- each element passes the first condition, the second, or neither
    cases hp : p a with
    | true =>
      rw [hp, Bool.true_and] at hpq
      rw [hpq]
      exact .left a (ih htail)
    | false =>
      cases hq : q a with
      | true => exact .right a (ih htail)
      | false => exact ih htail

namespace Plan

/-! ## What pruning decides -/

section

variable {live : List String} {prune : Bool} {s : Scene}

/-- A scene that is pruned or not stays without pruning, and so does one that stays with it. -/
theorem isRetained_false : isRetained live false s = (isRetained live true s || isPruned live true s) ∧
    (isRetained live true s && isPruned live true s) = false := by
  unfold isRetained isPruned fate
  cases s.component with
  | none => exact ⟨rfl, rfl⟩
  | some name => by_cases h : name ∈ live <;> simp [h]

/-- Pruning does not supersede. -/
theorem isSuperseded_congr (prune prune' : Bool) :
    isSuperseded live prune = isSuperseded live prune' := by
  funext s
  rw [Bool.eq_iff_iff, isSuperseded_iff, isSuperseded_iff]

end

/-- Some of the scenes refers to a name. -/
def refersTo (scenes : List Scene) (name : String) : Bool :=
  (scenes.flatMap fun s => Body.references s.body).contains name

/-- Scenes refer to a name if the body of one does. -/
theorem refersTo_iff {scenes : List Scene} {name : String} :
    refersTo scenes name ↔ ∃ s ∈ scenes, name ∈ Body.references s.body := by
  rw [refersTo, List.contains_iff_mem, List.mem_flatMap]

/-- They do not if no body does. -/
theorem refersTo_eq_false_iff {scenes : List Scene} {name : String} :
    refersTo scenes name = false ↔ ∀ s ∈ scenes, name ∉ Body.references s.body := by
  rw [Bool.eq_false_iff, Ne, refersTo_iff]
  simp only [not_exists, not_and]

/-- The imports for retained scenes, as a filter. -/
theorem importsFor_eq (retained : List Scene) (live : List String) (imports : List ImportLine) :
    importsFor retained live imports =
      (imports.filter fun i => refersTo retained i.name && !live.contains i.name).map (·.line) :=
  rfl

/-- The imports of names that are not live to which some of the scenes refer and none of some other
scenes does. -/
def importsOnlyFor (more kept : List Scene) (live : List String) (imports : List ImportLine) :
    List ImportLine :=
  imports.filter fun i => i.name ∉ live ∧ (∃ s ∈ more, i.name ∈ Body.references s.body) ∧
    ∀ s ∈ kept, i.name ∉ Body.references s.body

/-- The imports that only the further scenes need, as a filter. -/
theorem importsOnlyFor_eq (more kept : List Scene) (live : List String) (imports : List ImportLine) :
    importsOnlyFor more kept live imports = imports.filter fun i =>
      !live.contains i.name && (refersTo more i.name && !refersTo kept i.name) := by
  refine List.filter_congr fun i _ => ?_
  rw [Bool.eq_iff_iff, decide_eq_true_eq, Bool.and_eq_true, Bool.and_eq_true, Bool.not_eq_true',
    Bool.not_eq_true', refersTo_eq_false_iff, refersTo_iff, Bool.eq_false_iff, Ne,
    List.contains_iff_mem]

/-- More retained scenes need more imports: those to which they refer and the others do not. -/
theorem isMerge_importsFor {kept more retained : List Scene} (h : IsMerge kept more retained)
    (live : List String) (imports : List ImportLine) :
    IsMerge (importsFor kept live imports) ((importsOnlyFor more kept live imports).map (·.line))
      (importsFor retained live imports) := by
  rw [importsFor_eq, importsFor_eq, importsOnlyFor_eq]
  refine IsMerge.map _ (isMerge_filter fun i _ => ?_)
  -- the scenes of both lists together refer to what either refers to
  have hretained : refersTo retained i.name = (refersTo kept i.name || refersTo more i.name) := by
    rw [Bool.eq_iff_iff, Bool.or_eq_true, refersTo_iff, refersTo_iff, refersTo_iff]
    simp only [h.mem_iff, or_and_right, exists_or]
  rw [hretained]
  cases refersTo kept i.name <;> cases refersTo more i.name <;> cases live.contains i.name <;>
    exact ⟨rfl, rfl⟩

/-! ## Two plans -/

/-- A plan that tells the same as another one but retains the scenes that the other one prunes, with
the imports that only these need. -/
structure OnlyAddsOrphans (components : List Component) (prior : Storyboard) (p q : Plan) : Prop where
  kept : q.kept = p.kept
  pending : q.pending = p.pending
  missing : q.missing = p.missing
  superseded : q.superseded = p.superseded
  pruned : q.pruned = []
  retainedImports : p.retainedImports.Sublist q.retainedImports
  /-- The scenes are those that the other plan reports, and they are where they were in the file. -/
  orphans : ∃ dropped : List Scene,
    List.Forall₂ (fun s x => s.id = x.id ∧ s.component = some x.component) dropped p.pruned ∧
    IsMerge p.retained dropped q.retained ∧ q.retained.Sublist prior.scenes ∧
    IsMerge p.retainedImports
      ((importsOnlyFor dropped p.retained (components.map (·.name)) prior.imports).map (·.line))
      q.retainedImports

/-- Turning pruning off changes nothing but that the scenes that would be pruned are retained, as
they are and where they are, and with them the imports of components that are gone to which they
refer and no other retained scene does. -/
theorem reconcile_without_pruning (components : List Component) (prior : Storyboard)
    (options : ReconcileOptions) :
    OnlyAddsOrphans components prior (reconcile components prior { options with prune := true })
      (reconcile components prior { options with prune := false }) := by
  let seen := if options.preserveExisting then prior else Storyboard.empty
  let live := components.map (·.name)
  let unbound := (seen.scenes.zipIdx.filter fun s =>
    !(boundScenes (bind components seen.scenes)).contains s.2).map (·.1)
  let p := reconcile components prior { options with prune := true }
  let q := reconcile components prior { options with prune := false }
  -- what pruning would take away is retained, among what is retained anyhow
  have hmerge : IsMerge p.retained (unbound.filter (isPruned live true)) q.retained :=
    isMerge_filter fun s _ => isRetained_false
  have himports : IsMerge p.retainedImports ((importsOnlyFor (unbound.filter (isPruned live true))
      p.retained live prior.imports).map (·.line)) q.retainedImports := by
    rw [retainedImports_reconcile, retainedImports_reconcile]
    exact isMerge_importsFor hmerge live prior.imports
  refine
    { kept := rfl
      pending := rfl
      missing := rfl
      superseded := ?superseded
      pruned := ?pruned
      retainedImports := himports.sublist
      orphans := ⟨unbound.filter (isPruned live true), forall₂_report unbound, hmerge,
        retained_sublist, himports⟩ }
  -- whether a scene is superseded does not depend on pruning
  case superseded =>
    show (unbound.filter (isSuperseded live false)).map (·.id) =
      (unbound.filter (isSuperseded live true)).map (·.id)
    rw [isSuperseded_congr false true]
  case pruned =>
    -- without pruning no scene is pruned, so none is reported
    have hnone : unbound.filter (isPruned live false) = [] := by
      rw [List.filter_eq_nil_iff]
      intro s _ hs
      obtain ⟨name, -, -, hprune⟩ := isPruned_iff.1 hs
      simp at hprune
    have hreport := @forall₂_report live false unbound
    rw [hnone] at hreport
    exact List.forall₂_nil_left_iff.1 hreport

end Plan

end SceneBoard
