import Mathlib.Data.List.Nodup
import SceneBoard.Files.Folder
import SceneBoard.Proofs.ByteOrder

/-!
# The order of a walk

A walk enters folders where it finds them and visits the entries of each in the order of the bytes
of their names (`Folder.depthFirst`). All files of a tree, sorted by their places, are in the order
of such a walk (`Folder.filesInOrder_eq`), as names differ within a folder and a place comes before
another one if it does at the first name in which they differ.
-/

namespace SceneBoard.Folder

/-- In every folder of a tree the names differ. -/
def IsTree : Folder → Prop
  | .empty => True
  | .file name _ rest => (rest.find? name).isNone ∧ rest.IsTree
  | .folder name inner rest => (rest.find? name).isNone ∧ inner.IsTree ∧ rest.IsTree

instance decidableIsTree : (f : Folder) → Decidable f.IsTree
  | .empty => .isTrue trivial
  | .file _ _ rest =>
    have := decidableIsTree rest
    inferInstanceAs (Decidable (_ ∧ _))
  | .folder _ inner rest =>
    have := decidableIsTree inner
    have := decidableIsTree rest
    inferInstanceAs (Decidable (_ ∧ _ ∧ _))

/-! ## Walks -/

/-- The files that are found behind one entry, with the places that lead on from there. -/
structure Visit where
  name : String
  found : List (List String × ByteArray)

/-- The places begin with the name of the entry. -/
def Visit.files (v : Visit) : List (List String × ByteArray) :=
  v.found.map fun f => (v.name :: f.1, f.2)

/-- The entries of one folder are visited in the order of the bytes of their names. -/
def inByteOrder (visits : List Visit) : List (List String × ByteArray) :=
  (visits.mergeSort fun v v' => Text.bytes v.name ≤ Text.bytes v'.name).flatMap Visit.files

/-- What is found behind the entries of a folder. -/
def visits : Folder → List Visit
  | .empty => []
  | .file name content rest => ⟨name, [([], content)]⟩ :: rest.visits
  | .folder name inner rest => ⟨name, inByteOrder inner.visits⟩ :: rest.visits

/-- All files of a folder and below it in the order in which a walk finds them. -/
def depthFirst (f : Folder) : List (List String × ByteArray) :=
  inByteOrder f.visits

variable {f : Folder}

/-! ## The order of places -/

/-- The order of places is that of lists of names. -/
theorem placeLe_iff {as bs : List String} : placeLe as bs ↔ as ≤ bs := by
  rw [← not_lt]
  induction as generalizing bs with
  | nil => exact iff_of_true rfl (List.not_lt_nil bs)
  | cons a as ih =>
    cases bs with
    | nil => exact iff_of_false (by simp [placeLe]) (not_not.2 List.Lex.nil)
    | cons b bs =>
      rw [placeLe, List.cons_lt_cons_iff]
      -- the first names decide, unless they are the same
      by_cases hab : a = b
      · simp [hab, ih]
      · rw [if_neg hab, decide_eq_true_eq, not_or, not_lt]
        exact ⟨fun h => ⟨h.le, fun h' => hab h'.1.symm⟩, fun h => lt_of_le_of_ne h.1 hab⟩

/-- The files in order are in the order of their places. -/
theorem pairwise_filesInOrder (f : Folder) :
    f.filesInOrder.Pairwise fun a b => placeLe a.1 b.1 := by
  refine List.pairwise_mergeSort (fun a b c hab hbc => ?_) (fun a b => ?_) f.files
  · rw [placeLe_iff] at hab hbc ⊢
    exact le_trans hab hbc
  · rw [Bool.or_eq_true, placeLe_iff, placeLe_iff]
    exact le_total a.1 b.1

/-! ## The same files -/

private theorem perm_inByteOrder (visits : List Visit) :
    (inByteOrder visits).Perm (visits.flatMap Visit.files) :=
  (List.mergeSort_perm visits _).flatMap_right _

/-- The visits find each file of the tree. -/
private theorem perm_flatMap_visits (f : Folder) :
    (f.visits.flatMap Visit.files).Perm f.files := by
  induction f with
  | empty => exact .nil
  | file name content rest ih => exact ih.cons _
  | folder name inner rest ihinner ihrest =>
    rw [visits, List.flatMap_cons, files]
    exact (((perm_inByteOrder _).trans ihinner).map _).append ihrest

theorem perm_depthFirst (f : Folder) : f.depthFirst.Perm f.files :=
  (perm_inByteOrder _).trans (perm_flatMap_visits f)

/-- A name under which nothing is found is that of no visit. -/
private theorem not_mem_names_visits {name : String} (h : f.find? name = none) :
    name ∉ f.visits.map (·.name) := by
  -- a name that is not found is none of the entries
  induction f with
  | empty => simp [visits]
  | file n content rest ih =>
    rw [find?] at h
    split at h
    · simp at h
    · rename_i hn
      simpa [visits] using ⟨Ne.symm hn, by simpa using ih h⟩
  | folder n inner rest _ ih =>
    rw [find?] at h
    split at h
    · simp at h
    · rename_i hn
      simpa [visits] using ⟨Ne.symm hn, by simpa using ih h⟩

/-- The visits of a folder have different names. -/
private theorem nodup_names_visits (h : f.IsTree) : (f.visits.map (·.name)).Nodup := by
  induction f with
  | empty => exact .nil
  | file n content rest ih =>
    exact List.nodup_cons.2 ⟨not_mem_names_visits (Option.isNone_iff_eq_none.1 h.1), ih h.2⟩
  | folder n inner rest _ ih =>
    exact List.nodup_cons.2 ⟨not_mem_names_visits (Option.isNone_iff_eq_none.1 h.1), ih h.2.2⟩

/-! ## The same order -/

/-- Visits sorted by the bytes of their names are sorted by the names. -/
private theorem pairwise_mergeSort_visits (visits : List Visit) :
    (visits.mergeSort fun v v' => Text.bytes v.name ≤ Text.bytes v'.name).Pairwise
      fun v v' => v.name ≤ v'.name := by
  have hsorted := @List.pairwise_mergeSort _
    (fun v v' : Visit => decide (Text.bytes v.name ≤ Text.bytes v'.name))
    -- the order of bytes is transitive and total, as that of texts is
    (fun a b c hab hbc => by
      rw [decide_eq_true_eq, Text.bytes_le_iff] at hab hbc ⊢
      exact le_trans hab hbc)
    (fun a b => by
      rw [Bool.or_eq_true, decide_eq_true_eq, decide_eq_true_eq, Text.bytes_le_iff,
        Text.bytes_le_iff]
      exact le_total a.name b.name) visits
  exact hsorted.imp fun h => Text.bytes_le_iff.1 (of_decide_eq_true h)

/-- Places that ascend behind each entry ascend in the whole walk. -/
private theorem pairwise_inByteOrder {visits : List Visit} (hnames : (visits.map (·.name)).Nodup)
    (hfound : ∀ v ∈ visits, v.found.Pairwise fun a b => a.1 < b.1) :
    (inByteOrder visits).Pairwise fun a b => a.1 < b.1 := by
  rw [inByteOrder, List.pairwise_flatMap]
  refine ⟨fun v hv => ?_, ?_⟩
  · -- within one entry the places have its name in front
    rw [Visit.files, List.pairwise_map]
    exact (hfound v (List.mem_mergeSort.1 hv)).imp fun h => List.cons_lt_cons_iff.2 (.inr ⟨rfl, h⟩)
  · -- of different entries the names are different
    have hperm := (List.mergeSort_perm visits
      fun v v' => Text.bytes v.name ≤ Text.bytes v'.name).map Visit.name
    have hne := List.pairwise_map.1 (hperm.nodup_iff.2 hnames)
    refine ((pairwise_mergeSort_visits visits).and hne).imp ?_
    rintro v v' ⟨hle, hne⟩ a ha b hb
    obtain ⟨a, -, rfl⟩ := List.mem_map.1 ha
    obtain ⟨b, -, rfl⟩ := List.mem_map.1 hb
    exact List.cons_lt_cons_iff.2 (.inl (lt_of_le_of_ne hle hne))

/-- In a tree each visit finds its files in order. -/
private theorem pairwise_found (h : f.IsTree) :
    ∀ v ∈ f.visits, v.found.Pairwise fun a b => a.1 < b.1 := by
  -- by induction on the folder: a file is found alone, a folder finds what was found in it
  induction f with
  | empty => simp [visits]
  | file name content rest ih =>
    intro v hv
    rcases List.mem_cons.1 hv with rfl | hv
    · exact List.pairwise_singleton _ _
    · exact ih h.2 v hv
  | folder name inner rest ihinner ihrest =>
    intro v hv
    rcases List.mem_cons.1 hv with rfl | hv
    · exact pairwise_inByteOrder (nodup_names_visits h.2.1) (ihinner h.2.1)
    · exact ihrest h.2.2 v hv

/-- The places of a walk ascend. -/
theorem pairwise_depthFirst (h : f.IsTree) : f.depthFirst.Pairwise fun a b => a.1 < b.1 :=
  pairwise_inByteOrder (nodup_names_visits h) (pairwise_found h)

/-- No two files of a tree have the same place. -/
theorem nodup_places (h : f.IsTree) : (f.depthFirst.map (·.1)).Nodup :=
  List.pairwise_map.2 ((pairwise_depthFirst h).imp fun h => h.ne)

/-- The files of a tree, sorted by their places, are in the order of a walk. -/
theorem filesInOrder_eq (h : f.IsTree) : f.filesInOrder = f.depthFirst := by
  have hperm : f.filesInOrder.Perm f.depthFirst :=
    (List.mergeSort_perm f.files _).trans (perm_depthFirst f).symm
  have hsorted : f.filesInOrder.Pairwise fun a b => a.1 ≤ b.1 :=
    (pairwise_filesInOrder f).imp placeLe_iff.1
  refine hperm.eq_of_pairwise (fun a b ha hb hab hba => ?_) hsorted
    ((pairwise_depthFirst h).imp fun h => h.le)
  exact List.inj_on_of_nodup_map (nodup_places h) (hperm.subset ha) hb (le_antisymm hab hba)

/-! ## Files at places -/

/-- A place is looked up at the first entry, a file. -/
private theorem entry?_cons_file (name : String) (c : ByteArray) (rest : Folder) (n : String)
    (place : List String) : Folder.entry? (n :: place) (.file name c rest) =
      if name = n then (if place = [] then some (.file c) else none)
      else rest.entry? (n :: place) := by
  by_cases hn : name = n <;> simp only [Folder.entry?, find?, hn, if_true, if_false]

/-- A place is looked up at the first entry, a folder. -/
private theorem entry?_cons_folder (name : String) (inner rest : Folder) (n : String)
    (place : List String) : Folder.entry? (n :: place) (.folder name inner rest) =
      if name = n then inner.entry? place else rest.entry? (n :: place) := by
  by_cases hn : name = n <;> simp only [Folder.entry?, find?, hn, if_true, if_false]

/-- A place below a name that is not there has no entry. -/
private theorem entry?_of_isNone {name : String} (h : (f.find? name).isNone) (place : List String) :
    f.entry? (name :: place) = none := by
  rw [Folder.entry?, Option.isNone_iff_eq_none.1 h]

/-- The files of a tree are what stands at their places. -/
theorem mem_files_iff {place : List String} {content : ByteArray} (h : f.IsTree) :
    (place, content) ∈ f.files ↔ f.entry? place = some (.file content) := by
  induction f generalizing place with
  | empty => cases place <;> simp [files, Folder.entry?, find?]
  | file name c rest ih =>
    rw [files, List.mem_cons, ih h.2]
    cases place with
    | nil => simp [Folder.entry?]
    | cons n place =>
      rw [entry?_cons_file]
      -- the name of the entry occurs in it alone, so nothing is looked for behind
      by_cases hn : name = n
      · subst hn
        rw [if_pos rfl, entry?_of_isNone h.1]
        cases place <;> simp [eq_comm]
      · simp [hn, Ne.symm hn]
  | folder name inner rest ihinner ihrest =>
    rw [files, List.mem_append, ihrest h.2.2]
    cases place with
    | nil => simp [Folder.entry?]
    | cons n place =>
      rw [entry?_cons_folder]
      -- the files of a folder are those below its name
      by_cases hn : name = n
      · subst hn
        rw [if_pos rfl, entry?_of_isNone h.1, ← ihinner h.2.1]
        simp
      · simp [hn]

/-- The walk finds exactly the files of the tree. -/
theorem mem_depthFirst_iff {place : List String} {content : ByteArray} (h : f.IsTree) :
    (place, content) ∈ f.depthFirst ↔ f.entry? place = some (.file content) :=
  (perm_depthFirst f).mem_iff.trans (mem_files_iff h)

end SceneBoard.Folder
