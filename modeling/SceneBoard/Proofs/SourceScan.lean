import SceneBoard.Proofs.SourceTree
import SceneBoard.Source.Scan

/-!
# What a scan finds

A scan goes through the files of a source tree in the order of a walk, takes what the accepted ones
declare (`Source.finds`) and keeps the first of each name (`Source.firsts`). Its components are the
records of these, one by one (`Source.IsRecord`), so nothing but the accepted files matters.

## Key results

- `Folder.filesInOrder_eq`: the order of the files
- `Source.scan_isComplete`: the components of a scan
-/

namespace SceneBoard.Source

open Workspace

/-! ## What there is to find -/

/-- The path of a place below the source root. -/
def pathOf (place : List String) : String :=
  "/".intercalate place

/-- The text of a file if a scan accepts it: it has an accepted extension, it is not ignored, it can be
opened, and its bytes encode a text. -/
def acceptedText? (selection : Selection) (root : Path) (place : List String)
    (content : ByteArray) : Option String :=
  match place.getLast? with
  | none => none
  | some fileName =>
    if (∃ extension ∈ selection.extensions, extension? fileName = some extension) ∧
        ¬ selection.ignores (baseName fileName) (pathOf place) ∧
        refusal? (root.join ⟨pathOf place⟩) = none then
      textOf? content
    else none

/-- A candidate in a file. -/
structure Find where
  place : List String
  source : String
  candidate : Candidate

/-- The candidates of a file that count: those with a capital letter, if there are signs of user
interface. -/
def findsIn (place : List String) (source : String) : List Find :=
  if hasMarkup source then
    ((candidates source).filter fun c => isCapitalized c.name).map fun c => ⟨place, source, c⟩
  else []

/-- What a walk finds in the accepted files. -/
def finds (selection : Selection) (root : Path) (folder : Folder) : List Find :=
  folder.depthFirst.flatMap fun f =>
    match acceptedText? selection root f.1 f.2 with
    | some source => findsIn f.1 source
    | none => []

/-- The finds without those before which there is one of the same name. -/
def firsts (fs : List Find) : List Find :=
  (fs.zipIdx.filter fun f =>
    (fs.take f.2).all fun earlier => earlier.candidate.name ≠ f.1.candidate.name).map (·.1)

/-- The component that is recorded of a find. -/
structure IsRecord (selection : Selection) (f : Find) (c : Component) : Prop where
  name : c.name = f.candidate.name
  path : c.path = pathOf f.place
  category : c.category = Category.ofPath (pathOf f.place)
  acceptsStyle : c.acceptsStyle = Source.acceptsStyle f.candidate.parameters
  /-- It has no size if and only if it is a page or sizes are not worked out. -/
  size_none : c.size = none ↔ c.category = .page ∨ ¬ selection.autoSize
  size_some : ∀ size, c.size = some size → ∃ fileName, f.place.getLast? = some fileName ∧
    size = (SizeInference.infer f.source fileName).size
  defaultExport : c.defaultExport = true ↔ c.name ∈ defaultExports f.source
  /-- What is no default export is a named one. -/
  namedExport : c.defaultExport = false →
    ∃ k ∈ declared Source.namedExport f.source.toList, k.name = c.name

/-! ## What is found -/

section

variable {selection : Selection} {root : Path} {folder folder' : Folder} {place : List String}
  {content : ByteArray} {source : String} {f : Find}

/-- The record of a find. -/
private def recordOf (selection : Selection) (f : Find) : Component where
  name := f.candidate.name
  path := pathOf f.place
  category := Category.ofPath (pathOf f.place)
  acceptsStyle := acceptsStyle f.candidate.parameters
  defaultExport := (defaultExports f.source).contains f.candidate.name
  size := if selection.autoSize && Category.ofPath (pathOf f.place) != .page then
    some (SizeInference.infer f.source (f.place.getLast?.getD "")).size else none

/-- A file that cannot be opened has no accepted text. -/
private theorem acceptedText?_of_refusal {e : DiskError}
    (h : refusal? (root.join ⟨pathOf place⟩) = some e) :
    acceptedText? selection root place content = none := by
  rw [acceptedText?]
  split
  · rfl
  · exact if_neg fun haccepted => by simp [h] at haccepted

/-- A file that can be opened is accepted by its name and its bytes. -/
private theorem acceptedText?_of_opens (hopens : refusal? (root.join ⟨pathOf place⟩) = none)
    {fileName : String} (hname : place.getLast? = some fileName) :
    acceptedText? selection root place content =
      if !(extension? fileName).any selection.extensions.contains ||
        selection.ignores (baseName fileName) (pathOf place) then none
      else textOf? content := by
  have hextension : (∃ extension ∈ selection.extensions, extension? fileName = some extension) ↔
      (extension? fileName).any selection.extensions.contains := by
    cases extension? fileName with
    | none => simp
    | some extension => simp [eq_comm]
  simp only [acceptedText?, hname, hopens, hextension, and_true]
  by_cases hany : (extension? fileName).any selection.extensions.contains <;>
    by_cases hignored : selection.ignores (baseName fileName) (pathOf place) <;>
      simp [hany, hignored]

/-- The components of an accepted text are the records of what is found in it. -/
private theorem componentsOf_eq {fileName : String} (hname : place.getLast? = some fileName) :
    componentsOf selection (pathOf place) fileName source =
      (findsIn place source).map (recordOf selection) := by
  -- without markup there are no components, and no finds
  by_cases hmarkup : hasMarkup source
  · simp only [componentsOf, findsIn, hmarkup, Bool.not_true, Bool.false_eq_true, if_false, if_true,
      List.map_map]
    refine List.map_congr_left fun k _ => ?_
    simp only [Function.comp_apply, recordOf, hname, Option.getD_some]
  · simp [componentsOf, findsIn, hmarkup]

/-- The components of a file that can be opened are the records of its finds. -/
private theorem componentsAt_eq (hopens : refusal? (root.join ⟨pathOf place⟩) = none) :
    componentsAt selection place content =
      (match acceptedText? selection root place content with
        | some source => findsIn place source
        | none => []).map (recordOf selection) := by
  cases hname : place.getLast? with
  | none => simp only [componentsAt, acceptedText?, hname, List.map_nil]
  | some fileName =>
    rw [acceptedText?_of_opens hopens hname]
    simp only [componentsAt, hname]
    rw [← pathOf]
    split
    · rfl
    -- what is selected is read as text
    cases textOf? content with
    | none => rfl
    | some source => exact componentsOf_eq hname

/-- Elements from which nothing comes do not matter. -/
private theorem flatMap_filter {α β : Type} {p : α → Bool} {g : α → List β} {as : List α}
    (h : ∀ a ∈ as, ¬ p a → g a = []) : (as.filter p).flatMap g = as.flatMap g := by
  -- by induction on the list: what the filter drops has contributed nothing
  induction as with
  | nil => rfl
  | cons a as ih =>
    have ih := ih fun b hb => h b (List.mem_cons_of_mem a hb)
    by_cases ha : p a
    · rw [List.filter_cons_of_pos ha, List.flatMap_cons, List.flatMap_cons, ih]
    · rw [List.filter_cons_of_neg ha, List.flatMap_cons, h a List.mem_cons_self ha, ih,
        List.nil_append]

/-- The components of a tree are the records of what is found first. -/
private theorem componentsIn_eq (h : folder.IsTree) :
    componentsIn selection (openFiles root folder) =
      (firsts (finds selection root folder)).map (recordOf selection) := by
  have hfound : (openFiles root folder).flatMap (fun f => componentsAt selection f.1 f.2) =
      (finds selection root folder).map (recordOf selection) := by
    -- files that are refused have no finds, so that all files may be walked
    rw [openFiles, Folder.filesInOrder_eq h, finds, List.map_flatMap]
    refine (List.flatMap_congr fun f hf => componentsAt_eq ?_).trans (flatMap_filter fun f _ hf => ?_)
    · exact Option.isNone_iff_eq_none.1 (List.mem_filter.1 hf).2
    · obtain ⟨e, he⟩ := Option.ne_none_iff_exists'.1 fun hnone =>
        hf (Option.isNone_iff_eq_none.2 hnone)
      rw [acceptedText?_of_refusal he]
      rfl
  rw [componentsIn, hfound, distinctBy_map, distinctBy_eq_filter]
  rfl

/-- A find is a candidate of its source, and its file has a name. -/
private theorem of_mem_finds (h : f ∈ finds selection root folder) :
    f.candidate ∈ candidates f.source ∧ ∃ fileName, f.place.getLast? = some fileName := by
  -- the find comes from a file with markup, which has a name
  obtain ⟨⟨place, content⟩, -, hf⟩ := List.mem_flatMap.1 h
  simp only at hf
  split at hf
  · rename_i source haccepted
    rw [findsIn] at hf
    split at hf
    · obtain ⟨k, hk, rfl⟩ := List.mem_map.1 hf
      refine ⟨(List.mem_filter.1 hk).1, ?_⟩
      refine Option.ne_none_iff_exists'.1 fun hname => ?_
      have hname : place.getLast? = none := hname
      simp [acceptedText?, hname] at haccepted
    · simp at hf
  · simp at hf

/-- A candidate that is no default export is a named one. -/
private theorem exists_namedExport {k : Candidate} (h : k ∈ candidates source)
    (hdefault : k.name ∉ defaultExports source) :
    ∃ k' ∈ declared namedExport source.toList, k'.name = k.name := by
  rw [candidates, List.mem_append] at h
  rcases h with h | h
  · exact ⟨k, h, rfl⟩
  -- otherwise it is declared under the name of the last default export
  split at h
  · rename_i name hlast
    have hname : k.name = name := eq_of_beq (List.mem_filter.1 h).2
    exact absurd (hname ▸ List.mem_of_getLast? hlast) hdefault
  · simp at h

/-- The record of a find tells what there is to tell about it. -/
private theorem isRecord_recordOf (h : f ∈ finds selection root folder) :
    IsRecord selection f (recordOf selection f) := by
  obtain ⟨hcandidate, fileName, hname⟩ := of_mem_finds h
  refine ⟨rfl, rfl, rfl, rfl, ?_, fun size hsize => ⟨fileName, hname, ?_⟩, List.contains_iff_mem,
    fun hdefault => exists_namedExport hcandidate fun hmem => ?_⟩
  · simp only [recordOf, Bool.and_eq_true, bne_iff_ne]
    simp [imp_iff_not_or, or_comm]
  · simp only [recordOf, Option.ite_none_right_eq_some, hname, Option.getD_some] at hsize
    exact (Option.some.inj hsize.2).symm
  · rw [show (recordOf selection f).defaultExport = _ from List.contains_iff_mem.2 hmem] at hdefault
    simp at hdefault

/-! ## What does not matter -/

/-- Two trees have the same accepted files. -/
def HaveSameAccepted (selection : Selection) (root : Path) (folder folder' : Folder) : Prop :=
  ∀ place content, (acceptedText? selection root place content).isSome →
    (folder'.entry? place = some (.file content) ↔ folder.entry? place = some (.file content))

/-- Only accepted files have finds. -/
private theorem finds_eq (selection : Selection) (root : Path) (folder : Folder) :
    finds selection root folder =
      (folder.depthFirst.filter fun f => (acceptedText? selection root f.1 f.2).isSome).flatMap
        fun f => match acceptedText? selection root f.1 f.2 with
          | some source => findsIn f.1 source
          | none => [] := by
  refine (flatMap_filter fun f _ hf => ?_).symm
  rw [Option.not_isSome_iff_eq_none.1 hf]

/-- Lists of files with ascending places are equal if they have the same files. -/
private theorem eq_of_ascending {fs gs : List (List String × ByteArray)}
    (hfs : fs.Pairwise fun a b => a.1 < b.1) (hgs : gs.Pairwise fun a b => a.1 < b.1)
    (hmem : ∀ f, f ∈ fs ↔ f ∈ gs) : fs = gs := by
  have hnodup {fs : List (List String × ByteArray)} (h : fs.Pairwise fun a b => a.1 < b.1) :
      fs.Nodup := h.imp fun hlt heq => absurd hlt (by rw [heq]; exact lt_irrefl _)
  refine ((List.perm_ext_iff_of_nodup (hnodup hfs) (hnodup hgs)).2 hmem).eq_of_pairwise
    (fun a b _ _ hab hba => absurd hab (lt_asymm hba)) hfs hgs

/-- What is found depends on the accepted files only. -/
private theorem finds_congr (h : folder.IsTree) (h' : folder'.IsTree)
    (hsame : HaveSameAccepted selection root folder folder') :
    finds selection root folder' = finds selection root folder := by
  rw [finds_eq, finds_eq]
  congr 1
  refine eq_of_ascending ((Folder.pairwise_depthFirst h').sublist List.filter_sublist)
    ((Folder.pairwise_depthFirst h).sublist List.filter_sublist) fun f => ?_
  rw [List.mem_filter, List.mem_filter, Folder.mem_depthFirst_iff h', Folder.mem_depthFirst_iff h]
  exact and_congr_left (hsame f.1 f.2)

end

/-- The components of a scan are the records of what a walk of the source tree finds first in the
accepted files. So no name occurs twice, and files that are not accepted do not matter. -/
theorem scan_isComplete (w : Workspace) (root : Path) (selection : Selection) (folder : Folder)
    (hroot : w.folder? root = some folder) (htree : folder.IsTree) :
    ∃ components, scan w root selection = .ok components ∧
      List.Forall₂ (IsRecord selection) (firsts (finds selection root folder)) components ∧
      (components.map (·.name)).Nodup ∧
      ∀ w' folder', w'.folder? root = some folder' → folder'.IsTree →
        HaveSameAccepted selection root folder folder' →
          scan w' root selection = .ok components := by
  -- the records of the finds, in the order of the walk
  refine ⟨componentsIn selection (openFiles root folder), by rw [scan, hroot], ?_,
    nodup_map_distinctBy _, fun w' folder' hroot' htree' h => ?_⟩
  · rw [componentsIn_eq htree, List.forall₂_map_right_iff, List.forall₂_same]
    intro f hf
    obtain ⟨g, hg, rfl⟩ := List.mem_map.1 hf
    exact isRecord_recordOf (List.fst_mem_of_mem_zipIdx (List.mem_filter.1 hg).1)
  · rw [componentsIn_eq htree, ← finds_congr htree htree' h, ← componentsIn_eq htree', scan, hroot']

/-- Of two cards the one that is visited first counts, and an index is not accepted. -/
theorem scan_isComplete_cards :
    let card := "export function Card() { return <div /> }".toUTF8
    let index := "export function Index() { return <div /> }".toUTF8
    let folder : Folder := .folder "components" (.file "Card.tsx" card .empty)
      (.file "index.tsx" index (.folder "pages" (.file "Card.tsx" card .empty) .empty))
    let w : Workspace := { disk := .folder "src" folder .empty, here := [], process := 7 }
    ∃ components, scan w ⟨"src"⟩ {} = .ok components ∧
      components.map (fun c => (c.name, c.path)) = [("Card", "components/Card.tsx")] := by
  intro card index folder w
  have htree : folder.IsTree := by decide
  obtain ⟨components, hscan, hrecords, -, -⟩ := scan_isComplete w ⟨"src"⟩ {} folder rfl htree
  refine ⟨components, hscan, ?_⟩
  -- the files are listed in the order of the walk, so nothing is to be sorted
  have hwalk : folder.depthFirst = folder.files :=
    (Folder.filesInOrder_eq htree).symm.trans (List.mergeSort_of_pairwise (by decide))
  have hfirsts : (firsts (finds {} ⟨"src"⟩ folder)).map
      (fun f => (f.candidate.name, pathOf f.place)) = [("Card", "components/Card.tsx")] := by
    rw [finds, hwalk]
    decide +kernel
  have hpaths := List.forall₂_map_left_iff.2 (List.forall₂_map_right_iff.2
    (hrecords.imp fun f c h => (Prod.ext h.name.symm h.path.symm :
      (f.candidate.name, pathOf f.place) = (c.name, c.path))))
  rw [List.forall₂_eq_eq_eq] at hpaths
  exact hpaths.symm.trans hfirsts

end SceneBoard.Source
