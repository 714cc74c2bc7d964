import SceneBoard.Files.Workspace

/-!
# What stands where on a disk

For following paths and for writing it does not matter how a disk is put together, only what stands
at each place (`Folder.item?`): a folder, a file with its bytes, or nothing. A new entry changes that
at its own place only (`item?_modify_set`), and removing it leaves the disk as it was
(`modify_remove_modify_set`). Where a path leads follows from what stands where (`follow_eq`), and
more folders do not change where it leads for writing (`target_of_folders`).
-/

namespace SceneBoard

/-- What stands at a place, whatever a folder may hold. -/
inductive Item where
  | folder
  | file (content : ByteArray)

/-- Whether there is a folder can be told without looking at the bytes of files. -/
instance : (i : Option Item) → Decidable (i = some .folder)
  | none => .isFalse (by simp)
  | some .folder => .isTrue rfl
  | some (.file _) => .isFalse (by simp)

/-- The entry that a new item is: a folder has nothing in it yet. -/
def Item.entry : Item → Entry
  | .folder => .folder .empty
  | .file content => .file content

/-- What an entry is. -/
def Entry.item : Entry → Item
  | .folder _ => .folder
  | .file content => .file content

namespace Folder

variable {f inner : Folder} {name : String} {e e' : Entry} {place rest : List String}

/-- What stands at a place. -/
def item? (f : Folder) (place : List String) : Option Item :=
  (f.entry? place).map Entry.item

/-! ## Entries of one folder -/

private theorem find?_cons (n : String) (e : Entry) (f : Folder) (name : String) :
    (cons n e f).find? name = if n = name then some e else f.find? name := by
  cases e <;> rfl

private theorem set_cons (n : String) (e : Entry) (f : Folder) (name : String) (e' : Entry) :
    (cons n e f).set name e' = if n = name then cons name e' f else cons n e (f.set name e') := by
  cases e <;> rfl

private theorem remove_cons (n : String) (e : Entry) (f : Folder) (name : String) :
    (cons n e f).remove name = if n = name then f else cons n e (f.remove name) := by
  cases e <;> rfl

/-- For the entries of one folder it does not matter whether they are files or folders. -/
@[elab_as_elim]
private theorem induction_cons {motive : Folder → Prop} (f : Folder) (empty : motive .empty)
    (cons : ∀ n e rest, motive rest → motive (cons n e rest)) : motive f := by
  induction f with
  | empty => exact empty
  | file n content rest ih => exact cons n (.file content) rest ih
  | folder n inner rest _ ih => exact cons n (.folder inner) rest ih

/-- After an entry was set it is the one that is found under its name. -/
theorem find?_set (f : Folder) (name name' : String) (e : Entry) :
    (f.set name e).find? name' = if name = name' then some e else f.find? name' := by
  -- by induction on the entries, with a case for the entry of the name
  induction f using induction_cons with
  | empty => exact find?_cons name e .empty name'
  | cons n e' rest ih =>
    rw [set_cons]
    split
    · rename_i hn
      rw [find?_cons, find?_cons, hn]
      split <;> rfl
    · rename_i hn
      rw [find?_cons, find?_cons, ih]
      by_cases hn' : n = name'
      · rw [if_pos hn', if_pos hn', if_neg fun h => hn (hn'.trans h.symm)]
      · rw [if_neg hn', if_neg hn']

/-- Of two entries set under one name the second one counts. -/
theorem set_set (f : Folder) (name : String) (e e' : Entry) :
    (f.set name e).set name e' = f.set name e' := by
  induction f using induction_cons with
  | empty => exact (set_cons name e .empty name e').trans (if_pos rfl)
  | cons n e'' rest ih =>
    by_cases hn : n = name
    · rw [set_cons, if_pos hn, set_cons, if_pos rfl, set_cons, if_pos hn]
    · rw [set_cons, if_neg hn, set_cons, if_neg hn, ih, set_cons, if_neg hn]

/-- Setting the entry that is there changes nothing. -/
theorem set_eq_self (h : f.find? name = some e) : f.set name e = f := by
  induction f using induction_cons with
  | empty => simp [find?] at h
  | cons n e' rest ih =>
    rw [find?_cons] at h
    by_cases hn : n = name
    · rw [if_pos hn, Option.some_inj] at h
      rw [set_cons, if_pos hn, h, hn]
    · rw [if_neg hn] at h
      rw [set_cons, if_neg hn, ih h]

/-- An entry under a new name can be removed again. -/
theorem remove_set (h : f.find? name = none) : (f.set name e).remove name = f := by
  induction f using induction_cons with
  | empty => exact (remove_cons name e .empty name).trans (if_pos rfl)
  | cons n e' rest ih =>
    rw [find?_cons] at h
    by_cases hn : n = name
    · simp [hn] at h
    · rw [if_neg hn] at h
      rw [set_cons, if_neg hn, remove_cons, if_neg hn, ih h]

/-! ## Entries at places -/

/-- What is at a place of a folder is found from the folder on. -/
theorem entry?_append (h : f.entry? place = some (.folder inner)) (rest : List String) :
    f.entry? (place ++ rest) = inner.entry? rest := by
  induction place generalizing f with
  | nil =>
    rw [Folder.entry?, Option.some_inj, Entry.folder.injEq] at h
    rw [h, List.nil_append]
  | cons n place ih =>
    rw [Folder.entry?] at h
    rw [List.cons_append, Folder.entry?]
    -- the first name is that of a folder, as the way goes on
    split at h
    · exact ih h
    · split at h <;> simp at h
    · simp at h

/-- A place of one name is the entry of that name. -/
theorem entry?_singleton (f : Folder) (name : String) : f.entry? [name] = f.find? name := by
  rw [Folder.entry?]
  split
  · rename_i g hg
    rw [hg, Folder.entry?]
  · rename_i content hg
    rw [if_pos rfl, hg]
  · rename_i hg
    rw [hg]

/-- Two changes of one folder. -/
theorem modify_modify (change change' : Folder → Folder) (place : List String) (f : Folder) :
    (f.modify change place).modify change' place = f.modify (change' ∘ change) place := by
  induction place generalizing f with
  | nil => rfl
  | cons n place ih =>
    -- a change below something that is not a folder does nothing
    cases h : f.find? n with
    | none => simp only [modify, h]
    | some e =>
      cases e with
      | file content => simp only [modify, h]
      | folder g => simp only [modify, h, find?_set, if_true, ih, set_set]

/-- A change that leaves the folder as it is leaves everything as it is. -/
theorem modify_eq_self {change : Folder → Folder}
    (h : ∀ g, f.entry? place = some (.folder g) → change g = g) : f.modify change place = f := by
  induction place generalizing f with
  | nil => exact h f rfl
  | cons n place ih =>
    rw [modify]
    split
    · rename_i g hg
      rw [ih fun g' hg' => h g' (by rw [Folder.entry?, hg]; exact hg')]
      exact set_eq_self hg
    · rfl

/-- An entry at a place where nothing was can be removed again. -/
theorem modify_remove_modify_set (h : f.entry? (place ++ [name]) = none) :
    (f.modify (·.set name e) place).modify (·.remove name) place = f := by
  rw [modify_modify]
  refine modify_eq_self fun g hg => remove_set ?_
  rwa [entry?_append hg, entry?_singleton] at h

/-! ## Items -/

/-- A folder is a place where a folder is. -/
theorem isFolderAt_iff : f.isFolderAt place ↔ f.item? place = some .folder := by
  rw [isFolderAt, item?]
  cases f.entry? place with
  | none => simp
  | some e => cases e <;> simp [Entry.item]

/-- A file at a place is the entry there. -/
theorem item?_eq_file_iff {content : ByteArray} :
    f.item? place = some (.file content) ↔ f.entry? place = some (.file content) := by
  rw [item?]
  cases f.entry? place with
  | none => simp
  | some e => cases e <;> simp [Entry.item]

theorem item?_eq_none_iff : f.item? place = none ↔ f.entry? place = none :=
  Option.map_eq_none_iff

/-- What stands at a place of an entry. -/
private def itemOf? : Entry → List String → Option Item
  | e, [] => some e.item
  | .folder f, place => f.item? place
  | .file _, _ => none

/-- A place is looked up name by name. -/
private theorem item?_cons (f : Folder) (name : String) (rest : List String) :
    f.item? (name :: rest) = (f.find? name).bind (itemOf? · rest) := by
  rw [item?, Folder.entry?]
  cases f.find? name with
  | none => rfl
  | some e =>
    cases e with
    | file content => cases rest <;> rfl
    | folder g => cases rest <;> rfl

private theorem itemOf?_folder (f : Folder) (place : List String) :
    itemOf? (.folder f) place = f.item? place := by
  cases place <;> rfl

private theorem itemOf?_entry {i : Item} (h : rest ≠ []) : itemOf? i.entry rest = none := by
  obtain ⟨n, rest, rfl⟩ := List.exists_cons_of_ne_nil h
  cases i <;> rfl

/-- Below what is no folder there is nothing. -/
private theorem item?_cons_of_not_folder (h : f.item? [name] ≠ some .folder) (hrest : rest ≠ []) :
    f.item? (name :: rest) = none := by
  rw [item?_cons] at h ⊢
  cases hfound : f.find? name with
  | none => rfl
  | some e =>
    obtain ⟨n, rest, rfl⟩ := List.exists_cons_of_ne_nil hrest
    cases e with
    | file content => rfl
    | folder g => simp [hfound, itemOf?, Entry.item] at h

/-- A new item in a folder stands under its name, and everything else stands where it stood. -/
private theorem item?_set {i : Item} (hnew : f.item? [name] ≠ some .folder) (place : List String) :
    (f.set name i.entry).item? place = if place = [name] then some i else f.item? place := by
  cases place with
  | nil => rfl
  | cons n rest =>
    rw [item?_cons, find?_set]
    by_cases hn : name = n
    · subst hn
      rw [if_pos rfl, Option.bind_some]
      -- the place itself has the new item, and nothing was or is below it
      cases rest with
      | nil => cases i <;> simp [itemOf?, Item.entry, Entry.item]
      | cons m rest =>
        rw [itemOf?_entry (by simp), if_neg (by simp)]
        exact (item?_cons_of_not_folder hnew (by simp)).symm
    · -- a place of another first name is as before
      have hne : n :: rest ≠ [name] := fun h => hn (List.cons.inj h).1.symm
      rw [if_neg hn, if_neg hne, item?_cons]

/-- A new item stands at its place, and everything else stands where it stood. -/
theorem item?_modify_set {folder : List String} {i : Item} (hfolder : f.item? folder = some .folder)
    (hnew : f.item? (folder ++ [name]) ≠ some .folder) (place : List String) :
    (f.modify (·.set name i.entry) folder).item? place =
      if place = folder ++ [name] then some i else f.item? place := by
  induction folder generalizing f place with
  | nil => exact item?_set hnew place
  | cons m folder ih =>
    rw [item?_cons] at hfolder
    rw [List.cons_append, item?_cons] at hnew
    -- the first name of the way is that of a folder
    cases hfound : f.find? m with
    | none => simp [hfound] at hfolder
    | some e =>
      cases e with
      | file content => cases folder <;> simp [hfound, itemOf?, Entry.item] at hfolder
      | folder g =>
        rw [hfound, Option.bind_some, itemOf?_folder] at hfolder hnew
        simp only [modify, hfound]
        cases place with
        | nil => rfl
        | cons n rest =>
          rw [item?_cons, find?_set, item?_cons f]
          by_cases hn : m = n
          · subst hn
            rw [if_pos rfl, Option.bind_some, itemOf?_folder, ih hfolder hnew, hfound,
              Option.bind_some, itemOf?_folder]
            simp
          · have hne : n :: rest ≠ (m :: folder) ++ [name] := fun h => hn (List.cons.inj h).1.symm
            rw [if_neg hn, if_neg hne]

end Folder

/-! ## Following paths -/

namespace Workspace

/-- Follow a piece from a place, given what stands where. -/
def step (item? : List String → Option Item) (place : List String) (s : String) :
    Except DiskError (List String) :=
  if item? place = some .folder then
    if Path.isIdle s then .ok place
    else if s = ".." then .ok place.dropLast
    else if nameLimit < s.utf8ByteSize then .error .nameTooLong
    else if (item? (place ++ [s])).isSome then .ok (place ++ [s])
    else .error .notFound
  else .error .notAFolder

/-- Follow pieces from a place, given what stands where. -/
def walkFrom (item? : List String → Option Item) (place segments : List String) :
    Except DiskError (List String) :=
  segments.foldlM (step item?) place

/-- The folders above an entry, up to the root of a disk. -/
private def IsWay (disk : Folder) : List (String × Folder) → Entry → Prop
  | [], e => e = .folder disk
  | (name, f) :: above, e => f.find? name = some e ∧ IsWay disk above (.folder f)

/-- The names of a way lead to its end. -/
private theorem IsWay.entry? {disk : Folder} {above : List (String × Folder)} {e : Entry}
    (h : IsWay disk above e) : disk.entry? (above.map (·.1)).reverse = some e := by
  induction above generalizing e with
  | nil => exact congrArg some h.symm
  | cons a above ih =>
    obtain ⟨name, f⟩ := a
    rw [List.map_cons, List.reverse_cons, Folder.entry?_append (ih h.2), Folder.entry?_singleton]
    exact h.1

/-- A walk needs to know only what stands where. -/
private theorem walk_eq {disk : Folder} {above : List (String × Folder)} {e : Entry}
    (h : IsWay disk above e) (segments : List String) :
    walk above e segments = walkFrom disk.item? (above.map (·.1)).reverse segments := by
  induction segments generalizing above e with
  | nil => cases e <;> rfl
  | cons s more ih =>
    have hitem : disk.item? (above.map (·.1)).reverse = some e.item := by
      rw [Folder.item?, h.entry?, Option.map_some]
    rw [walkFrom, List.foldlM_cons, step, hitem]
    cases e with
    | file content => rfl
    | folder f =>
      rw [Entry.item, if_pos rfl]
      simp only [walk]
      -- a piece that says nothing
      split
      · exact ih h
      split
      · cases above with
        -- the folder above the root is the root
        | nil => exact ih h
        | cons a above =>
          rw [List.map_cons, List.reverse_cons, List.dropLast_concat]
          exact ih h.2
      split
      · rfl
      -- a name is looked up in the folder at the end of the way
      have hfind : disk.entry? ((above.map (·.1)).reverse ++ [s]) = f.find? s := by
        rw [Folder.entry?_append h.entry?, Folder.entry?_singleton]
      rw [Folder.item?, hfind]
      cases hs : f.find? s with
      | none => rfl
      -- the way is longer by this entry
      | some e =>
        have hway : IsWay disk ((s, f) :: above) e := ⟨hs, h⟩
        have hnext := ih hway
        rw [List.map_cons, List.reverse_cons] at hnext
        exact hnext

section

variable {item item' : List String → Option Item} {place place' segments : List String} {s : String}

/-- A piece is followed from folders only: it stays there, goes up or leads to what stands under the
name. -/
theorem step_eq_ok_iff : step item place s = .ok place' ↔ item place = some .folder ∧
    ((Path.isIdle s ∧ place' = place) ∨
      (¬ Path.isIdle s ∧ s = ".." ∧ place' = place.dropLast) ∨
      (¬ Path.isIdle s ∧ s ≠ ".." ∧ ¬ nameLimit < s.utf8ByteSize ∧
        (item (place ++ [s])).isSome ∧ place' = place ++ [s])) := by
  rw [step]
  by_cases hfolder : item place = some .folder
  · rw [if_pos hfolder]
    -- nothing, up or down: each of the three steps excludes the others
    by_cases hidle : Path.isIdle s
    · simp only [hfolder, hidle, if_true, Except.ok.injEq, true_and, not_true_eq_false, false_and,
        or_false]
      exact eq_comm
    rw [if_neg hidle]
    by_cases hup : s = ".."
    · subst hup
      simp only [hfolder, hidle, if_true, Except.ok.injEq, true_and, Bool.false_eq_true,
        not_false_eq_true, ne_eq, not_true_eq_false, false_and, or_false, false_or]
      exact eq_comm
    rw [if_neg hup]
    by_cases hlong : nameLimit < s.utf8ByteSize
    · simp [hidle, hup, hlong]
    rw [if_neg hlong]
    by_cases hthere : (item (place ++ [s])).isSome
    · simp [hfolder, hidle, hup, hlong, hthere, eq_comm]
    · simp [hidle, hup, hthere]
  · simp [hfolder]

/-- A walk succeeds step by step. -/
theorem walkFrom_cons_eq_ok_iff : walkFrom item place (s :: segments) = .ok place' ↔
    ∃ next, step item place s = .ok next ∧ walkFrom item next segments = .ok place' := by
  rw [walkFrom, List.foldlM_cons]
  cases hstep : step item place s with
  | error e => simp [bind, Except.bind]
  | ok next => simp [bind, Except.bind, walkFrom]

/-- A piece leads to the same folder when there are more folders. -/
private theorem step_of_folders (hfolders : ∀ place, item place = some .folder →
      item' place = some .folder) (h : step item place s = .ok place')
    (hend : item place' = some .folder) : step item' place s = .ok place' := by
  obtain ⟨hplace, hcases⟩ := step_eq_ok_iff.1 h
  refine step_eq_ok_iff.2 ⟨hfolders place hplace, ?_⟩
  rcases hcases with hidle | hup | ⟨hidle, hup, hshort, -, rfl⟩
  · exact .inl hidle
  · exact .inr (.inl hup)
  · refine .inr (.inr ⟨hidle, hup, hshort, ?_, rfl⟩)
    -- a folder at the end of the step is there in the other disk as well
    rw [hfolders _ hend]
    rfl

/-- A way to a folder stays when there are more folders. -/
theorem walkFrom_of_folders (hfolders : ∀ place, item place = some .folder →
      item' place = some .folder) (h : walkFrom item place segments = .ok place')
    (hend : item place' = some .folder) : walkFrom item' place segments = .ok place' := by
  induction segments generalizing place with
  | nil => exact h
  | cons s more ih =>
    obtain ⟨next, hstep, hnext⟩ := walkFrom_cons_eq_ok_iff.1 h
    -- all places on the way are folders
    have hfolder : item next = some .folder := by
      cases more with
      | nil => rwa [Except.ok.inj hnext]
      | cons t more =>
        obtain ⟨_, hstep', -⟩ := walkFrom_cons_eq_ok_iff.1 hnext
        exact (step_eq_ok_iff.1 hstep').1
    exact walkFrom_cons_eq_ok_iff.2 ⟨next, step_of_folders hfolders hstep hfolder, ih hnext⟩

end

variable {w w' : Workspace} {p : Path} {folder : List String} {name : String}

/-- Where the pieces of a path lead is told by what stands where. -/
theorem follow_eq (w : Workspace) (p : Path) (segments : List String) :
    w.follow p segments = walkFrom w.disk.item? []
      (if p.isAbsolute then segments else w.here ++ segments) := by
  have htop : IsWay w.disk [] (.folder w.disk) := rfl
  exact walk_eq htop _

/-! ## Where paths lead for writing -/

/-- What a target says of its path. -/
private theorem exists_of_target {t : Target} (h : w.target p = .ok t) :
    refusal? p = none ∧ w.follow p (trimSegments p.segments).dropLast = .ok t.folder ∧
      w.disk.item? t.folder = some .folder ∧
      t.name = (trimSegments p.segments).getLast?.filter
        (fun s => !(Path.isIdle s || s == "..")) ∧
      ¬ t.name.any (nameLimit < ·.utf8ByteSize) ∧
      t.slash = decide ((trimSegments p.segments).length < p.segments.length) := by
  rw [target] at h
  split at h
  · simp at h
  -- each check that is passed leaves a fact about the path
  rename_i hallowed
  simp only at h
  split at h
  · simp at h
  rename_i folder hfollow
  split at h
  · simp at h
  rename_i hfolder
  split at h
  · simp at h
  rename_i hshort
  obtain rfl := Except.ok.inj h
  refine ⟨hallowed, hfollow, Folder.isFolderAt_iff.1 ?_, rfl, hshort, rfl⟩
  simpa using hfolder

theorem folder_of_target {t : Target} (h : w.target p = .ok t) :
    w.disk.item? t.folder = some .folder :=
  (exists_of_target h).2.2.1

/-- More folders do not change where a path leads for writing. -/
theorem target_of_folders {t : Target} (hhere : w'.here = w.here)
    (hfolders : ∀ place, w.disk.item? place = some .folder → w'.disk.item? place = some .folder)
    (h : w.target p = .ok t) : w'.target p = .ok t := by
  obtain ⟨hallowed, hfollow, hfolder, -, -, -⟩ := exists_of_target h
  have hfollow' : w'.follow p (trimSegments p.segments).dropLast = .ok t.folder := by
    rw [follow_eq] at hfollow ⊢
    rw [hhere]
    exact walkFrom_of_folders hfolders hfollow hfolder
  have hthere := Folder.isFolderAt_iff.2 hfolder
  have hthere' := Folder.isFolderAt_iff.2 (hfolders _ hfolder)
  simp only [target, hallowed, hfollow, hthere] at h
  simp only [target, hallowed, hfollow', hthere']
  exact h

/-- Where no slash was cut off the pieces are as they were. -/
private theorem trimSegments_eq_self {segments : List String}
    (h : ¬ (trimSegments segments).length < segments.length) : trimSegments segments = segments := by
  have hsuffix := List.dropWhile_suffix (· == "") (l := segments.reverse)
  rw [trimSegments, List.length_reverse, ← @List.length_reverse _ segments] at h
  rw [trimSegments, hsuffix.eq_of_length_le (by omega), List.reverse_reverse]

/-- A path that leads to a name in a folder, without a slash behind the name. -/
theorem exists_of_target_name (h : w.target p = .ok ⟨folder, some name, false⟩) :
    ∃ init, p.segments = init ++ [name] ∧ w.follow p init = .ok folder ∧
      ¬ Path.isIdle name ∧ name ≠ ".." ∧ ¬ nameLimit < name.utf8ByteSize := by
  obtain ⟨-, hfollow, -, hname, hshort, hslash⟩ := exists_of_target h
  rw [trimSegments_eq_self (of_decide_eq_false hslash.symm)] at hfollow hname
  obtain ⟨hlast, hname⟩ := Option.filter_eq_some_iff.1 hname.symm
  obtain ⟨init, hinit⟩ := List.getLast?_eq_some_iff.1 hlast
  rw [hinit, List.dropLast_concat] at hfollow
  refine ⟨init, hinit, hfollow, ?_, ?_, ?_⟩
  · rintro hidle
    simp [hidle] at hname
  · rintro rfl
    simp at hname
  · simpa using hshort

/-- What is read at such a path is what stands under the name. -/
theorem resolve_of_target (h : w.target p = .ok ⟨folder, some name, false⟩) : w.resolve p =
    if (w.disk.item? (folder ++ [name])).isSome then .ok (folder ++ [name])
    else .error .notFound := by
  obtain ⟨init, hsegments, hfollow, hidle, hup, hshort⟩ := exists_of_target_name h
  rw [follow_eq] at hfollow
  have hsplit : (if p.isAbsolute then init ++ [name] else w.here ++ (init ++ [name])) =
      (if p.isAbsolute then init else w.here ++ init) ++ [name] := by
    split <;> simp
  rw [resolve, (exists_of_target h).1]
  show w.follow p p.segments = _
  rw [follow_eq, hsegments, hsplit, walkFrom, List.foldlM_append]
  -- up to the last name the walk is the one of the target
  rw [walkFrom] at hfollow
  rw [hfollow]
  show walkFrom w.disk.item? folder [name] = _
  rw [walkFrom, List.foldlM_cons, step, if_pos (folder_of_target h), if_neg hidle, if_neg hup,
    if_neg hshort]
  split <;> rfl

/-- The entry at a target is the entry of its path. -/
theorem entry_of_target {e : Entry} (h : w.target p = .ok ⟨folder, some name, false⟩)
    (he : w.disk.entry? (folder ++ [name]) = some e) : w.entry p = .ok e := by
  have hitem : w.disk.item? (folder ++ [name]) = some e.item := by
    rw [Folder.item?, he, Option.map_some]
  rw [entry, resolve_of_target h, hitem, Option.isSome_some, if_pos rfl]
  simp only [he]

/-- Without an entry at its target a path is not found. -/
theorem entry_of_target_none (h : w.target p = .ok ⟨folder, some name, false⟩)
    (he : w.disk.entry? (folder ++ [name]) = none) : w.entry p = .error .notFound := by
  have hitem : w.disk.item? (folder ++ [name]) = none := Folder.item?_eq_none_iff.2 he
  rw [entry, resolve_of_target h, hitem]
  rfl

end Workspace

end SceneBoard
