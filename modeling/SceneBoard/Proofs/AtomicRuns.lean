import SceneBoard.Proofs.Disk
import SceneBoard.Proofs.SceneStyle
import SceneBoard.Run

/-!
# Runs are atomic

A run either stores the whole storyboard or changes no file, whatever goes wrong with the disk on the
way. The new text goes into a draft beside the file; up to the moment in which the draft gets the name
of the file, all that has come are folders (`HasSameFiles`) and the draft. The draft may have broken
off, but whatever is in it, it can be removed without a trace (`discard_setEntry`). So where anything
fails, the files are as before (`replaceFile_of_error`), and if nothing fails, one file has the new text
and all others are as before (`replaceFile_of_ok`).

## Key results

- `Workspace.replaceFile_of_error`, `Workspace.replaceFile_of_ok`: storing one text
- `Config.run_isAtomic`: runs, with dry runs among them
-/

namespace SceneBoard

namespace Workspace

variable {w w' w'' : Workspace} {p : Path} {text : String}

/-! ## Making folders -/

/-- The second workspace has the files of the first one. It may have more folders. -/
structure HasSameFiles (w w' : Workspace) : Prop where
  here : w'.here = w.here
  process : w'.process = w.process
  files : ∀ place content, w'.disk.entry? place = some (.file content) ↔
    w.disk.entry? place = some (.file content)
  folders : ∀ place, w.disk.isFolderAt place → w'.disk.isFolderAt place

namespace HasSameFiles

theorem refl (w : Workspace) : w.HasSameFiles w :=
  ⟨rfl, rfl, fun _ _ => Iff.rfl, fun _ h => h⟩

/-- Step by step the files stay the same. -/
theorem trans (h : w.HasSameFiles w') (h' : w'.HasSameFiles w'') : w.HasSameFiles w'' where
  here := h'.here.trans h.here
  process := h'.process.trans h.process
  files place content := (h'.files place content).trans (h.files place content)
  folders place hplace := h'.folders place (h.folders place hplace)

end HasSameFiles

/-- What goes wrong later on does not change the files. -/
theorem hasSameFiles_faults (w : Workspace) (faults : List (Option Fault)) :
    w.HasSameFiles { w with faults } :=
  ⟨rfl, rfl, fun _ _ => Iff.rfl, fun _ h => h⟩

/-- Nor does it change where paths lead. -/
private theorem target_faults {faults : List (Option Fault)} {t : Target} :
    { w with faults }.target p = .ok t ↔ w.target p = .ok t :=
  ⟨target_of_folders rfl fun _ h => h, target_of_folders rfl fun _ h => h⟩

/-- What stands where once a new item is there. -/
theorem item?_setEntry {folder : List String} {name : String} {i : Item}
    (hfolder : w.disk.item? folder = some .folder)
    (hnew : w.disk.item? (folder ++ [name]) ≠ some .folder) (place : List String) :
    (w.setEntry folder name i.entry).disk.item? place =
      if place = folder ++ [name] then some i else w.disk.item? place :=
  Folder.item?_modify_set hfolder hnew place

/-- A new folder hides no file, as it is made where nothing stands. -/
private theorem hasSameFiles_setEntry_folder {t : Target} {name : String}
    (ht : w.target p = .ok t) (hnew : ¬ (w.disk.entry? (t.folder ++ [name])).isSome) :
    w.HasSameFiles (w.setEntry t.folder name (.folder .empty)) := by
  have hnone : w.disk.item? (t.folder ++ [name]) = none := by
    rw [Folder.item?_eq_none_iff]
    simpa using hnew
  have hitem (place : List String) :
      (w.setEntry t.folder name (.folder .empty)).disk.item? place =
        if place = t.folder ++ [name] then some .folder else w.disk.item? place :=
    item?_setEntry (i := .folder) (folder_of_target ht) (by simp [hnone]) place
  refine ⟨rfl, rfl, fun place content => ?_, fun place hplace => ?_⟩
  · -- what was no entry is now a folder, and so no file
    rw [← Folder.item?_eq_file_iff, ← Folder.item?_eq_file_iff, hitem]
    split
    · rename_i hplace
      simp [hplace, hnone]
    · rfl
  · rw [Folder.isFolderAt_iff] at hplace ⊢
    rw [hitem]
    split
    · rfl
    · exact hplace

/-- Making a folder changes no file, whether it is made or not. -/
private theorem hasSameFiles_makeFolder (w : Workspace) (p : Path) :
    w.HasSameFiles (w.makeFolder p).1 := by
  rw [makeFolder]
  split
  · exact .refl w
  rename_i t ht
  split
  · exact .refl w
  rename_i name _
  split
  · exact .refl w
  rename_i hnew
  split
  · exact hasSameFiles_faults w _
  · exact (hasSameFiles_setEntry_folder ht hnew).trans (hasSameFiles_faults _ _)

/-- It does not matter either whether the folder is there. -/
private theorem hasSameFiles_ensureFolder (w : Workspace) (p : Path) :
    w.HasSameFiles (w.ensureFolder p).1 := by
  have hmade := hasSameFiles_makeFolder w p
  rw [ensureFolder]
  split
  · rename_i heq
    rwa [heq] at hmade
  · rename_i heq
    rw [heq] at hmade
    split <;> exact hmade

/-- Making all the folders of a path changes no file, however many of them are made. -/
private theorem hasSameFiles_makeFoldersUpTo (depth : Nat) (w : Workspace) (p : Path) :
    w.HasSameFiles (makeFoldersUpTo depth w p).1 := by
  induction depth generalizing w p with
  | zero => exact .refl w
  | succ depth ih =>
    have hfirst := hasSameFiles_ensureFolder w p
    -- as deep as the walk goes
    rw [makeFoldersUpTo]
    split
    · exact .refl w
    split
    · rename_i heq
      rwa [heq] at hfirst
    · -- the folders above are made first
      rename_i w₁ heq
      rw [heq] at hfirst
      split
      · exact hfirst
      · rename_i parent _
        have habove := ih w₁ parent
        split
        · rename_i hfailed
          rw [hfailed] at habove
          exact hfirst.trans habove
        · rename_i w₂ hmade
          rw [hmade] at habove
          exact (hfirst.trans habove).trans (hasSameFiles_ensureFolder w₂ p)
    · rename_i heq
      rwa [heq] at hfirst

/-- Making the folder of a file changes no file. -/
theorem hasSameFiles_makeParent (w : Workspace) (p : Path) :
    w.HasSameFiles (w.makeParent p).1 := by
  rw [makeParent]
  split
  · exact hasSameFiles_makeFoldersUpTo _ w _
  · exact .refl w

/-! ## The draft -/

/-- The name of the draft is not in use: once there is a folder for it, it leads to no file. -/
def IsDraftFree (w : Workspace) (p : Path) : Prop :=
  ∀ content, (w.makeParent p).1.entry (w.draftPath p) ≠ .ok (.file content)

/-- An operation has failed and left everything as it was, but for the faults to come. -/
private def IsRefusal (w w' : Workspace) (r : Except DiskError Unit) : Prop :=
  ∃ e faults, r = .error e ∧ w' = { w with faults }

private theorem IsRefusal.of_eq {e : DiskError} {faults : List (Option Fault)}
    {r : Except DiskError Unit} (h : ({ w with faults }, .error e) = (w', r)) :
    IsRefusal w w' r := by
  obtain ⟨rfl, rfl⟩ := Prod.mk.inj h
  exact ⟨e, faults, rfl, rfl⟩

/-- What can come of writing a file: no change at all, or the file with what was stored of it, which
is everything if nothing went wrong. -/
private theorem exists_of_writeFile {content : ByteArray} {r : Except DiskError Unit}
    (h : w.writeFile p content = (w', r)) : IsRefusal w w' r ∨
    ∃ folder name stored faults, w.target p = .ok ⟨folder, some name, false⟩ ∧
      w.disk.item? (folder ++ [name]) ≠ some .folder ∧
      w' = { w with faults }.setEntry folder name (.file stored) ∧ (r = .ok () → stored = content) := by
  rw [writeFile] at h
  -- the path, its name and the entry that is there decide first
  split at h
  · exact .inl (.of_eq h)
  rename_i t ht
  split at h
  · exact .inl (.of_eq h)
  rename_i name hname
  split at h
  · exact .inl (.of_eq h)
  rename_i hfree
  obtain ⟨folder, _, slash⟩ := t
  obtain rfl : _ = some name := hname
  simp only [Bool.or_eq_true, not_or, Bool.not_eq_true] at hfree
  obtain rfl : slash = false := hfree.2
  have hnew : w.disk.item? (folder ++ [name]) ≠ some .folder := by
    intro hfolder
    rw [Folder.isFolderAt_iff.2 hfolder] at hfree
    simp at hfree
  -- from here on it is the device that decides
  split at h
  · exact .inl (.of_eq h)
  · obtain ⟨rfl, rfl⟩ := Prod.mk.inj h
    exact .inr ⟨folder, name, _, _, ht, hnew, rfl, by simp⟩
  · obtain ⟨rfl, rfl⟩ := Prod.mk.inj h
    exact .inr ⟨folder, name, content, _, ht, hnew, rfl, fun _ => rfl⟩

/-- The room ends behind the second byte of a new file, and these two stay. -/
example :
    let w : Workspace :=
      { disk := .empty, here := [], process := 1, faults := [some (.cutOff 2 .noRoom)] }
    (w.writeFile ⟨"a"⟩ "text".toUTF8).1.readText ⟨"a"⟩ = .ok "te" := by decide +kernel

/-- What is removed is a file. -/
private theorem exists_of_removeFile (h : w.removeFile p = .ok w') : ∃ folder name content,
    w.target p = .ok ⟨folder, some name, false⟩ ∧
      w.disk.entry? (folder ++ [name]) = some (.file content) := by
  -- a target with a name and a file there
  rw [removeFile] at h
  split at h
  · simp at h
  rename_i t ht
  split at h
  · simp at h
  rename_i name hname
  split at h
  · simp at h
  · simp at h
  rename_i content hfile
  obtain ⟨folder, _, slash⟩ := t
  obtain rfl : _ = some name := hname
  split at h
  · simp at h
  · rename_i hslash
    obtain rfl : slash = false := by simpa using hslash
    exact ⟨folder, name, content, ht, hfile⟩

/-- What can come of moving a file: no change at all, or the file at its new path. -/
private theorem exists_of_moveFile {old new : Path} {r : Except DiskError Unit}
    (h : w.moveFile old new = (w', r)) : IsRefusal w w' r ∨
    r = .ok () ∧ ∃ folder name content folder' name' faults,
      w.target old = .ok ⟨folder, some name, false⟩ ∧
      w.target new = .ok ⟨folder', some name', false⟩ ∧
      w.disk.entry? (folder ++ [name]) = some (.file content) ∧
      w.disk.item? (folder' ++ [name']) ≠ some .folder ∧
      w' = ({ w with faults }.removeEntry folder name).setEntry folder' name' (.file content) := by
  rw [moveFile] at h
  -- both paths, what the old one leads to, then the place of the new one
  split at h
  · exact .inl (.of_eq h)
  · exact .inl (.of_eq h)
  rename_i o n ho hn
  split at h
  · rename_i name name' hname hname'
    split at h
    · rename_i content hfile
      split at h
      · exact .inl (.of_eq h)
      rename_i hslash
      split at h
      · exact .inl (.of_eq h)
      rename_i hfree
      split at h
      · exact .inl (.of_eq h)
      -- the file takes the new name
      obtain ⟨rfl, rfl⟩ := Prod.mk.inj h
      obtain ⟨folder, _, slash⟩ := o
      obtain ⟨folder', _, slash'⟩ := n
      obtain rfl : _ = some name := hname
      obtain rfl : _ = some name' := hname'
      simp only [Bool.or_eq_true, not_or, Bool.not_eq_true] at hslash
      obtain ⟨rfl, rfl⟩ : slash = false ∧ slash' = false := hslash
      exact .inr ⟨rfl, folder, name, content, folder', name', _, ho, hn, hfile,
        fun hfolder => hfree (Folder.isFolderAt_iff.2 hfolder), rfl⟩
    · exact .inl (.of_eq h)
  · exact .inl (.of_eq h)

/-- Where there was no file, what is written is a new one. -/
private theorem entry?_eq_none_of_target {folder : List String} {name : String}
    (hfree : ∀ content, w.entry p ≠ .ok (.file content))
    (htarget : w.target p = .ok ⟨folder, some name, false⟩)
    (hnew : w.disk.item? (folder ++ [name]) ≠ some .folder) :
    w.disk.entry? (folder ++ [name]) = none := by
  cases hentry : w.disk.entry? (folder ++ [name]) with
  | none => rfl
  | some e =>
    cases e with
    | folder f => exact absurd (by rw [Folder.item?, hentry]; rfl) hnew
    | file content => exact absurd (entry_of_target htarget hentry) (hfree content)

/-- Where there is no file, discarding changes nothing. -/
private theorem discard_eq_self {faults : List (Option Fault)}
    (h : ∀ content, w.entry p ≠ .ok (.file content)) :
    { w with faults }.discard p = { w with faults } := by
  rw [discard]
  cases hremoved : { w with faults }.removeFile p with
  | error e => rfl
  | ok w' =>
    obtain ⟨folder, name, content, htarget, hfile⟩ := exists_of_removeFile hremoved
    exact absurd (entry_of_target (target_faults.1 htarget) hfile) (h content)

section

variable {folder : List String} {name : String} {content : ByteArray} {faults : List (Option Fault)}
  (htarget : w.target p = .ok ⟨folder, some name, false⟩)
  (hnone : w.disk.entry? (folder ++ [name]) = none)

include htarget hnone

/-- At a place where nothing was only the new file is different. -/
private theorem item?_setEntry_file (place : List String) :
    (w.setEntry folder name (.file content)).disk.item? place =
      if place = folder ++ [name] then some (.file content) else w.disk.item? place := by
  have hitem := Folder.item?_eq_none_iff.2 hnone
  exact item?_setEntry (i := .file content) (folder_of_target htarget) (by simp [hitem]) place

/-- The new file is none of the folders. -/
private theorem item?_setEntry_eq_folder_iff (place : List String) :
    (w.setEntry folder name (.file content)).disk.item? place = some .folder ↔
      w.disk.item? place = some .folder := by
  rw [item?_setEntry_file htarget hnone]
  split
  · rename_i hplace
    rw [hplace, Folder.item?_eq_none_iff.2 hnone]
    simp
  · rfl

/-- Paths lead for writing to where they led before. -/
private theorem target_setEntry {p' : Path} {t : Target} :
    ({ w with faults }.setEntry folder name (.file content)).target p' = .ok t ↔
      w.target p' = .ok t :=
  ⟨target_of_folders rfl fun place => (item?_setEntry_eq_folder_iff htarget hnone place).1,
    target_of_folders rfl fun place => (item?_setEntry_eq_folder_iff htarget hnone place).2⟩

/-- The new file stands at its place. -/
private theorem entry?_setEntry :
    Folder.entry? (folder ++ [name]) (w.setEntry folder name (.file content)).disk =
      some (.file content) := by
  rw [← Folder.item?_eq_file_iff, item?_setEntry_file htarget hnone, if_pos rfl]

omit htarget in
/-- Without the new file everything is as before. -/
private theorem removeEntry_setEntry :
    ({ w with faults }.setEntry folder name (.file content)).removeEntry folder name =
      { w with faults } := by
  simp only [removeEntry, setEntry, Folder.modify_remove_modify_set hnone]

/-- A new file can be discarded again, whatever is in it. -/
private theorem discard_setEntry :
    ({ w with faults }.setEntry folder name (.file content)).discard p = { w with faults } := by
  have htarget' := (@target_setEntry w p folder name content faults htarget hnone p _).2 htarget
  have hentry : Folder.entry? (folder ++ [name])
      ({ w with faults }.setEntry folder name (.file content)).disk = some (.file content) :=
    entry?_setEntry htarget hnone
  rw [discard, removeFile, htarget']
  simp only [hentry, removeEntry_setEntry hnone]
  rfl

/-- A new file that gets another name is as if it had been written under that name; otherwise it
stays as it is. -/
private theorem exists_of_moveFile_setEntry {new : Path} {r : Except DiskError Unit}
    (h : ({ w with faults }.setEntry folder name (.file content)).moveFile p new = (w', r)) :
    (∃ e faults, r = .error e ∧ w' = { w with faults }.setEntry folder name (.file content)) ∨
    r = .ok () ∧ ∃ folder' name' faults, w.target new = .ok ⟨folder', some name', false⟩ ∧
      w.disk.item? (folder' ++ [name']) ≠ some .folder ∧
      w' = { w with faults }.setEntry folder' name' (.file content) := by
  obtain ⟨e, faults, rfl, rfl⟩ | ⟨rfl, folder₁, name₁, content', folder', name', faults, hold, hnew,
    hfile, hfree, rfl⟩ := exists_of_moveFile h
  · exact .inl ⟨e, faults, rfl, rfl⟩
  -- what is moved is the new file
  have hsame := Except.ok.inj (((target_setEntry htarget hnone).1 hold).symm.trans htarget)
  obtain ⟨rfl, hname, -⟩ := Target.mk.inj hsame
  obtain rfl := Option.some.inj hname
  have hentry : Folder.entry? (folder₁ ++ [name₁])
      (w.setEntry folder₁ name₁ (.file content)).disk = some (.file content') := hfile
  rw [entry?_setEntry htarget hnone, Option.some_inj, Entry.file.injEq] at hentry
  refine .inr ⟨rfl, folder', name', faults, (target_setEntry htarget hnone).1 hnew,
    fun hfolder => ?_, ?_⟩
  · exact hfree ((item?_setEntry_eq_folder_iff htarget hnone _).2 hfolder)
  · have hback : ({ w with faults }.setEntry folder₁ name₁ (.file content)).removeEntry folder₁ name₁ =
        { w with faults } := removeEntry_setEntry hnone
    obtain rfl := hentry
    exact congrArg (fun w : Workspace => w.setEntry folder' name' (.file content)) hback

end

/-! ### Its name -/

/-- A path that leads to a name has that name at its end. -/
private theorem fileName?_of_target {folder : List String} {name : String}
    (h : w.target p = .ok ⟨folder, some name, false⟩) : p.fileName? = some name := by
  -- the last segment is a name, so it is not passed over
  obtain ⟨init, hsegments, -, hidle, hup, -⟩ := exists_of_target_name h
  have hdrop : (Path.dropIdle p.trail).head? = some name := by
    rw [Path.trail, hsegments, List.reverse_concat]
    cases init.reverse with
    | nil => rfl
    | cons s more =>
      rw [Path.dropIdle.eq_3 _ _ (by simp), if_neg hidle]
      rfl
  rw [Path.fileName?, Path.trailName?, hdrop, Option.bind_some, Path.partOf, if_neg hidle, if_neg hup]

/-- The last piece of a path below another one is that of the path. -/
private theorem getLast?_segments_join {name : String} (base : Path)
    (hslash : '/' ∉ name.toList) : (base.join ⟨name⟩).segments.getLast? = some name := by
  -- behind the last slash stands the name
  have hlast {t : String} (before : List Char) (h : t.toList = before ++ '/' :: name.toList) :
      (Text.pieces '/' t).getLast? = some name := by
    rw [Text.pieces, h, Text.splitOn_append, Text.splitOn_eq_singleton hslash]
    simp
  have hrelative : (Path.isAbsolute ⟨name⟩) = false := by
    rw [Path.isAbsolute, beq_eq_false_iff_ne]
    exact fun h => hslash (List.mem_of_mem_head? h)
  rw [Path.join, hrelative, Bool.false_or]
  split
  · rw [Path.segments, Text.pieces, Text.splitOn_eq_singleton hslash]
    simp
  split
  · rename_i hend
    obtain ⟨before, hbefore⟩ := List.getLast?_eq_some_iff.1 hend
    exact hlast before (by rw [String.toList_append, hbefore]; simp)
  · exact hlast base.text.toList (by rw [String.toList_append, String.toList_append]; simp)

/-- The draft has another name than the file. -/
private theorem draft_ne {folder folder' : List String} {name name' : String}
    (hdraft : w'.target (w.draftPath p) = .ok ⟨folder, some name, false⟩)
    (h : w''.target p = .ok ⟨folder', some name', false⟩) : name ≠ name' := by
  obtain ⟨init, hsegments, -⟩ := exists_of_target_name h
  obtain ⟨init', hsegments', -⟩ := exists_of_target_name hdraft
  have hslash : '/' ∉ name'.toList := by
    have hmem : name' ∈ p.segments := by simp [hsegments]
    obtain ⟨part, hpart, rfl⟩ := List.mem_map.1 hmem
    rw [String.toList_ofList]
    exact Text.not_mem_of_mem_splitOn hpart
  let draftName := "." ++ name' ++ "." ++ String.ofList (Text.natDecimal w.process) ++ ".tmp"
  have hlist : draftName.toList = '.' :: (name'.toList ++
      ('.' :: (Text.natDecimal w.process ++ ".tmp".toList))) := by
    simp [draftName]
  have hslash' : '/' ∉ draftName.toList := by
    have hdigits : '/' ∉ Text.natDecimal w.process := fun h => by
      simpa using Text.isDigit_of_mem_natDecimal h
    simp [hlist, hslash, hdigits]
  have hlast : (w.draftPath p).segments.getLast? = some draftName := by
    rw [draftPath, fileName?_of_target h, Option.getD_some, Path.withName]
    split <;> exact getLast?_segments_join _ hslash'
  -- if it had the name of the file, that name would be its own
  rw [hsegments', List.getLast?_concat, Option.some_inj] at hlast
  -- it is longer
  rintro rfl
  have hlength := congrArg (fun t => t.toList.length) hlast
  simp only [hlist, List.length_cons, List.length_append] at hlength
  omega

/-! ## Storing -/

/-- A text was stored in a file: it is what is read there, the draft is gone, and all other files are
as before. -/
structure HasStored (w w' : Workspace) (p : Path) (text : String) : Prop where
  read : w'.previousText p = some text
  draft : w'.has (w.draftPath p) = false
  files : ∃ place, w'.resolve p = .ok place ∧ ∀ place' ≠ place, ∀ content,
    w'.disk.entry? place' = some (.file content) ↔ w.disk.entry? place' = some (.file content)
  folders : ∀ place, w.disk.isFolderAt place → w'.disk.isFolderAt place

/-- The draft is named after the process. -/
private theorem draftPath_congr (h : w'.process = w.process) (p : Path) :
    w'.draftPath p = w.draftPath p := by
  rw [draftPath, draftPath, h]

/-- All that can come of storing a text: nothing but folders, or the file with the text and nothing
but folders besides. -/
private theorem exists_of_replaceFile {r : Except DiskError Unit} (hdraft : w.IsDraftFree p)
    (h : w.replaceFile p text = (w', r)) : ∃ made, w.HasSameFiles made ∧
      ((∃ e, r = .error e ∧ w' = made) ∨
        r = .ok () ∧ ∃ folder name folder' name',
          made.target (w.draftPath p) = .ok ⟨folder, some name, false⟩ ∧
          made.disk.entry? (folder ++ [name]) = none ∧
          made.target p = .ok ⟨folder', some name', false⟩ ∧
          made.disk.item? (folder' ++ [name']) ≠ some .folder ∧
          w' = made.setEntry folder' name' (.file text.toUTF8)) := by
  have hparent := w.hasSameFiles_makeParent p
  rw [IsDraftFree] at hdraft
  rw [replaceFile] at h
  split at h
  · -- the folders of the path could not be made
    rename_i made e hfailed
    rw [hfailed] at hparent
    obtain ⟨rfl, rfl⟩ := Prod.mk.inj h
    exact ⟨made, hparent, .inl ⟨e, rfl, rfl⟩⟩
  rename_i made hmade
  rw [hmade] at hparent hdraft
  dsimp only at h hparent hdraft
  have hkept (faults : List (Option Fault)) : w.HasSameFiles { made with faults } :=
    hparent.trans (hasSameFiles_faults made faults)
  rw [draftPath_congr hparent.process] at h
  split at h
  · -- the draft was not written, or not all of it
    rename_i written e hwritten
    obtain ⟨rfl, rfl⟩ := Prod.mk.inj h
    obtain ⟨-, faults, -, rfl⟩ | ⟨folder, name, stored, faults, htarget, hnew, rfl, -⟩ :=
      exists_of_writeFile hwritten
    · exact ⟨_, hkept faults, .inl ⟨e, rfl, discard_eq_self hdraft⟩⟩
    · have hnone := entry?_eq_none_of_target hdraft htarget hnew
      exact ⟨_, hkept faults, .inl ⟨e, rfl, discard_setEntry htarget hnone⟩⟩
  rename_i written hwritten
  obtain ⟨_, _, herror, -⟩ | ⟨folder, name, stored, faults, htarget, hnew, rfl, hall⟩ :=
    exists_of_writeFile hwritten
  · simp at herror
  obtain rfl := hall rfl
  have hnone := entry?_eq_none_of_target hdraft htarget hnew
  split at h
  · -- the draft did not get the name of the file
    rename_i moved e hmoved
    obtain ⟨rfl, rfl⟩ := Prod.mk.inj h
    obtain ⟨-, faults, -, rfl⟩ | ⟨hok, -⟩ := exists_of_moveFile_setEntry htarget hnone hmoved
    · exact ⟨_, hkept faults, .inl ⟨e, rfl, discard_setEntry htarget hnone⟩⟩
    · simp at hok
  -- the draft got the name of the file
  rename_i moved hmoved
  obtain ⟨rfl, rfl⟩ := Prod.mk.inj h
  obtain ⟨_, _, herror, -⟩ | ⟨-, folder', name', faults, hnew', hfree, rfl⟩ :=
    exists_of_moveFile_setEntry htarget hnone hmoved
  · simp at herror
  · exact ⟨{ made with faults }, hkept faults,
      .inr ⟨rfl, folder, name, folder', name', target_faults.2 htarget, hnone,
        target_faults.2 hnew', hfree, rfl⟩⟩

/-- If a text cannot be stored, all files are as before. -/
theorem replaceFile_of_error {e : DiskError} (hdraft : w.IsDraftFree p)
    (h : w.replaceFile p text = (w', .error e)) : w.HasSameFiles w' := by
  obtain ⟨made, hmade, ⟨-, -, rfl⟩ | ⟨hok, -⟩⟩ := exists_of_replaceFile hdraft h
  · exact hmade
  · simp at hok

/-- What is written for a text is read as that text. -/
private theorem textOf?_toUTF8 (text : String) : textOf? text.toUTF8 = some text :=
  dif_pos text.isValidUTF8

/-- If a text is stored, it stands in the file, and no other file has changed. -/
theorem replaceFile_of_ok (hdraft : w.IsDraftFree p)
    (h : w.replaceFile p text = (w', .ok ())) : w.HasStored w' p text := by
  obtain ⟨made, hmade, ⟨e, herror, -⟩ | ⟨-, folder, name, folder', name', htarget, hnone, hnew,
    hfree, hw'⟩⟩ := exists_of_replaceFile hdraft h
  · simp at herror
  have hhere : w'.here = made.here := by rw [hw']; rfl
  have hitem (place : List String) : w'.disk.item? place =
      if place = folder' ++ [name'] then some (.file text.toUTF8) else made.disk.item? place := by
    rw [hw']
    exact item?_setEntry (i := .file text.toUTF8) (folder_of_target hnew) hfree place
  have hfolders (place : List String) (hplace : made.disk.item? place = some .folder) :
      w'.disk.item? place = some .folder := by
    have hne : place ≠ folder' ++ [name'] := fun heq => hfree (heq ▸ hplace)
    rw [hitem, if_neg hne, hplace]
  -- both paths lead to where they led before the draft got its name
  have htarget' := target_of_folders hhere hfolders htarget
  have hnew' := target_of_folders hhere hfolders hnew
  have hplace : w'.disk.item? (folder' ++ [name']) = some (.file text.toUTF8) := by
    rw [hitem, if_pos rfl]
  have hgone : w'.disk.item? (folder ++ [name]) = none := by
    have hne : folder ++ [name] ≠ folder' ++ [name'] := fun heq =>
      draft_ne htarget hnew (by simpa using (List.append_inj' heq rfl).2)
    rw [hitem, if_neg hne, Folder.item?_eq_none_iff.2 hnone]
  -- the text is there, the draft is gone, and nothing else is different
  refine ⟨?_, ?_, ⟨folder' ++ [name'], ?_, fun place hne content => ?_⟩, fun place hthere => ?_⟩
  · rw [previousText, readText, entry_of_target hnew' (Folder.item?_eq_file_iff.1 hplace)]
    simp only [textOf?_toUTF8]
    rfl
  · rw [has, entry_of_target_none htarget' (Folder.item?_eq_none_iff.1 hgone)]
    rfl
  · rw [resolve_of_target hnew', hplace, Option.isSome_some, if_pos rfl]
  · rw [← hmade.files, ← Folder.item?_eq_file_iff, ← Folder.item?_eq_file_iff, hitem, if_neg hne]
  · rw [Folder.isFolderAt_iff]
    exact hfolders place (Folder.isFolderAt_iff.1 (hmade.folders place hthere))

end Workspace

/-! ## Runs -/

namespace Config

open Workspace

/-- What a run does to the files, whether it fails or not. -/
structure IsAtomic (w : Workspace) (config : Config) : Prop where
  /-- A run that fails changes no file. -/
  failed : ∀ w' e, config.run w = (w', .error e) → w.HasSameFiles w'
  /-- A dry run changes nothing. -/
  dry : config.dryRun → (config.run w).1 = w
  /-- Any other run that succeeds changes the file of the storyboard, and no other. -/
  stored : ∀ w' outcome, config.run w = (w', .ok outcome) → ¬ config.dryRun →
    w.HasStored w' config.output outcome.text
  /-- A dry run shows the text that is stored. -/
  shown : ∀ components, Source.scan w config.sourceRoot config.selection = .ok components →
    ∃ outcome, { config with dryRun := true }.run w = (w, .ok outcome) ∧
      ∀ w' outcome', config.run w = (w', .ok outcome') → outcome'.text = outcome.text

variable {w w' : Workspace} {config : Config} {components : List Component} {g : Generation}

/-- A dry run writes nothing and returns the text. -/
private theorem run_of_dryRun (h : config.generation w = .ok (components, g))
    (hdry : config.dryRun) : ∃ report, config.run w = (w, .ok ⟨report, g.text⟩) := by
  rw [run, h]
  simp only [hdry, if_true]
  exact ⟨_, rfl⟩

/-- Everything but a dry run stores the text. -/
private theorem run_of_not_dryRun (h : config.generation w = .ok (components, g))
    (hdry : ¬ config.dryRun) {r : Except RunError RunOutcome} (hrun : config.run w = (w', r)) :
    (∃ e, w.replaceFile config.output g.text = (w', .error e) ∧
      r = .error (.write config.output e)) ∨
    w.replaceFile config.output g.text = (w', .ok ()) ∧ ∃ report, r = .ok ⟨report, g.text⟩ := by
  rw [run, h] at hrun
  simp only [if_neg hdry] at hrun
  split at hrun
  · -- a failed write is reported, any other has a report
    rename_i e hfailed
    obtain ⟨rfl, rfl⟩ := Prod.mk.inj hrun
    exact .inl ⟨e, hfailed, rfl⟩
  · rename_i hstored
    obtain ⟨rfl, rfl⟩ := Prod.mk.inj hrun
    exact .inr ⟨hstored, _, rfl⟩

/-- Every run stores the whole storyboard or changes no file, if the name of the draft is not in
use. -/
theorem run_isAtomic (w : Workspace) (config : Config) (hdraft : w.IsDraftFree config.output) :
    IsAtomic w config := by
  cases hg : config.generation w with
  | error e =>
    -- the source tree cannot be scanned
    have hrun : config.run w = (w, .error (.scan e)) := by rw [run, hg]
    refine ⟨fun w' _ h => ?_, fun _ => by rw [hrun], fun w' _ h => ?_, fun components h => ?_⟩
    · obtain ⟨rfl, -⟩ := Prod.mk.inj (hrun.symm.trans h)
      exact .refl w
    · have herror := (Prod.mk.inj (hrun.symm.trans h)).2
      simp at herror
    · rw [generation, h] at hg
      simp at hg
  | ok result =>
    obtain ⟨components, g⟩ := result
    refine ⟨fun w' e h => ?_, fun hdry => ?_, fun w' outcome h hdry => ?_, fun _ _ => ?_⟩
    · -- on an error the files are those of before
      by_cases hdry : config.dryRun
      · obtain ⟨report, hrun⟩ := run_of_dryRun hg hdry
        have herror := (Prod.mk.inj (hrun.symm.trans h)).2
        simp at herror
      · obtain ⟨e', hfailed, -⟩ | ⟨-, report, herror⟩ := run_of_not_dryRun hg hdry h
        · exact replaceFile_of_error hdraft hfailed
        · simp at herror
    · obtain ⟨report, hrun⟩ := run_of_dryRun hg hdry
      rw [hrun]
    · -- a run that succeeds has stored what it reports
      obtain ⟨e, -, herror⟩ | ⟨hstored, report, hok⟩ := run_of_not_dryRun hg hdry h
      · simp at herror
      · obtain rfl := Except.ok.inj hok
        exact replaceFile_of_ok hdraft hstored
    · -- a dry run with the same sources has the same text
      have hg' : { config with dryRun := true }.generation w = .ok (components, g) := hg
      obtain ⟨report, hrun⟩ := run_of_dryRun hg' rfl
      refine ⟨_, hrun, fun w' outcome h => ?_⟩
      by_cases hdry : config.dryRun
      · obtain ⟨report', hrun'⟩ := run_of_dryRun hg hdry
        obtain rfl := Except.ok.inj (Prod.mk.inj (hrun'.symm.trans h)).2
        rfl
      · obtain ⟨e, -, herror⟩ | ⟨-, report', hok⟩ := run_of_not_dryRun hg hdry h
        · simp at herror
        · obtain rfl := Except.ok.inj hok
          rfl

/-- Runs on a source tree with one card, where there is no folder for the storyboard yet: one that
stores the storyboard, and one for which the room ends within the draft. -/
theorem run_isAtomic_card :
    let card := "export function Card() { return <div /> }".toUTF8
    let w : Workspace :=
      { disk := .folder "src" (.file "Card.tsx" card .empty) .empty, here := [], process := 7 }
    let full : Workspace := { w with faults := [none, some (.cutOff 5 .noRoom)] }
    let config : Config :=
      ⟨⟨"src"⟩, ⟨"utopia/storyboard.js"⟩, "../src", {}, {}, {}, false, false⟩
    ((config.run w).2.isOk ∧ IsAtomic w config) ∧
      (¬ (config.run full).2.isOk ∧ IsAtomic full config) := by
  intro card w full config
  have hnothing : (w.makeParent config.output).1.has (w.draftPath config.output) = false := by
    decide +kernel
  have hnothing' : (full.makeParent config.output).1.has (full.draftPath config.output) = false := by
    decide +kernel
  refine ⟨⟨by decide +kernel, run_isAtomic w config fun content h => ?_⟩,
    by decide +kernel, run_isAtomic full config fun content h => ?_⟩
  · simp [has, h, Except.isOk, Except.toBool] at hnothing
  · simp [has, h, Except.isOk, Except.toBool] at hnothing'

end Config

end SceneBoard
