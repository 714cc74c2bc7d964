import Mathlib.Data.List.Infix
import SceneBoard.Files.Relative
import SceneBoard.Proofs.Disk

/-!
# Places

As there are no links, the place to which a path leads can be told from its pieces: a name leads to
what is under it, and two dots take back the piece before them (`Path.lead`). That is also the place of
a path that leads nowhere yet.

Whether a path can be followed depends on its two dots above all: a name may be missing, but two dots
cannot take back what is not there (`Workspace.Follows`).

## Key results

- `Path.lead_steps`: pieces that do not count do not matter for the place
- `Workspace.eq_placeOf_of_resolve`: a path that can be followed leads to its place
- `Workspace.Reaches.follows`: what can be followed to its end can be followed up to each of its two dots
-/

namespace SceneBoard

namespace Path

/-! ## Pieces -/

/-- A piece that names an entry of a folder. -/
def IsName (s : String) : Prop :=
  isIdle s = false ∧ s ≠ ".." ∧ '/' ∉ s.toList

instance (s : String) : Decidable (IsName s) :=
  inferInstanceAs (Decidable (_ ∧ _ ∧ _))

/-- The pieces that count. -/
def steps (segments : List String) : List String :=
  segments.filter fun s => !isIdle s

/-- The place to which a piece leads from a place. The root is above itself. -/
def leadStep (place : List String) (s : String) : List String :=
  if isIdle s then place else if s = ".." then place.dropLast else place ++ [s]

/-- The place to which pieces lead from a place. -/
def lead (place segments : List String) : List String :=
  segments.foldl leadStep place

section

variable {place names segments more : List String} {s : String} {p base : Path}

theorem lead_append (place segments more : List String) :
    lead place (segments ++ more) = lead (lead place segments) more :=
  List.foldl_append

theorem steps_cons_of_idle (h : isIdle s) (segments : List String) :
    steps (s :: segments) = steps segments :=
  List.filter_cons_of_neg (by simp [h])

theorem steps_cons_of_not_idle (h : ¬isIdle s) (segments : List String) :
    steps (s :: segments) = s :: steps segments :=
  List.filter_cons_of_pos (by simp [h])

theorem steps_of_idle (h : ∀ s ∈ segments, isIdle s) : steps segments = [] :=
  List.filter_eq_nil_iff.2 fun s hs => by simp [h s hs]

theorem steps_reverse (segments : List String) : steps segments.reverse = (steps segments).reverse :=
  List.filter_reverse ..

/-- Pieces in front that say nothing do not count. -/
theorem steps_dropWhile (segments : List String) :
    steps (segments.dropWhile isIdle) = steps segments := by
  induction segments with
  | nil => rfl
  | cons s segments ih =>
    rw [List.dropWhile_cons]
    split
    · rename_i hidle
      rw [ih, steps_cons_of_idle hidle]
    · rfl

/-- Only the steps lead anywhere. -/
theorem lead_steps (place segments : List String) :
    lead place (steps segments) = lead place segments := by
  induction segments generalizing place with
  | nil => rfl
  | cons s segments ih =>
    -- a piece that says nothing leads nowhere, every other one is kept
    by_cases hidle : isIdle s
    · have hstay : leadStep place s = place := if_pos hidle
      rw [steps_cons_of_idle hidle, ih, lead, lead, List.foldl_cons, hstay]
    · rw [steps_cons_of_not_idle hidle]
      exact ih _

theorem steps_append (segments more : List String) :
    steps (segments ++ more) = steps segments ++ steps more :=
  List.filter_append ..

theorem steps_steps (segments : List String) : steps (steps segments) = steps segments := by
  rw [steps, steps, List.filter_filter]
  simp

/-- Names lead on to the place below. -/
theorem lead_of_isName (h : ∀ s ∈ names, IsName s) : lead place names = place ++ names := by
  induction names generalizing place with
  | nil => exact (List.append_nil _).symm
  | cons s names ih =>
    obtain ⟨hidle, hup, -⟩ := h s (by simp)
    have hstep : leadStep place s = place ++ [s] := by
      rw [leadStep, if_neg (by simp [hidle]), if_neg hup]
    show lead (leadStep place s) names = place ++ s :: names
    rw [ih fun t ht => h t (List.mem_cons_of_mem _ ht), hstep, List.append_assoc, List.singleton_append]

/-- A name at the end is the last one of the place. -/
theorem lead_concat (hidle : ¬isIdle s) (hup : s ≠ "..") (place segments : List String) :
    lead place (segments ++ [s]) = lead place segments ++ [s] := by
  have hstep (place : List String) : leadStep place s = place ++ [s] := by
    rw [leadStep, if_neg hidle, if_neg hup]
  rw [lead_append]
  exact hstep _

/-- The places on a way are made of names. -/
theorem isName_of_mem_lead (hplace : ∀ s ∈ place, IsName s) (h : ∀ s ∈ segments, '/' ∉ s.toList) :
    ∀ s ∈ lead place segments, IsName s := by
  induction segments generalizing place with
  | nil => exact hplace
  | cons s segments ih =>
    refine ih ?_ fun t ht => h t (List.mem_cons_of_mem _ ht)
    rw [leadStep]
    -- the piece stays, goes up, or adds itself as a name
    split
    · exact hplace
    split
    · exact fun t ht => hplace t (List.dropLast_subset _ ht)
    · rename_i hidle hup
      intro t ht
      rcases List.mem_append.1 ht with ht | ht
      · exact hplace t ht
      · obtain rfl := List.mem_singleton.1 ht
        -- a name of its own: it counts, is not two dots and has no slash
        exact ⟨by simpa using hidle, hup, h t (by simp)⟩

/-! ## Pieces of texts -/

/-- There is no slash in a piece. -/
theorem not_mem_of_mem_segments (h : s ∈ p.segments) : '/' ∉ s.toList := by
  obtain ⟨part, hpart, rfl⟩ := List.mem_map.1 h
  rw [String.toList_ofList]
  exact Text.not_mem_of_mem_splitOn hpart

/-- A slash parts the pieces of a text. -/
theorem pieces_append (t u : String) :
    Text.pieces '/' (t ++ "/" ++ u) = Text.pieces '/' t ++ Text.pieces '/' u := by
  have hlist : (t ++ "/" ++ u).toList = t.toList ++ '/' :: u.toList := by simp
  rw [Text.pieces, hlist, Text.splitOn_append, List.map_append]
  rfl

/-- Texts without slashes are the pieces of what they are put together to. -/
theorem pieces_intercalate (h : ∀ s ∈ names, '/' ∉ s.toList) (hne : names ≠ []) :
    Text.pieces '/' ("/".intercalate names) = names := by
  induction names with
  | nil => exact absurd rfl hne
  -- a name is one piece, as it has no slash
  | cons s names ih =>
    have hpiece : Text.pieces '/' s = [s] := by
      rw [Text.pieces, Text.splitOn_eq_singleton (h s (by simp))]
      simp
    cases names with
    | nil => simpa using hpiece
    | cons t names =>
      rw [String.intercalate_cons_cons, pieces_append, hpiece,
        ih (fun u hu => h u (List.mem_cons_of_mem _ hu)) (by simp)]
      rfl

/-- The pieces of a joined path that count are those of both. -/
theorem steps_join (hbase : base.text ≠ "") (hp : p.isAbsolute = false) :
    steps (base.join p).segments = steps base.segments ++ steps p.segments := by
  have hempty : steps (Text.pieces '/' "") = [] := by decide
  rw [join, hp, Bool.false_or, if_neg (by simpa using hbase)]
  split
  · rename_i hend
    -- the slash at the end of the base parts its pieces from an empty one
    obtain ⟨before, hbefore⟩ := List.getLast?_eq_some_iff.1 hend
    have htext : base.text = String.ofList before ++ "/" := by
      rw [← String.ofList_toList (s := base.text), hbefore, String.ofList_append]
    have hsegments : base.segments = Text.pieces '/' (String.ofList before) ++ Text.pieces '/' "" := by
      rw [segments, ← pieces_append, htext, String.append_empty]
    rw [hsegments, segments, htext, pieces_append, steps_append, steps_append, hempty, List.append_nil]
    rfl
  · -- without a slash at its end the base is parted from the path by one
    rw [segments, pieces_append, steps_append]
    rfl

/-- The steps to a place are its names. -/
theorem steps_ofPlace (h : ∀ s ∈ place, IsName s) : steps (ofPlace place).segments = place := by
  -- no name is dropped, and the empty piece in front is
  have hkeep : steps place = place :=
    List.filter_eq_self.2 fun s hs => by simp [(h s hs).1]
  have hsegments : (ofPlace place).segments =
      Text.pieces '/' "" ++ Text.pieces '/' ("/".intercalate place) := by
    rw [← pieces_append, String.empty_append]
    rfl
  have hempty : steps (Text.pieces '/' "") = [] := by decide
  rw [hsegments, steps_append, hempty, List.nil_append]
  cases place with
  | nil => exact hempty
  | cons s place => rw [pieces_intercalate (fun t ht => (h t ht).2.2) (by simp), hkeep]

end

end Path

namespace Workspace

open SceneBoard.Path

/-! ## Following pieces -/

section

variable {item : List String → Option Item} {place place' segments more : List String} {s : String}

/-- Where pieces can be followed, they lead where they are read to lead. -/
theorem lead_of_walkFrom (h : walkFrom item place segments = .ok place') :
    place' = lead place segments := by
  induction segments generalizing place with
  | nil => exact (Except.ok.inj h).symm
  | cons s segments ih =>
    obtain ⟨next, hstep, hmore⟩ := walkFrom_cons_eq_ok_iff.1 h
    -- the step that was walked is the step that leads there
    have hnext : leadStep place s = next := by
      rw [leadStep]
      obtain ⟨-, ⟨hidle, rfl⟩ | ⟨hidle, hup, rfl⟩ | ⟨hidle, hup, -, -, rfl⟩⟩ :=
        step_eq_ok_iff.1 hstep
      · rw [if_pos hidle]
      · rw [if_neg hidle, if_pos hup]
      · rw [if_neg hidle, if_neg hup]
    rw [ih hmore, ← hnext]
    rfl

private theorem walkFrom_append (item : List String → Option Item) (place segments more : List String) :
    walkFrom item place (segments ++ more) = walkFrom item place segments >>= (walkFrom item · more) :=
  List.foldlM_append

/-- From a folder, pieces that say nothing lead to the folder itself. -/
private theorem walkFrom_idle (hfolder : item place = some .folder)
    (h : ∀ s ∈ segments, isIdle s) : walkFrom item place segments = .ok place := by
  induction segments with
  | nil => rfl
  | cons s segments ih =>
    have hstep : step item place s = .ok place :=
      step_eq_ok_iff.2 ⟨hfolder, .inl ⟨h s (by simp), rfl⟩⟩
    exact walkFrom_cons_eq_ok_iff.2 ⟨place, hstep, ih fun t ht => h t (List.mem_cons_of_mem _ ht)⟩

/-- From something else than a folder no piece leads on. -/
private theorem walkFrom_not_folder (hfolder : item place ≠ some .folder) (hne : segments ≠ []) :
    walkFrom item place segments = .error .notAFolder := by
  obtain ⟨s, segments, rfl⟩ := List.exists_cons_of_ne_nil hne
  rw [walkFrom, List.foldlM_cons, step, if_neg hfolder]
  rfl

/-- Idle pieces do not matter before another piece. At the end they do: they ask for a folder. -/
private theorem walkFrom_steps (segments : List String) :
    walkFrom item place (steps segments ++ [s]) = walkFrom item place (segments ++ [s]) := by
  induction segments generalizing place with
  | nil => rfl
  | cons t segments ih =>
    by_cases hidle : isIdle t
    · rw [steps_cons_of_idle hidle, List.cons_append]
      by_cases hfolder : item place = some .folder
      · have hstep : step item place t = .ok place := by rw [step, if_pos hfolder, if_pos hidle]
        rw [ih, walkFrom, walkFrom, List.foldlM_cons, hstep]
        rfl
      · -- outside a folder the piece already fails, and so does the last one
        rw [walkFrom_not_folder hfolder (by simp), walkFrom_not_folder hfolder (by simp)]
    · -- a piece that counts is walked on both sides
      rw [steps_cons_of_not_idle hidle, List.cons_append, List.cons_append, walkFrom, walkFrom,
        List.foldlM_cons, List.foldlM_cons]
      cases step item place t with
      | error e => rfl
      | ok next => exact ih

/-- Pieces that say nothing do not lengthen a place. -/
private theorem longestPlace_steps (sizes : List Nat) (segments : List String) :
    longestPlace sizes (steps segments) = longestPlace sizes segments := by
  induction segments generalizing sizes with
  | nil => rfl
  | cons s segments ih =>
    by_cases hidle : isIdle s
    · rw [steps_cons_of_idle hidle, ih, longestPlace, if_pos hidle]
    · simp only [steps_cons_of_not_idle hidle, longestPlace, ih]

/-- A longer path has no shorter places. -/
private theorem longestPlace_le_append (sizes : List Nat) (segments more : List String) :
    longestPlace sizes segments ≤ longestPlace sizes (segments ++ more) := by
  induction segments generalizing sizes with
  | nil => exact Nat.zero_le _
  | cons s segments ih =>
    rw [List.cons_append, longestPlace, longestPlace]
    split
    · exact ih _
    split
    · exact ih _
    · have hmore := ih ((sizes.headD 0 + 1 + s.utf8ByteSize) :: sizes)
      dsimp only
      omega

end

section

variable {w : Workspace} {place segments more : List String} {s : String} {p : Path}

/-- A path is found if it can be walked and no place on the way is too long. -/
private theorem canonical?_eq_some_iff : w.canonical? segments = some place ↔
    walkFrom w.disk.item? [] segments = .ok place ∧ longestPlace [] segments ≤ pathLimit := by
  have hwalk : walk [] (.folder w.disk) segments = walkFrom w.disk.item? [] segments :=
    follow_eq w ⟨"/"⟩ segments
  rw [canonical?, hwalk]
  cases walkFrom w.disk.item? [] segments with
  | error e => simp
  | ok place' => simp [and_comm]

/-- The pieces can be followed, and the places on the way are not too long. -/
def Reaches (w : Workspace) (segments : List String) : Prop :=
  (w.canonical? segments).isSome

instance (w : Workspace) (segments : List String) : Decidable (w.Reaches segments) :=
  inferInstanceAs (Decidable (_ = true))

/-- The same without the place. -/
private theorem reaches_iff : w.Reaches segments ↔
    (∃ place, walkFrom w.disk.item? [] segments = .ok place) ∧
      longestPlace [] segments ≤ pathLimit := by
  rw [Reaches, Option.isSome_iff_exists]
  simp only [canonical?_eq_some_iff, exists_and_right]

theorem eq_lead_of_canonical? (h : w.canonical? segments = some place) : place = lead [] segments :=
  lead_of_walkFrom (canonical?_eq_some_iff.1 h).1

/-- Whoever gets to the end of a way comes by all of its places. -/
theorem Reaches.of_append (h : w.Reaches (segments ++ more)) : w.Reaches segments := by
  obtain ⟨⟨place, hwalk⟩, hlength⟩ := reaches_iff.1 h
  refine reaches_iff.2 ⟨?_, Nat.le_trans (longestPlace_le_append _ _ _) hlength⟩
  rw [walkFrom_append] at hwalk
  cases hfirst : walkFrom w.disk.item? [] segments with
  | error e => simp [hfirst, bind, Except.bind] at hwalk
  | ok next => exact ⟨next, rfl⟩

/-- Idle pieces do not matter before another piece. -/
theorem reaches_steps_append : w.Reaches (steps segments ++ [s]) ↔ w.Reaches (segments ++ [s]) := by
  have hlength : longestPlace [] (steps segments ++ [s]) = longestPlace [] (segments ++ [s]) := by
    rw [← longestPlace_steps, ← longestPlace_steps [] (segments ++ [s]), steps_append, steps_append,
      steps_steps]
  rw [reaches_iff, reaches_iff, walkFrom_steps, hlength]

/-- Above a folder there is a folder. -/
private theorem item?_dropLast {f : Folder} (h : f.item? place = some .folder) :
    f.item? place.dropLast = some .folder := by
  induction place generalizing f with
  | nil => exact h
  | cons name rest ih =>
    cases rest with
    | nil => rfl
    | cons next rest =>
      rw [Folder.item?, Folder.entry?] at h
      rw [List.dropLast_cons_cons, Folder.item?, Folder.entry?]
      split at h
      · exact ih h
      · simp at h
      · simp at h

/-- Two dots lead to a folder, so idle pieces behind them change nothing. -/
private theorem Reaches.append_idle (h : w.Reaches (segments ++ [".."]))
    (hmore : ∀ s ∈ more, isIdle s) : w.Reaches (segments ++ ".." :: more) := by
  obtain ⟨⟨place, hwalk⟩, hlength⟩ := reaches_iff.1 h
  -- going up starts at a folder and leads to one
  have hfolder : w.disk.item? place = some .folder := by
    rw [walkFrom_append] at hwalk
    -- the walk before the two dots succeeded, as the whole walk did
    cases hfirst : walkFrom w.disk.item? [] segments with
    | error e => simp [hfirst, bind, Except.bind] at hwalk
    | ok next =>
      rw [hfirst] at hwalk
      have hup : walkFrom w.disk.item? next [".."] = .ok place := hwalk
      by_cases hnext : w.disk.item? next = some .folder
      · have hstep : step w.disk.item? next ".." = .ok next.dropLast :=
          step_eq_ok_iff.2 ⟨hnext, .inr (.inl ⟨by decide, rfl, rfl⟩)⟩
        rw [walkFrom, List.foldlM_cons, hstep] at hup
        rw [← Except.ok.inj hup]
        exact item?_dropLast hnext
      · rw [walkFrom_not_folder hnext (by simp)] at hup
        simp at hup
  -- the pieces that count are those up to the two dots
  have hsteps : steps (segments ++ ".." :: more) = steps (segments ++ [".."]) := by
    rw [List.append_cons, steps_append, steps_of_idle hmore, List.append_nil]
  rw [reaches_iff, ← longestPlace_steps, hsteps, longestPlace_steps]
  refine ⟨⟨place, ?_⟩, hlength⟩
  rw [List.append_cons, walkFrom_append, hwalk]
  exact walkFrom_idle hfolder hmore

theorem canonical?_of_isIdle (h : ∀ s ∈ segments, isIdle s) : w.canonical? segments = some [] := by
  rw [canonical?_eq_some_iff, ← longestPlace_steps, steps_of_idle h]
  exact ⟨walkFrom_idle rfl h, Nat.zero_le _⟩

/-- Every beginning of a way that ends in two dots can be followed. What is behind it may be missing. -/
def Follows (w : Workspace) (segments : List String) : Prop :=
  ∀ way ∈ segments.inits, way.getLast? = some ".." → w.Reaches way

instance (w : Workspace) (segments : List String) : Decidable (w.Follows segments) :=
  inferInstanceAs (Decidable (∀ way ∈ segments.inits, way.getLast? = some ".." → w.Reaches way))

/-- One step more can be followed if it is a name, or if what it goes up from is there. -/
theorem follows_concat : w.Follows (segments ++ [s]) ↔
    w.Follows segments ∧ (s = ".." → w.Reaches (segments ++ [".."])) := by
  -- the ways to the longer place are the longer one itself and those to the shorter
  have hway (way : List String) : way ∈ (segments ++ [s]).inits ↔
      way = segments ++ [s] ∨ way ∈ segments.inits := by
    rw [List.mem_inits, List.mem_inits, List.prefix_concat_iff]
  simp only [Follows, hway, or_imp, forall_and, forall_eq, List.getLast?_concat, Option.some.injEq]
  rw [and_comm]
  refine and_congr_right fun _ => ⟨fun h hs => hs ▸ h hs, fun h hs => ?_⟩
  rw [hs]
  exact h hs

/-- Without two dots nothing has to be there. -/
theorem follows_of_not_mem (h : ".." ∉ segments) : w.Follows segments := by
  intro way hway hlast
  exact absurd (((List.mem_inits _ _).1 hway).mem (List.mem_of_getLast? hlast)) h

/-- What stands before and behind two dots among the pieces that count. -/
private theorem exists_of_steps_eq {before after : List String}
    (h : steps segments = before ++ ".." :: after) :
    ∃ first rest, segments = first ++ ".." :: rest ∧ steps first = before ∧ steps rest = after := by
  -- before the two dots there may be pieces that say nothing
  obtain ⟨first, second, rfl, hfirst, hsecond⟩ := List.filter_eq_append_iff.1 h
  obtain ⟨idle, rest, rfl, hidle, -, hrest⟩ := List.filter_eq_cons_iff.1 hsecond
  have hnone : steps idle = [] := steps_of_idle (by simpa using hidle)
  refine ⟨first ++ idle, rest, by simp, ?_, hrest⟩
  rw [steps_append, hnone, List.append_nil]
  exact hfirst

/-- What can be followed to its end can be followed up to each of its two dots. -/
theorem Reaches.follows (h : w.Reaches segments) : w.Follows (steps segments) := by
  -- a step up, with what is before and behind it in the path as it is written
  intro way hway hlast
  obtain ⟨before, rfl⟩ := List.getLast?_eq_some_iff.1 hlast
  obtain ⟨after, hsteps⟩ := (List.mem_inits _ _).1 hway
  rw [List.append_assoc, List.singleton_append] at hsteps
  obtain ⟨first, rest, rfl, rfl, -⟩ := exists_of_steps_eq hsteps.symm
  rw [reaches_steps_append]
  have hway : w.Reaches ((first ++ [".."]) ++ rest) := by simpa using h
  exact hway.of_append

/-- Idle pieces do not matter behind two dots. -/
theorem Reaches.of_steps (hup : (steps segments).getLast? = some "..")
    (h : w.Reaches (steps segments)) : w.Reaches segments := by
  obtain ⟨before, hsteps⟩ := List.getLast?_eq_some_iff.1 hup
  obtain ⟨first, rest, rfl, rfl, hrest⟩ := exists_of_steps_eq hsteps
  rw [hsteps, reaches_steps_append] at h
  exact h.append_idle (by simpa using List.filter_eq_nil_iff.1 hrest)

end

/-! ## Where paths lead -/

/-- The place to which a path leads, whether there is something or not. -/
def placeOf (w : Workspace) (p : Path) : List String :=
  lead (if p.isAbsolute then [] else w.here) p.segments

/-- The pieces that count in the absolute form of a path. -/
def stepsOf (w : Workspace) (p : Path) : List String :=
  steps (w.absolute p).segments

section

variable {w : Workspace} {place : List String} {p : Path}

/-- The pieces of an absolute form are those of the path, behind those of the current folder if the
path is relative. -/
theorem stepsOf_eq (hhere : ∀ s ∈ w.here, IsName s) (p : Path) :
    w.stepsOf p = if p.isAbsolute then steps p.segments else w.here ++ steps p.segments := by
  rw [stepsOf, absolute]
  split
  · rfl
  · rename_i hrelative
    rw [steps_join (by simp [ofPlace]) (by simpa using hrelative), steps_ofPlace hhere]

/-- The steps of a path lead to its place. -/
theorem lead_stepsOf (hhere : ∀ s ∈ w.here, IsName s) (p : Path) :
    lead [] (w.stepsOf p) = w.placeOf p := by
  rw [stepsOf_eq hhere, placeOf]
  split
  · exact lead_steps _ _
  · rw [lead_append, lead_of_isName hhere, lead_steps, List.nil_append]

theorem not_mem_of_mem_stepsOf {s : String} (h : s ∈ w.stepsOf p) : '/' ∉ s.toList :=
  not_mem_of_mem_segments (List.mem_of_mem_filter h)

theorem isName_of_mem_lead_stepsOf (w : Workspace) (p : Path) :
    ∀ s ∈ lead [] (w.stepsOf p), IsName s :=
  isName_of_mem_lead (by simp) fun _ => not_mem_of_mem_stepsOf

/-- A path that can be followed leads to its place. -/
theorem eq_placeOf_of_resolve (hhere : ∀ s ∈ w.here, IsName s) (h : w.resolve p = .ok place) :
    place = w.placeOf p := by
  rw [resolve] at h
  split at h
  · simp at h
  · rw [follow_eq] at h
    rw [lead_of_walkFrom h, placeOf]
    -- an absolute path starts at the root, a relative one at the current folder
    split
    · rfl
    · rw [lead_append, lead_of_isName hhere, List.nil_append]

end

end Workspace

end SceneBoard
