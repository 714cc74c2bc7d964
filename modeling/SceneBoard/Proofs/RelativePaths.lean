import Mathlib.Data.List.TakeWhile
import SceneBoard.Config
import SceneBoard.Proofs.Places

/-!
# Relative paths

The path from one folder to another is told by the names that both are compared by
(`Workspace.namesOf`). For a path that can be followed up to its last two dots these are the names of
its place. Otherwise they are its pieces as written, two dots included, and each two dots among those
to go back from count as one more folder to leave. So a path leads back to its target if the one it
begins from can be followed, and from one that cannot be followed only by going up to the root.

## Key results

- `Workspace.parts_normalize`: normal paths are those of the names that paths are compared by
- `Workspace.relative_eq`: a relative path is written from the way between such names
- `Workspace.lead_wayBetween`, `Workspace.lead_wayBetween_eq_iff`: where a way between names leads
- `Workspace.relative_leads_back`: which relative paths lead back, and import prefixes
-/

namespace SceneBoard

namespace Path

section

variable {first s : String} {t more names : List String} {p : Path}

/-! ## Trails -/

/-- The pieces at the end that say nothing are dropped, the first piece never. -/
theorem dropIdle_concat (t : List String) (first : String) :
    dropIdle (t ++ [first]) = t.dropWhile isIdle ++ [first] := by
  induction t with
  | nil => rfl
  | cons s t ih =>
    rw [List.cons_append, dropIdle.eq_3 _ _ (by simp), List.dropWhile_cons]
    split
    · exact ih
    · rfl

/-- Behind the pieces that say nothing stands the first step. -/
private theorem dropWhile_of_steps (h : steps t = s :: more) :
    ∃ rest, t.dropWhile isIdle = s :: rest ∧ ¬isIdle s ∧ steps rest = more := by
  have hhead := List.head?_dropWhile_not isIdle t
  rw [← steps_dropWhile] at h
  cases hdrop : t.dropWhile isIdle with
  | nil => simp [hdrop, steps] at h
  | cons u rest =>
    have hcounts : ¬isIdle u := by simpa [hdrop] using hhead
    rw [hdrop, steps_cons_of_not_idle hcounts, List.cons.injEq] at h
    obtain ⟨rfl, hrest⟩ := h
    exact ⟨rest, rfl, hcounts, hrest⟩

/-- The name of a path is its last step, unless this goes up. -/
theorem trailName?_concat (h : steps t = s :: more) :
    trailName? (t ++ [first]) = if s = ".." then none else some s := by
  obtain ⟨rest, hdrop, hcounts, -⟩ := dropWhile_of_steps h
  rw [trailName?, dropIdle_concat, hdrop, List.cons_append, List.head?_cons, Option.bind_some, partOf,
    if_neg hcounts]
  by_cases hup : s = ".."
  · simp [hup]
  · simp [hup]

/-- Above the last piece that counts are those before it. A path that begins with a slash keeps
it. -/
theorem trailParent?_concat (h : steps t = s :: more) (first : String) :
    ∃ parent, trailParent? (t ++ [first]) = some (parent ++ [first]) ∧ steps parent = more ∧
      (first = "" → parent ≠ []) ∧ parent ⊆ "" :: t := by
  obtain ⟨rest, hdrop, -, rfl⟩ := dropWhile_of_steps h
  -- what is left of the trail is part of it
  have hrests : rest.dropWhile isIdle ⊆ "" :: t := fun u hu =>
    List.mem_cons_of_mem _ ((List.dropWhile_sublist isIdle).mem
      (hdrop ▸ List.mem_cons_of_mem s ((List.dropWhile_sublist isIdle).mem hu)))
  obtain ⟨u, us, hrest⟩ := List.exists_cons_of_ne_nil
    (List.append_ne_nil_of_right_ne_nil rest (List.cons_ne_nil first []))
  rw [trailParent?, dropIdle_concat, hdrop, List.cons_append, hrest]
  dsimp only
  rw [← hrest, dropIdle_concat, ← steps_dropWhile rest]
  split
  · rename_i hroot
    -- the root keeps the slash behind its empty first piece
    obtain ⟨hnone, hfirst⟩ | ⟨_, -, hfirst⟩ := List.append_eq_cons_iff.1 hroot
    · obtain rfl := List.singleton_inj.1 hfirst
      exact ⟨[""], rfl, by rw [hnone]; rfl, fun _ => by simp, by simp⟩
    · simp at hfirst
  · rename_i hroot
    exact ⟨_, rfl, rfl, fun hfirst hnone => hroot (by rw [hnone, hfirst]; rfl), hrests⟩

/-- A name that is the first piece has nothing above it. -/
theorem trailParent?_of_first (hnone : steps t = []) (hname : trailName? (t ++ [first]) = some s) :
    first = s ∧ s ≠ ".." ∧ ¬isIdle s ∧ trailParent? (t ++ [first]) = some [""] := by
  have hdrop : dropIdle (t ++ [first]) = [first] := by
    have hidle : t.dropWhile isIdle = [] :=
      List.dropWhile_eq_nil_iff.2 (by simpa using List.filter_eq_nil_iff.1 hnone)
    rw [dropIdle_concat, hidle, List.nil_append]
  rw [trailName?, hdrop, List.head?_cons, Option.bind_some, partOf] at hname
  -- the first piece is the only one that may be the name
  by_cases hidle : isIdle first
  · simp [hidle] at hname
  by_cases hup : first = ".."
  · simp [hup, isIdle] at hname
  rw [if_neg hidle, if_neg hup] at hname
  obtain rfl := Option.some.inj hname
  have hfirst : first ≠ "" := fun hempty => hidle (by rw [hempty]; rfl)
  exact ⟨rfl, hup, hidle, by simp only [trailParent?, hdrop, if_neg hfirst]⟩

theorem segments_ofTrail (h : ∀ u ∈ t, '/' ∉ u.toList) (hne : t ≠ []) :
    (ofTrail t).segments = t.reverse :=
  pieces_intercalate (fun u hu => h u (List.mem_reverse.1 hu)) (by simpa using hne)

/-! ## Parts -/

/-- The part that a piece that counts is. -/
def stepPart (s : String) : PathPart :=
  if s = ".." then .up else .name s

/-- The part of a step is written as the step. -/
theorem stepPart_text (s : String) : (stepPart s).text = s := by
  rw [stepPart]
  split
  · rename_i h
    exact h.symm
  · rfl

theorem stepPart_injective : Function.Injective stepPart := fun s t h => by
  rw [← stepPart_text s, h, stepPart_text]

/-- The parts of pieces are those of the steps among them. -/
theorem filterMap_partOf (segments : List String) :
    segments.filterMap partOf = (steps segments).map stepPart := by
  induction segments with
  | nil => rfl
  | cons s segments ih =>
    by_cases hidle : isIdle s
    · have hnone : partOf s = none := if_pos hidle
      rw [steps_cons_of_idle hidle, List.filterMap_cons_none hnone, ih]
    · have hpart : partOf s = some (stepPart s) := by
        rw [partOf, if_neg hidle, stepPart, apply_ite some]
      rw [steps_cons_of_not_idle hidle, List.filterMap_cons_some hpart, ih, List.map_cons]

theorem exists_segments (p : Path) : ∃ first more, p.segments = first :: more :=
  List.exists_cons_of_ne_nil <| by
    simpa [segments, Text.pieces] using Text.splitOn_ne_nil '/' p.text.toList

/-- A path is absolute if its first piece is empty and not its only one. -/
theorem isAbsolute_iff (h : p.segments = first :: more) : p.isAbsolute ↔ first = "" ∧ more ≠ [] := by
  rw [segments, Text.pieces] at h
  rw [isAbsolute, beq_iff_eq]
  cases htext : p.text.toList with
  | nil =>
    -- the empty path has one piece, which is empty
    rw [htext] at h
    obtain ⟨rfl, rfl⟩ : "" = first ∧ [] = more := by simpa [Text.splitOn] using h
    simp
  | cons c cs =>
    -- the first piece is empty if the text begins with the slash
    obtain ⟨part, parts, hparts⟩ := List.exists_cons_of_ne_nil (Text.splitOn_ne_nil '/' cs)
    rw [htext, Text.splitOn, hparts] at h
    rw [List.head?_cons, Option.some_inj]
    split at h
    · rename_i hslash
      obtain ⟨rfl, rfl⟩ := List.cons.inj h
      simp [hslash]
    · rename_i hslash
      obtain ⟨rfl, rfl⟩ := List.cons.inj h
      simp [hslash]

/-- Above a path that ends in a name is the path of the pieces before it, absolute or relative as
before. -/
theorem exists_parent (h : p.fileName? = some s) :
    ∃ q, p.parent? = some q ∧ steps p.segments = steps q.segments ++ [s] ∧ s ≠ ".." ∧ ¬isIdle s ∧
      q.isAbsolute = p.isAbsolute := by
  obtain ⟨first, more, hsegments⟩ := exists_segments p
  have htrail : p.trail = more.reverse ++ [first] := by rw [trail, hsegments, List.reverse_cons]
  have hslash : ∀ u ∈ first :: more, '/' ∉ u.toList := fun u hu =>
    not_mem_of_mem_segments (hsegments ▸ hu)
  rw [fileName?, htrail] at h
  rw [parent?, htrail, hsegments]
  -- no step behind the first piece: the name is the first piece itself, and the path is relative
  cases hcount : steps more.reverse with
  | nil =>
    obtain ⟨rfl, hup, hidle, hparent⟩ := trailParent?_of_first hcount h
    have hmore : steps more = [] := by simpa [steps_reverse] using hcount
    have hrelative : p.isAbsolute = false := by
      rw [Bool.eq_false_iff, Ne, isAbsolute_iff hsegments]
      exact fun habsolute => hidle (by rw [habsolute.1]; rfl)
    refine ⟨ofTrail [""], by rw [hparent]; rfl, ?_, hup, hidle, ?_⟩
    · rw [steps_cons_of_not_idle hidle, hmore]
      rfl
    · rw [hrelative]
      rfl
  | cons u rest =>
    -- the first piece stays, and with it the slash of an absolute path
    obtain ⟨parent, hparent, rfl, hroot, hsub⟩ := trailParent?_concat hcount first
    obtain ⟨-, -, hcounts, -⟩ := dropWhile_of_steps hcount
    rw [trailName?_concat hcount] at h
    split at h
    · simp at h
    rename_i hup
    obtain rfl := Option.some.inj h
    have hparentSegments : (ofTrail (parent ++ [first])).segments = first :: parent.reverse := by
      rw [segments_ofTrail (fun v hv => ?_) (by simp), List.reverse_append, List.reverse_singleton,
        List.singleton_append]
      rcases List.mem_append.1 hv with hv | hv
      · rcases List.mem_cons.1 (hsub hv) with rfl | hv
        · decide
        · exact hslash v (List.mem_cons_of_mem _ (List.mem_reverse.1 hv))
      · exact hslash v (by simp [List.mem_singleton.1 hv])
    have hmore : steps more = steps parent.reverse ++ [u] := by
      rw [← List.reverse_reverse (steps more), ← steps_reverse, hcount, List.reverse_cons,
        steps_reverse]
    have hne : more ≠ [] := fun hnone => by simp [hnone, steps] at hcount
    refine ⟨_, by rw [hparent]; rfl, ?_, hup, hcounts, ?_⟩
    · -- the steps of the parent are those of the path without the last
      have hfirst (rest : List String) : steps (first :: rest) = steps [first] ++ steps rest :=
        steps_append [first] rest
      rw [hparentSegments, hfirst more, hfirst parent.reverse, hmore, List.append_assoc]
    · rw [Bool.eq_iff_iff, isAbsolute_iff hsegments, isAbsolute_iff hparentSegments]
      refine and_congr_right fun hfirst => ?_
      simp [hne, hroot hfirst]

/-- The parts of an absolute path are the root and its steps. -/
theorem parts_of_isAbsolute (h : p.isAbsolute) :
    p.parts = .root :: (steps p.segments).map stepPart := by
  obtain ⟨first, more, hsegments⟩ := exists_segments p
  obtain ⟨rfl, -⟩ := (isAbsolute_iff hsegments).1 h
  simp only [parts, hsegments, if_pos h, filterMap_partOf, List.singleton_append]
  rfl

end

end Path

namespace Workspace

open SceneBoard.Path

section

variable {w : Workspace} {t names : List String} {p : Path}

/-! ## Normal paths -/

/-- The names that a path is compared by: those of its place, or its pieces as written if two dots
stand behind something that cannot be followed. -/
def namesOf (w : Workspace) (p : Path) : List String :=
  if w.Follows (w.stepsOf p) then lead [] (w.stepsOf p) else w.stepsOf p

/-- A path is cut back piece by piece until it can be followed. It never is if a piece that is cut off
is two dots. -/
theorem normalizeFrom_concat (w : Workspace) (whole : Path) (t names : List String) {depth : Nat}
    (hdepth : (steps t).length < depth) :
    w.normalizeFrom whole depth (t ++ [""]) names =
      if w.Follows (steps t.reverse) then ofPlace (lead [] (steps t.reverse) ++ names) else whole := by
  induction depth generalizing t names with
  | zero => exact absurd hdepth (Nat.not_lt_zero _)
  -- by induction on the depth left: each round follows the whole rest, or cuts off its last piece
  | succ depth ih =>
    have hreverse : (t ++ [""]).reverse = "" :: t.reverse := by simp
    rw [normalizeFrom, hreverse]
    cases hplace : w.canonical? ("" :: t.reverse) with
    -- the rest can be followed: its place, and behind it the names cut off
    | some place =>
      have hreaches : w.Reaches ("" :: t.reverse) := by rw [Reaches, hplace]; rfl
      have hfollows : w.Follows (steps t.reverse) := hreaches.follows
      rw [if_pos hfollows, lead_steps, eq_lead_of_canonical? hplace]
      rfl
    | none =>
      have hmissing : ¬w.Reaches ("" :: t.reverse) := by rw [Reaches, hplace]; simp
      cases hcount : steps t with
      | nil =>
        -- the root itself can be followed
        have hidle : ∀ s ∈ "" :: t.reverse, isIdle s := by
          intro s hs
          rcases List.mem_cons.1 hs with rfl | hs
          · rfl
          · simpa using List.filter_eq_nil_iff.1 hcount s (List.mem_reverse.1 hs)
        rw [canonical?_of_isIdle hidle] at hplace
        simp at hplace
      | cons s more =>
        -- the last piece is cut off, and what is left is followed up to its two dots as before
        obtain ⟨parent, hparent, rfl, -, -⟩ := trailParent?_concat hcount ""
        have hsplit : steps t.reverse = steps parent.reverse ++ [s] := by
          rw [steps_reverse, hcount, List.reverse_cons, steps_reverse]
        rw [hparent, trailName?_concat hcount]
        simp only [hsplit, follows_concat]
        by_cases hup : s = ".."
        · -- two dots that cannot be followed end the search with the path as it was
          have hback : ¬w.Reaches (steps parent.reverse ++ [".."]) := by
            have hsteps : steps ("" :: t.reverse) = steps parent.reverse ++ [".."] := by
              rw [steps_cons_of_idle rfl, hsplit, hup]
            rw [← hsteps]
            exact fun hreaches => hmissing (hreaches.of_steps (by simp [hsteps]))
          simp [hup, hback]
        · -- a name goes over to the ones cut off, and the rest is shorter by one step
          obtain ⟨-, -, hcounts, -⟩ := dropWhile_of_steps hcount
          rw [if_neg hup]
          dsimp only
          rw [ih _ _ (by simpa [hcount] using hdepth), lead_concat hcounts hup]
          simp [hup]

/-- A path made absolute is absolute. -/
theorem isAbsolute_absolute (w : Workspace) (p : Path) : (w.absolute p).isAbsolute := by
  rw [absolute]
  split
  · rename_i h
    exact h
  · rename_i h
    rw [join, if_neg (by simpa [ofPlace] using h)]
    split <;> simp [isAbsolute, ofPlace]

/-- The parts of a normalised path are the root and its names. -/
theorem parts_normalize (w : Workspace) (p : Path) :
    (w.normalize p).parts = .root :: (w.namesOf p).map stepPart := by
  obtain ⟨first, more, hsegments⟩ := exists_segments (w.absolute p)
  obtain ⟨rfl, -⟩ := (isAbsolute_iff hsegments).1 (w.isAbsolute_absolute p)
  have htrail : (w.absolute p).trail = more.reverse ++ [""] := by
    rw [trail, hsegments, List.reverse_cons]
  have hsteps : w.stepsOf p = steps more := by
    rw [stepsOf, hsegments, steps_cons_of_idle rfl]
  -- the search has more rounds than there are steps
  have hdepth : (steps more.reverse).length < (w.absolute p).trail.length + 1 := by
    have hle := List.length_filter_le (fun s => !isIdle s) more.reverse
    rw [htrail, List.length_append]
    exact Nat.lt_succ_of_le (Nat.le_add_right_of_le hle)
  have hnames : ∀ s ∈ lead [] (steps more), IsName s := hsteps ▸ w.isName_of_mem_lead_stepsOf p
  rw [htrail] at hdepth
  rw [normalize, namesOf, hsteps, htrail, normalizeFrom_concat w _ _ _ hdepth, List.reverse_reverse]
  -- followed to a place, or given back as it was
  split
  · have hrooted : (ofPlace (lead [] (steps more))).isAbsolute := by simp [isAbsolute, ofPlace]
    rw [List.append_nil, parts_of_isAbsolute hrooted, steps_ofPlace hnames]
  · rw [parts_of_isAbsolute (w.isAbsolute_absolute p), ← hsteps, stepsOf]

end

/-! ## Ways -/

section

variable {α : Type} [DecidableEq α]

/-- What two lists have in common is the beginning of both, and behind it they differ at once. -/
theorem dropCommon_spec (as bs : List α) :
    ∃ common, as = common ++ (dropCommon as bs).1 ∧ bs = common ++ (dropCommon as bs).2 ∧
      (common = [] ↔ as = [] ∨ as.head? ≠ bs.head?) := by
  -- by induction on the first list, in step with the second
  induction as generalizing bs with
  | nil => exact ⟨[], by cases bs <;> simp [dropCommon]⟩
  | cons a as ih =>
    cases bs with
    | nil => exact ⟨[], by simp [dropCommon]⟩
    | cons b bs =>
      rw [dropCommon]
      split
      · rename_i h
        obtain ⟨common, has, hbs, -⟩ := ih bs
        exact ⟨a :: common, by rw [List.cons_append, ← has], by rw [List.cons_append, ← hbs, h],
          by simp [h]⟩
      · rename_i h
        exact ⟨[], rfl, rfl, by simpa using h⟩

theorem dropCommon_cons_self (a : α) (as bs : List α) :
    dropCommon (a :: as) (a :: bs) = dropCommon as bs := by
  rw [dropCommon, if_pos rfl]

/-- A function that tells elements apart keeps what is common. -/
theorem dropCommon_map {β : Type} [DecidableEq β] {f : α → β} (hf : Function.Injective f)
    (as bs : List α) :
    dropCommon (as.map f) (bs.map f) = ((dropCommon as bs).1.map f, (dropCommon as bs).2.map f) := by
  induction as generalizing bs with
  | nil => cases bs <;> rfl
  | cons a as ih =>
    cases bs with
    | nil => rfl
    | cons b bs =>
      rw [List.map_cons, List.map_cons, dropCommon, dropCommon]
      by_cases h : a = b
      · rw [if_pos (congrArg f h), if_pos h, ih]
      · rw [if_neg fun heq => h (hf heq), if_neg h, List.map_cons, List.map_cons]

end

section

variable {w : Workspace} {place as bs : List String} {p q : Path}

/-- The pieces of the way from one list of names to another: up as often as needed, then down. -/
def wayBetween (as bs : List String) : List String :=
  let (up, down) := dropCommon as bs
  List.replicate up.length ".." ++ down

/-- A way goes up, or takes a step of its end. -/
theorem mem_wayBetween {s : String} (h : s ∈ wayBetween as bs) : s = ".." ∨ s ∈ bs := by
  obtain ⟨common, -, hbs, -⟩ := dropCommon_spec as bs
  rcases List.mem_append.1 h with h | h
  · exact .inl (List.eq_of_mem_replicate h)
  · rw [hbs]
    exact .inr (List.mem_append_right _ h)

/-- A way as it is written, beginning with a dot. -/
def writeWay (way : List String) : String :=
  match way with
  | [] => "."
  | ".." :: _ => "/".intercalate way
  | _ => "./" ++ "/".intercalate way

/-- The relative path is the way between the names, written out. -/
theorem relative_eq (w : Workspace) (source target : Path) :
    w.relative source target = writeWay (wayBetween (w.namesOf source) (w.namesOf target)) := by
  have hdrop : dropCommon (w.normalize source).parts (w.normalize target).parts =
      ((dropCommon (w.namesOf source) (w.namesOf target)).1.map stepPart,
        (dropCommon (w.namesOf source) (w.namesOf target)).2.map stepPart) := by
    rw [parts_normalize, parts_normalize, dropCommon_cons_self, dropCommon_map stepPart_injective]
  have hup (parts : List String) :
      (parts.map stepPart).map (fun _ => "..") = List.replicate parts.length ".." := by
    rw [List.map_const', List.length_map]
  have hdown (parts : List String) : (parts.map stepPart).map PathPart.text = parts := by
    simp [Function.comp_def, stepPart_text]
  -- unfolded as it stands: its equations, with a case for two dots, take long to derive
  unfold relative wayBetween
  rw [hdrop]
  dsimp only
  rw [hup, hdown]
  generalize List.replicate _ _ ++ (dropCommon (w.namesOf source) (w.namesOf target)).2 = way
  unfold writeWay
  rfl

/-- What is written begins with a dot, with or without a slash behind it, or with two dots. -/
theorem writeWay_dotted (way : List String) :
    writeWay way = "." ∨ (∃ rest, writeWay way = "./" ++ rest) ∨
      (Text.pieces '/' (writeWay way)).head? = some ".." := by
  unfold writeWay
  split
  · exact .inl rfl
  · rename_i way
    refine .inr (.inr ?_)
    cases way with
    | nil => decide
    | cons s way =>
      have hup : Text.pieces '/' ".." = [".."] := by decide
      rw [String.intercalate_cons_cons, pieces_append, hup]
      rfl
  · exact .inr (.inl ⟨_, rfl⟩)

/-- What is written leads to where the way leads. -/
theorem lead_pieces_writeWay {way : List String} (h : ∀ s ∈ way, '/' ∉ s.toList) (place : List String) :
    lead place (Text.pieces '/' (writeWay way)) = lead place way := by
  unfold writeWay
  split
  · rfl
  · -- without a step up the way is written behind a dot, which leads nowhere
    rw [pieces_intercalate h (by simp)]
  · rename_i hnone _
    have hdot : Text.pieces '/' "." = ["."] := by decide
    have hslash : "./" = "." ++ "/" := by decide
    rw [hslash, pieces_append, hdot, pieces_intercalate h hnone]
    rfl

/-- Two dots take back one name each, as long as there are some. -/
theorem lead_replicate_up (place : List String) (n : Nat) :
    lead place (List.replicate n "..") = place.take (place.length - n) := by
  induction n generalizing place with
  | zero => simp [lead]
  | succ n ih =>
    have hup : leadStep place ".." = place.dropLast := rfl
    rw [List.replicate_succ, lead, List.foldl_cons, hup]
    show lead place.dropLast _ = _
    rw [ih, List.dropLast_eq_take, List.take_take, List.length_take]
    congr 1
    omega

theorem lead_append_up (place up : List String) :
    lead (place ++ up) (List.replicate up.length "..") = place := by
  rw [lead_replicate_up, List.length_append, Nat.add_sub_cancel_right, List.take_left]

/-- A step leads one name further down at most. -/
theorem length_lead_le (place segments : List String) :
    (lead place segments).length ≤ place.length + segments.length := by
  induction segments generalizing place with
  | nil => exact Nat.le_refl _
  | cons s segments ih =>
    have hstep : (leadStep place s).length ≤ place.length + 1 := by
      rw [leadStep]
      split
      · omega
      split
      · rw [List.length_dropLast]
        omega
      · rw [List.length_append, List.length_singleton]
    have hrest := ih (leadStep place s)
    rw [List.length_cons]
    show (lead (leadStep place s) segments).length ≤ _
    omega

/-- Two dots keep a way from coming to as many names as it has pieces. -/
theorem length_lead_lt (h : ".." ∈ as) : (lead [] as).length < as.length := by
  -- the steps before the two dots, the step up, and the steps behind
  obtain ⟨before, after, rfl⟩ := List.append_of_mem h
  have hbefore := length_lead_le [] before
  have hafter := length_lead_le (lead [] before).dropLast after
  have hup : leadStep (lead [] before) ".." = (lead [] before).dropLast := rfl
  rw [lead_append, lead, List.foldl_cons, hup, List.length_append, List.length_cons]
  show (lead _ after).length < _
  rw [List.length_dropLast] at hafter
  rw [List.length_nil] at hbefore
  omega

/-- From the place of the names that it begins with a way leads to where the other names lead. -/
theorem lead_wayBetween (h : ∀ s ∈ as, IsName s) (bs : List String) :
    lead as (wayBetween as bs) = lead [] bs := by
  obtain ⟨common, has, hbs, -⟩ := dropCommon_spec as bs
  have hcommon : lead [] common = common := by
    rw [lead_of_isName fun s hs => h s (has ▸ List.mem_append_left _ hs), List.nil_append]
  calc lead as (wayBetween as bs)
    _ = lead (common ++ (dropCommon as bs).1) (wayBetween as bs) := by rw [← has]
    _ = lead common (dropCommon as bs).2 := by rw [wayBetween, lead_append, lead_append_up]
    _ = lead (lead [] common) (dropCommon as bs).2 := by rw [hcommon]
    _ = lead [] bs := by rw [← lead_append, ← hbs]

/-- From a place above that of the names that it begins with a way goes up too far. It leads to the
other names only if it goes up to the root anyway. -/
theorem lead_wayBetween_eq_iff (hplace : place.length < as.length) (h : ∀ s ∈ bs, IsName s) :
    lead place (wayBetween as bs) = bs ↔ as.head? ≠ bs.head? := by
  obtain ⟨common, has, hbs, hnone⟩ := dropCommon_spec as bs
  have hne : as ≠ [] := List.ne_nil_of_length_pos (Nat.zero_lt_of_lt hplace)
  have hdiffer : common = [] ↔ as.head? ≠ bs.head? := hnone.trans (or_iff_right hne)
  have hup : lead place (wayBetween as bs) =
      place.take (place.length - (dropCommon as bs).1.length) ++ (dropCommon as bs).2 := by
    have hdown : ∀ s ∈ (dropCommon as bs).2, IsName s := fun s hs =>
      h s (hbs ▸ List.mem_append_right _ hs)
    rw [wayBetween, lead_append, lead_replicate_up, lead_of_isName hdown]
  -- the place has fewer names than there are steps, as some step goes up
  have hlength := congrArg List.length has
  rw [List.length_append] at hlength
  -- as the place is too short, the way up leaves fewer names than the two have in common
  rw [hup, ← hdiffer]
  generalize (dropCommon as bs).1 = up at hlength ⊢
  generalize (dropCommon as bs).2 = down at hbs ⊢
  rw [hbs, List.append_cancel_right_eq]
  constructor
  · -- with a common beginning the way up would have to leave all of it
    intro htake
    have hcommon := congrArg List.length htake
    rw [List.length_take] at hcommon
    exact List.eq_nil_of_length_eq_zero (by omega)
  · -- with nothing in common the way up leaves the root
    rintro rfl
    rw [List.length_nil] at hlength
    rw [Nat.sub_eq_zero_of_le (by omega), List.take_zero]

/-! ## Leading back -/

/-- The relative path from one folder leads to the other. -/
def LeadsBack (w : Workspace) (source target : Path) : Prop :=
  lead (w.placeOf source) (Text.pieces '/' (w.relative source target)) = w.placeOf target

/-- Two paths are the same, given relative or absolute, or lead to one place. -/
def IsEquivalent (w : Workspace) (p q : Path) : Prop :=
  w.stepsOf p = w.stepsOf q ∨
    w.Follows (w.stepsOf p) ∧ w.Follows (w.stepsOf q) ∧ w.placeOf p = w.placeOf q

/-- No name has a slash. -/
theorem not_mem_of_mem_namesOf {s : String} (h : s ∈ w.namesOf p) : '/' ∉ s.toList := by
  rw [namesOf] at h
  split at h
  · exact (w.isName_of_mem_lead_stepsOf p s h).2.2
  · exact not_mem_of_mem_stepsOf h

/-- The names lead to the place of the path. -/
theorem lead_namesOf (hhere : ∀ s ∈ w.here, IsName s) (p : Path) :
    lead [] (w.namesOf p) = w.placeOf p := by
  rw [namesOf, ← lead_stepsOf hhere]
  split
  · rw [lead_of_isName (w.isName_of_mem_lead_stepsOf p), List.nil_append]
  · rfl

/-- The way is walked as it is written. -/
theorem leadsBack_iff (w : Workspace) (source target : Path) : w.LeadsBack source target ↔
    lead (w.placeOf source) (wayBetween (w.namesOf source) (w.namesOf target)) = w.placeOf target := by
  have hslash : ∀ s ∈ wayBetween (w.namesOf source) (w.namesOf target), '/' ∉ s.toList := by
    intro s hs
    rcases mem_wayBetween hs with rfl | hs
    · decide
    · exact not_mem_of_mem_namesOf hs
  rw [LeadsBack, relative_eq, lead_pieces_writeWay hslash]

/-- From a path that can be followed the way leads to the target. -/
theorem leadsBack_of_follows (hhere : ∀ s ∈ w.here, IsName s) (h : w.Follows (w.stepsOf p)) (q : Path) :
    w.LeadsBack p q := by
  have hnames : w.namesOf p = w.placeOf p := by rw [namesOf, if_pos h, lead_stepsOf hhere]
  have hplace : ∀ s ∈ w.placeOf p, IsName s := lead_stepsOf hhere p ▸ w.isName_of_mem_lead_stepsOf p
  rw [leadsBack_iff, hnames, lead_wayBetween hplace, lead_namesOf hhere]

/-- From a path that cannot be followed it does so only by way of the root. -/
theorem leadsBack_iff_of_not_follows (hhere : ∀ s ∈ w.here, IsName s) (hp : ¬w.Follows (w.stepsOf p))
    (hq : w.Follows (w.stepsOf q)) :
    w.LeadsBack p q ↔ (w.stepsOf p).head? ≠ (w.placeOf q).head? := by
  have hup : ".." ∈ w.stepsOf p := by
    by_contra hnone
    exact hp (follows_of_not_mem hnone)
  -- going up once leaves fewer names than steps
  have hplace : (w.placeOf p).length < (w.stepsOf p).length := by
    rw [← lead_stepsOf hhere]
    exact length_lead_lt hup
  have hnames : ∀ s ∈ w.placeOf q, IsName s := lead_stepsOf hhere q ▸ w.isName_of_mem_lead_stepsOf q
  rw [leadsBack_iff, namesOf, namesOf, if_neg hp, if_pos hq, lead_stepsOf hhere,
    lead_wayBetween_eq_iff hplace hnames]

/-! ## Configurations -/

/-- Equivalent paths have the same names. -/
theorem IsEquivalent.namesOf_eq (hhere : ∀ s ∈ w.here, IsName s) (h : w.IsEquivalent p q) :
    w.namesOf p = w.namesOf q := by
  rcases h with h | ⟨hp, hq, h⟩
  · rw [namesOf, namesOf, h]
  · rw [namesOf, namesOf, if_pos hp, if_pos hq, lead_stepsOf hhere, lead_stepsOf hhere, h]

/-- A path is equivalent to its absolute form. -/
theorem isEquivalent_absolute (w : Workspace) (p : Path) : w.IsEquivalent p (w.absolute p) := by
  left
  rw [stepsOf, stepsOf]
  nth_rewrite 2 [absolute]
  rw [if_pos (w.isAbsolute_absolute p)]

/-- The folder of a file has the names before that of the file. -/
theorem namesOf_parent (hhere : ∀ s ∈ w.here, IsName s) {name : String} (h : p.fileName? = some name) :
    w.namesOf (p.parent?.getD ⟨""⟩) = (w.namesOf p).dropLast := by
  obtain ⟨q, hq, hsteps, hup, hcounts, habsolute⟩ := exists_parent h
  have hstepsOf : w.stepsOf p = w.stepsOf q ++ [name] := by
    rw [stepsOf_eq hhere, stepsOf_eq hhere, hsteps, habsolute]
    split <;> simp
  -- a name at the end may be missing, so both can be followed or neither
  rw [hq, Option.getD_some, namesOf, namesOf]
  simp only [hstepsOf, follows_concat, lead_concat hcounts hup, hup, false_implies, and_true]
  split <;> simp

/-- Equivalent paths have the same import prefix. -/
theorem importPrefixFor_congr (hhere : ∀ s ∈ w.here, IsName s) {output output' source source' : Path}
    (hname : output.fileName?.isSome) (hname' : output'.fileName?.isSome)
    (houtput : w.IsEquivalent output output') (hsource : w.IsEquivalent source source') :
    Config.importPrefixFor w output source = Config.importPrefixFor w output' source' := by
  obtain ⟨name, hname⟩ := Option.isSome_iff_exists.1 hname
  obtain ⟨name', hname'⟩ := Option.isSome_iff_exists.1 hname'
  rw [Config.importPrefixFor, Config.importPrefixFor, relative_eq, relative_eq,
    namesOf_parent hhere hname, namesOf_parent hhere hname', houtput.namesOf_eq hhere,
    hsource.namesOf_eq hhere]

/-- Without a setting the prefix is the one of the paths. -/
theorem importPrefix_make {folder : Option Path} {file : ConfigFile} {flags : RunFlags}
    (h : file.importPrefix = none) :
    let c := Config.make w folder file flags
    c.importPrefix = Config.importPrefixFor w c.output c.sourceRoot := by
  simp only [Config.make, h, Option.getD_none]

/-! ## The paths that lead back -/

/-- Where a path can be followed, its place is where it leads. If the path to begin from can be followed
up to each of its two dots, the relative path leads from its place to that of the target, whatever the
target is. If it cannot, as its two dots stand behind something that is missing, each of them is gone
back from as if it were a folder, and the relative path leads to a target that can be followed only if
the two have no first name in common. It begins with a dot, with or without a slash behind it, or with
two dots. The import prefix of a configuration does not depend on whether the source root and the
output, which has a name, are given relative or absolute. -/
theorem relative_leads_back (w : Workspace) (hhere : ∀ s ∈ w.here, IsName s) (source target : Path) :
    (∀ place, w.resolve source = .ok place → place = w.placeOf source) ∧
    (w.Follows (w.stepsOf source) → w.LeadsBack source target) ∧
    (¬w.Follows (w.stepsOf source) → w.Follows (w.stepsOf target) →
      (w.LeadsBack source target ↔ (w.stepsOf source).head? ≠ (w.placeOf target).head?)) ∧
    (w.relative source target = "." ∨ (∃ rest, w.relative source target = "./" ++ rest) ∨
      (Text.pieces '/' (w.relative source target)).head? = some "..") ∧
    ∀ (folder folder' : Option Path) (file file' : ConfigFile) (flags flags' : RunFlags),
      let c := Config.make w folder file flags
      let c' := Config.make w folder' file' flags'
      file.importPrefix = none → file'.importPrefix = none →
      c.output.fileName?.isSome → c'.output.fileName?.isSome →
      w.IsEquivalent c.sourceRoot c'.sourceRoot → w.IsEquivalent c.output c'.output →
      c.importPrefix = c'.importPrefix := by
  refine ⟨fun place => eq_placeOf_of_resolve hhere, fun h => leadsBack_of_follows hhere h target,
    fun hsource htarget => leadsBack_iff_of_not_follows hhere hsource htarget, ?_, ?_⟩
  · rw [relative_eq]
    exact writeWay_dotted _
  · intro folder folder' file file' flags flags' c c' hfile hfile' hname hname' hsource houtput
    rw [importPrefix_make hfile, importPrefix_make hfile']
    exact importPrefixFor_congr hhere hname hname' houtput hsource

/-- A project with a folder of components. -/
private def project : Workspace where
  disk := .folder "project" (.folder "app" .empty .empty) .empty
  here := ["project"]
  process := 1

/-- What is missing does not matter before a name, but before two dots it does. -/
theorem relative_leads_back_project :
    (∀ s ∈ project.here, IsName s) ∧
      (project.Follows (project.stepsOf ⟨"app/../utopia"⟩) ∧
        project.LeadsBack ⟨"app/../utopia"⟩ ⟨"./app"⟩) ∧
      (¬project.Follows (project.stepsOf ⟨"no/../x"⟩) ∧ project.Follows (project.stepsOf ⟨"app"⟩) ∧
        ¬project.LeadsBack ⟨"no/../x"⟩ ⟨"app"⟩) ∧
      let relative : RunFlags := { source := some ⟨"app"⟩, output := some ⟨"utopia/board.js"⟩ }
      let absolute : RunFlags :=
        { source := some (project.absolute ⟨"app"⟩)
          output := some (project.absolute ⟨"utopia/board.js"⟩) }
      (Config.make project none {} relative).importPrefix =
        (Config.make project none {} absolute).importPrefix := by
  have hhere : ∀ s ∈ project.here, IsName s := by decide
  have hsource : project.Follows (project.stepsOf ⟨"app/../utopia"⟩) := by decide
  have hmissing : ¬project.Follows (project.stepsOf ⟨"no/../x"⟩) := by decide
  have htarget : project.Follows (project.stepsOf ⟨"app"⟩) := by decide
  have hfirst : (project.stepsOf ⟨"no/../x"⟩).head? = (project.placeOf ⟨"app"⟩).head? := by decide
  obtain ⟨-, hback, -, -, hconfig⟩ :=
    project.relative_leads_back hhere ⟨"app/../utopia"⟩ ⟨"./app"⟩
  obtain ⟨-, -, hiff, -⟩ := project.relative_leads_back hhere ⟨"no/../x"⟩ ⟨"app"⟩
  refine ⟨hhere, ⟨hsource, hback hsource⟩, ⟨hmissing, htarget, fun h => ?_⟩, ?_⟩
  · exact (hiff hmissing htarget).1 h hfirst
  · exact hconfig none none {} {} _ _ rfl rfl (by decide) (by decide)
      (project.isEquivalent_absolute ⟨"app"⟩) (project.isEquivalent_absolute ⟨"utopia/board.js"⟩)

/-- From the place of a path whose two dots stand behind something that is missing, the relative path
leads too far up. Without a name an output counts as lying in its own folder if it is relative, and in
the one above if it is absolute. -/
theorem not_relative_leads_back :
    (project.placeOf ⟨"no/../x"⟩ = ["project", "x"] ∧ project.placeOf ⟨"app"⟩ = ["project", "app"] ∧
      project.relative ⟨"no/../x"⟩ ⟨"app"⟩ = "../../../app" ∧
      lead ["project", "x"] (Text.pieces '/' "../../../app") = ["app"]) ∧
      (Config.make project none {} { source := some ⟨"app"⟩, output := some ⟨"."⟩ }).importPrefix =
        "./app" ∧
      (Config.make project none {}
        { source := some ⟨"/project/app"⟩, output := some ⟨"/project/."⟩ }).importPrefix =
        "./project/app" := by
  decide

end

end Workspace

end SceneBoard
