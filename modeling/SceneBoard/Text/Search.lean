/-! # Pieces of a text

Plain search: whether a text contains another, its lines and its parts between separators, and
replacement. Everything is on lists of characters, with the `String` forms at the end.
-/

namespace SceneBoard.Text

/-- The text begins with `needle` somewhere. -/
def contains (needle : List Char) : List Char → Bool
  | [] => needle.isEmpty
  | c :: cs => needle.isPrefixOf (c :: cs) || contains needle cs

/-- A text contains another exactly when the other is a run of its characters. -/
theorem contains_iff {needle cs : List Char} : contains needle cs ↔ needle <:+: cs := by
  induction cs with
  | nil => simp [contains]
  | cons c cs ih =>
    simp [contains, ih, List.infix_cons_iff, List.isPrefixOf_iff_prefix]

/-- The parts of a text between the characters equal to `sep`. -/
def splitOn (sep : Char) : List Char → List (List Char)
  | [] => [[]]
  | c :: cs =>
    if c = sep then [] :: splitOn sep cs
    else match splitOn sep cs with
      | [] => [[c]]
      | part :: parts => (c :: part) :: parts

/-- There is at least one part. -/
theorem splitOn_ne_nil (sep : Char) (cs : List Char) : splitOn sep cs ≠ [] := by
  cases cs with
  | nil => simp [splitOn]
  | cons c cs =>
    simp only [splitOn]
    split
    · simp
    · split <;> simp

/-- A separator parts a text in two, each with its own parts. -/
theorem splitOn_append (sep : Char) (xs ys : List Char) :
    splitOn sep (xs ++ sep :: ys) = splitOn sep xs ++ splitOn sep ys := by
  induction xs with
  | nil => simp [splitOn]
  | cons x xs ih =>
    obtain ⟨part, parts, hp⟩ := List.exists_cons_of_ne_nil (splitOn_ne_nil sep xs)
    simp only [List.cons_append, splitOn, ih, hp]
    split <;> rfl

/-- A text without the separator is its only part. -/
theorem splitOn_eq_singleton {sep : Char} {cs : List Char} (h : sep ∉ cs) :
    splitOn sep cs = [cs] := by
  induction cs with
  | nil => rfl
  | cons c cs ih =>
    rw [List.mem_cons, not_or] at h
    rw [splitOn, if_neg fun heq => h.1 heq.symm, ih h.2]

/-- The separator is in none of the parts. -/
theorem not_mem_of_mem_splitOn {sep : Char} {cs part : List Char} (h : part ∈ splitOn sep cs) :
    sep ∉ part := by
  induction cs generalizing part with
  | nil =>
    obtain rfl : part = [] := by simpa [splitOn] using h
    simp
  | cons c cs ih =>
    obtain ⟨first, parts, hp⟩ := List.exists_cons_of_ne_nil (splitOn_ne_nil sep cs)
    rw [hp] at ih
    simp only [splitOn, hp] at h
    split at h
    · rcases List.mem_cons.1 h with rfl | h
      · simp
      · exact ih h
    · rename_i hc
      rcases List.mem_cons.1 h with rfl | h
      · rw [List.mem_cons, not_or]
        exact ⟨fun heq => hc heq.symm, ih (by simp)⟩
      · exact ih (by simp [h])

/-- The lines of a text, without their line feeds and without a carriage return before one; a line
feed at the end begins no further line. -/
def lines (cs : List Char) : List (List Char) :=
  let parts := splitOn '\n' cs
  -- only a line that a line feed ends loses its carriage return
  let ended := parts.dropLast.map fun line =>
    if line.getLast? = some '\r' then line.dropLast else line
  match parts.getLast? with
  | some [] | none => ended
  | some last => ended ++ [last]

/-- Every occurrence of `needle`, from left to right and without overlap, becomes `value`; `skip`
characters of an occurrence are still to be passed over. -/
def replaceFrom (needle value : List Char) : Nat → List Char → List Char
  | _, [] => []
  | skip + 1, _ :: cs => replaceFrom needle value skip cs
  | 0, c :: cs =>
    if needle.isPrefixOf (c :: cs) then value ++ replaceFrom needle value (needle.length - 1) cs
    else c :: replaceFrom needle value 0 cs

/-- Every occurrence of a text becomes `value`, from left to right and without overlap. The empty
text occurs before each character and at the end. -/
def replace (needle value cs : List Char) : List Char :=
  if needle.isEmpty then value ++ cs.flatMap fun c => c :: value
  else replaceFrom needle value 0 cs

/-- The pieces of the text `s` between the characters equal to `sep`. -/
def pieces (sep : Char) (s : String) : List String :=
  (splitOn sep s.toList).map String.ofList

/-- The text `s` contains `needle`. -/
def occursIn (needle s : String) : Bool :=
  contains needle.toList s.toList

/-- The text `s` with every occurrence of `needle` replaced by `value`. -/
def replaceIn (s needle value : String) : String :=
  String.ofList (replace needle.toList value.toList s.toList)

/-- Two texts differ at most in the case of their ASCII letters. -/
def sameIgnoringCase (s t : String) : Bool :=
  s.toList.map Char.toLower == t.toList.map Char.toLower

end SceneBoard.Text
