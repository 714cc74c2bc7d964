import SceneBoard.Proofs.ImportLine
import SceneBoard.Proofs.Leftmost

/-!
# Imports of a text

The pattern of import lines describes the pieces of a text that are import lines and stand on lines
of their own (`describes_componentImport`); what it reads such a piece as is told by the text alone
(`importLine?_eq_some_iff`), and it can be written again as it is (`isWhole_of_mem_imports`).

As there may be line feeds inside an import, a search can pass over an import that begins inside
another one. It passes over none that is a single line (`exists_match_of_line`): the quote that
closes the outer one would open the inner one, and behind it the line ends.
-/

namespace SceneBoard.Storyboard

open Text Text.Pattern

/-! ## Import lines in a text -/

/-- A piece of a text that is an import line, and begins and ends where lines do. -/
structure IsImportPiece (before piece after : List Char) : Prop where
  start : ∀ x ∈ before.getLast?, x = '\n'
  line : ∃ name, IsImportLine name piece
  stop : ∀ x ∈ after.head?, x = '\n'

/-- A line begins at the beginning of the text or behind a line feed. -/
private theorem lineStart_iff {cs before : List Char} {c : Cursor}
    (h : (Cursor.mk 0 none cs).Reads before c) :
    Anchor.lineStart.holds c ↔ ∀ x ∈ before.getLast?, x = '\n' := by
  rw [Anchor.holds, h.before, Option.or_none]
  cases before.getLast? <;> simp

/-- A line ends at the end of the text or before a line feed. -/
private theorem lineEnd_iff {d : Cursor} :
    Anchor.lineEnd.holds d ↔ ∀ x ∈ d.rest.head?, x = '\n' := by
  rw [Anchor.holds]
  cases d.rest.head? <;> simp

/-- The pattern describes import lines on lines of their own. -/
theorem describes_componentImport : componentImport.Describes IsImportPiece where
  ne_nil := by
    rintro before piece after ⟨-, ⟨name, hline⟩, -⟩
    exact hline.ne_nil
  sound := by
    intro cs before c w hbefore hw
    obtain ⟨name, line, hline, hread, hstart, hend, -⟩ :=
      exists_of_mem_ways_componentImport (List.mem_of_head? hw)
    exact ⟨line, hread, (lineStart_iff hbefore).1 hstart, ⟨name, hline⟩, lineEnd_iff.1 hend⟩
  complete := by
    rintro cs before piece c d hbefore hread ⟨hstart, ⟨name, hline⟩, hend⟩ hnil
    obtain ⟨ms, hms, -⟩ := head?_ways_componentImport hline hread ((lineStart_iff hbefore).2 hstart)
      (lineEnd_iff.2 hend)
    simp [hnil] at hms

/-- From one place an import line is read in one way. -/
private theorem import_unique {name name' line line' after after' : List Char}
    (hline : IsImportLine name line) (hline' : IsImportLine name' line')
    (hafter : ∀ x ∈ after.head?, x = '\n') (hafter' : ∀ x ∈ after'.head?, x = '\n')
    (heq : line ++ after = line' ++ after') : name = name' ∧ line = line' := by
  obtain ⟨d, hd, rfl⟩ := Cursor.Reads.ofRest (c := ⟨0, none, line ++ after⟩) rfl
  obtain ⟨d', hd', rfl⟩ := Cursor.Reads.ofRest (c := ⟨0, none, line ++ d.rest⟩) heq
  -- both are read first where they stand, and there is one first way
  obtain ⟨ms, hms, hname⟩ :=
    head?_ways_componentImport hline hd (by simp [Anchor.holds]) (lineEnd_iff.2 hafter)
  obtain ⟨ms', hms', hname'⟩ :=
    head?_ways_componentImport hline' hd' (by simp [Anchor.holds]) (lineEnd_iff.2 hafter')
  obtain ⟨rfl, rfl⟩ := Way.mk.inj (Option.some.inj (hms.symm.trans hms'))
  refine ⟨?_, by rw [← hd.upTo, hd'.upTo]⟩
  exact Option.some.inj ((hname ⟨d, d, ms⟩ rfl).symm.trans (hname' ⟨d, d, ms⟩ rfl))

/-- What a match imports: the name of its line, and the line without the white space at its end. -/
structure ReadsImport (m : Match) (i : ImportLine) : Prop where
  line : IsImportLine i.name.toList m.text
  written : i.line = String.ofList (trimRight m.text)

/-- The import that is read from a match is the one of its text. -/
theorem importLine?_eq_some_iff {m : Match} {cs : List Char} {i : ImportLine}
    (hm : m ∈ componentImport.findAll cs) : importLine? m = some i ↔ ReadsImport m i := by
  obtain ⟨w, -, -, hw, hmw⟩ := exists_of_mem_findAll hm
  obtain ⟨name, line, hline, hread, -, -, hgroup⟩ :=
    exists_of_mem_ways_componentImport (List.mem_of_head? hw)
  -- what was found is the line that the pattern reads there
  have htext : m.text = line := by
    rw [Match.text, ← hread.upTo]
    congr 1
    rw [hmw]
  rw [importLine?, hgroup m (by rw [hmw]), Option.map_some, Option.some_inj, htext]
  constructor
  · rintro rfl
    exact ⟨by rwa [String.toList_ofList, htext], by rw [htext]⟩
  · rintro ⟨hline', hwritten⟩
    rw [htext] at hline' hwritten
    have hend : ∀ x ∈ ([] : List Char).head?, x = '\n' := by simp
    obtain ⟨rfl, -⟩ := import_unique hline hline' hend hend rfl
    rw [← hwritten, String.ofList_toList]

/-- What is read as an import is whole. -/
theorem ReadsImport.isWhole {m : Match} {i : ImportLine} (h : ReadsImport m i) : IsWhole i := by
  have htoList : i.line.toList = trimRight m.text := by rw [h.written, String.toList_ofList]
  obtain ⟨htrimmed, htwice⟩ := h.line.trimmed
  rw [← htoList] at htrimmed htwice
  exact ⟨htrimmed, htwice⟩

/-- The imports of a storyboard are whole. -/
theorem isWhole_of_mem_imports {text : String} {i : ImportLine} (h : i ∈ (parse text).imports) :
    IsWhole i := by
  obtain ⟨m, hm, hi⟩ := List.mem_filterMap.1 ((distinctBy_sublist _).subset h)
  exact ((importLine?_eq_some_iff hm).1 hi).isWhole

/-! ## Lines that are imports by themselves -/

section

variable {name line : List Char}

/-- No import begins in a gap that no `i` follows. -/
private theorem clear_gap {g v : List Char} (hg : ∀ x ∈ g, isBlank x) (hv : 'i' ∉ v.head?) :
    Clear "\nimport".toList g v := by
  rintro s hs hne ⟨r, hr⟩
  -- the text would begin with a line feed of the gap, and its second letter is not in the gap
  cases s with
  | nil => exact hne rfl
  | cons x s =>
    have hrest : 'i' :: ("mport".toList ++ r) = s ++ v := (List.cons.inj hr).2
    cases s with
    | nil => exact hv (by rw [← List.nil_append v, ← hrest]; rfl)
    | cons y s =>
      obtain rfl : 'i' = y := (List.cons.inj hrest).1
      exact absurd (hg 'i' (hs.subset (by simp))) (by decide)

/-- A name does not begin with the first letter of the keyword. -/
private theorem not_mem_head?_of_isImportName (h : IsImportName name) (v : List Char) :
    'i' ∉ (name ++ v).head? := by
  cases name with
  | nil => exact h.elim
  | cons x xs =>
    simp only [List.cons_append, List.head?_cons, Option.mem_some_iff]
    rintro rfl
    exact absurd h.1 (by decide)

/-- No import begins at the name. -/
private theorem clear_namePart {part v : List Char} (hname : IsImportName name)
    (hpart : IsNamePart name part) : Clear "\nimport".toList part v := by
  have hclear (v : List Char) : Clear "\nimport".toList name v :=
    clear_of_head_not_mem (not_mem_of_isImportName hname (by decide))
  cases hpart with
  | named hb hb' =>
    refine (clear_append (w := ['\x7b'])).2 ⟨clear_of_head_not_mem (by decide), ?_⟩
    refine clear_append.2 ⟨clear_gap hb ?_, clear_append.2 ⟨hclear _, ?_⟩⟩
    · rw [List.append_assoc]
      exact not_mem_head?_of_isImportName hname _
    · exact clear_append.2 ⟨clear_gap hb' (by simp), clear_of_head_not_mem (by decide)⟩
  | default => exact hclear v

/-- No name between the keywords begins with an `i`. -/
private theorem not_mem_head?_of_isNamePart {part : List Char} (hname : IsImportName name)
    (hpart : IsNamePart name part) (v : List Char) : 'i' ∉ (part ++ v).head? := by
  cases hpart with
  | named hb hb' => simp
  | default => exact not_mem_head?_of_isImportName hname v

private theorem quote_not_mem_gap {g : List Char} (hg : ∀ x ∈ g, isBlank x) : '\x27' ∉ g :=
  fun hmem => absurd (hg _ hmem) (by decide)

/-- The name between the keywords has no quote. -/
private theorem quote_not_mem_namePart {part : List Char} (hname : IsImportName name)
    (hpart : IsNamePart name part) : '\x27' ∉ part := by
  have hquote : '\x27' ∉ name := not_mem_of_isImportName hname (by decide)
  cases hpart with
  | named hb hb' => simp [quote_not_mem_gap hb, quote_not_mem_gap hb', hquote]
  | default => exact hquote

/-- The end of a line has no quote and no line feed. -/
private theorem not_mem_lineTail {tail : List Char} (htail : IsLineTail tail) :
    '\x27' ∉ tail ∧ '\n' ∉ tail := by
  have hspaces {a : List Char} (ha : ∀ x ∈ a, isSpaceOrTab x) : '\x27' ∉ a ∧ '\n' ∉ a :=
    ⟨fun hmem => absurd (ha _ hmem) (by decide), fun hmem => absurd (ha _ hmem) (by decide)⟩
  cases htail with
  | plain ha => exact hspaces ha
  | semicolon ha hb => simp [hspaces ha, hspaces hb]

/-- An import line has two quotes; no line of it that stands before the first one begins with the
keyword, and it has no line feed behind the second. -/
private theorem exists_quotes (h : IsImportLine name line) : ∃ front place tail,
    line = front ++ '\x27' :: (place ++ '\x27' :: tail) ∧ '\x27' ∉ front ∧ '\x27' ∉ place ∧
      '\x27' ∉ tail ∧ '\n' ∉ tail ∧ ∀ v, Clear "\nimport".toList front ('\x27' :: v) := by
  cases h with
  | mk hname hg hpart hsource =>
    cases hsource with
    | mk hg₂ hg₃ hplace htail =>
      rename_i g part g₂ g₃ place tail
      -- the two quotes are those around the place
      obtain ⟨hquote, hfeed⟩ := not_mem_lineTail htail
      refine ⟨"import".toList ++ (g ++ (part ++ (g₂ ++ ("from".toList ++ g₃)))), place, tail,
        by simp, ?_, fun hmem => absurd (hplace _ hmem) (by decide), hquote, hfeed, fun v => ?_⟩
      · simp only [List.mem_append, not_or]
        exact ⟨by decide, quote_not_mem_gap hg.blank, quote_not_mem_namePart hname hpart,
          quote_not_mem_gap hg₂.blank, by decide, quote_not_mem_gap hg₃.blank⟩
      · refine clear_append.2 ⟨clear_of_head_not_mem (by decide), clear_append.2 ⟨?_, ?_⟩⟩
        · rw [List.append_assoc]
          exact clear_gap hg.blank (not_mem_head?_of_isNamePart hname hpart _)
        · refine clear_append.2 ⟨clear_namePart hname hpart, clear_append.2 ⟨?_, ?_⟩⟩
          · exact clear_gap hg₂.blank (by simp)
          · exact clear_append.2 ⟨clear_of_head_not_mem (by decide), clear_gap hg₃.blank (by simp)⟩

/-- Two texts split at the first place of a character are split in the same way. -/
private theorem append_cons_inj {xs ys zs ws : List Char} {x : Char} (hxs : x ∉ xs) (hys : x ∉ ys)
    (h : xs ++ x :: zs = ys ++ x :: ws) : xs = ys ∧ zs = ws := by
  rcases List.append_eq_append_iff.1 h with ⟨u, rfl, hu⟩ | ⟨u, rfl, hu⟩
  · cases u with
    | nil => simpa using hu
    | cons y u => simp [(List.cons.inj hu).1] at hys
  · cases u with
    | nil => simpa [eq_comm] using hu
    | cons y u => simp [(List.cons.inj hu).1] at hxs

/-- Inside an import line no other one begins that ends on the line on which it begins. -/
private theorem not_begins_inside {name' u s after after' : List Char}
    (houter : IsImportLine name' (u ++ s)) (hline : IsImportLine name line)
    (hu : u.getLast? = some '\n') (heq : s ++ after' = line ++ after)
    (hafter' : ∀ x ∈ after'.head?, x = '\n') (hfeed : '\n' ∉ line) : False := by
  obtain ⟨u, rfl⟩ := List.getLast?_eq_some_iff.1 hu
  obtain ⟨front, place, tail, hsplit, hfront, hplace, htail, htailFeed, hclear⟩ :=
    exists_quotes houter
  rw [List.append_assoc] at hsplit
  rcases append_cons_cases (by decide) hsplit with ⟨x, rfl, rfl⟩ | ⟨x, -, hbehind⟩
  -- a line begins before the first quote, so the keyword does not stand there
  · have hkeyword : "import".toList <+: x ++ '\x27' :: (place ++ '\x27' :: tail) ++ after' := by
      rw [heq]
      cases hline with
      | mk => simp
    have hlist : "\nimport".toList = '\n' :: "import".toList := by decide
    refine hclear (place ++ '\x27' :: tail ++ after') ('\n' :: x) (List.suffix_append u _)
      (by simp) ?_
    rw [hlist, List.cons_append, List.cons_prefix_cons]
    exact ⟨rfl, by simpa using hkeyword⟩
  · rcases append_cons_cases (by decide) hbehind with ⟨y, -, rfl⟩ | ⟨y, rfl, rfl⟩
    -- no line begins behind the second quote
    · simp at htailFeed
    -- a line begins between the quotes, so that its first quote is the second one
    · obtain ⟨front', place', tail', rfl, hfront', -, -, -, -⟩ := exists_quotes hline
      simp only [List.mem_append, List.mem_cons, not_or] at hplace hfeed
      rw [List.append_assoc, List.append_assoc, List.cons_append, List.cons_append] at heq
      obtain ⟨-, hrest⟩ := append_cons_inj hplace.2.2 hfront' heq
      rw [List.append_assoc, List.cons_append] at hrest
      -- behind it the line ends, and the other import needs one more quote
      cases after' with
      | nil => exact htail (by rw [← List.append_nil tail, hrest]; simp)
      | cons z after' =>
        obtain rfl := hafter' z (by simp)
        exact append_cons_ne hfeed.2.2.1 htail (by decide) hrest

/-- A match that begins where an import line begins is that line. -/
theorem text_eq_of_start_eq {cs before after : List Char} {m : Match}
    (hm : m ∈ componentImport.findAll cs) (hcs : cs = before ++ (line ++ after))
    (hpiece : IsImportPiece before line after) (hstart : m.start.index = before.length) :
    m.text = line := by
  obtain ⟨before', after', hcs', hstart', -, hpiece'⟩ :=
    (describes_componentImport.isSearch cs).sound m hm
  obtain ⟨name', hline'⟩ := hpiece'.line
  obtain ⟨name, hline⟩ := hpiece.line
  -- two lines that begin at one place and both end there are one line
  have hrest := (List.append_inj (hcs'.symm.trans hcs) (hstart'.symm.trans hstart)).2
  exact (import_unique hline' hline hpiece'.stop hpiece.stop hrest).2

/-- A line that is an import by itself is found. -/
theorem exists_match_of_line {cs before after : List Char} (hcs : cs = before ++ (line ++ after))
    (hpiece : IsImportPiece before line after) (hfeed : '\n' ∉ line) :
    ∃ m ∈ componentImport.findAll cs, m.start.index = before.length ∧ m.text = line := by
  have hsearch := describes_componentImport.isSearch cs
  obtain ⟨m, hm, hle, hlt⟩ := hsearch.complete before line after hcs hpiece
  rcases Nat.eq_or_lt_of_le hle with hstart | hinside
  · exact ⟨m, hm, hstart, text_eq_of_start_eq hm hcs hpiece hstart⟩
  -- otherwise the match goes on where the line begins
  · -- the match begins further left and reaches into the line
    obtain ⟨before', after', hcs', hstart, hstop, hpiece'⟩ := hsearch.sound m hm
    obtain ⟨name', hline'⟩ := hpiece'.line
    obtain ⟨name, hline⟩ := hpiece.line
    have heq := hcs'.symm.trans hcs
    obtain ⟨u, rfl⟩ : before' <+: before :=
      List.prefix_of_prefix_length_le ⟨_, hcs'.symm⟩ ⟨_, hcs.symm⟩ (hstart ▸ hle)
    rw [List.append_assoc, List.append_cancel_left_eq] at heq
    rw [List.length_append] at hlt hinside
    obtain ⟨s, hs⟩ : u <+: m.text :=
      List.prefix_of_prefix_length_le ⟨_, heq.symm⟩ ⟨_, rfl⟩ (by omega)
    have hlast : u.getLast? = some '\n' := by
      rcases List.eq_nil_or_concat u with rfl | ⟨v, x, rfl⟩
      · simp at hinside
        omega
      · rw [hpiece.start x (by simp)]
        simp
    rw [← hs, List.append_assoc, List.append_cancel_left_eq] at heq
    exact (not_begins_inside (hs.symm ▸ hline') hline hlast heq hpiece'.stop hfeed).elim

end

end SceneBoard.Storyboard
