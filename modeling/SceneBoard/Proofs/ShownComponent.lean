import Mathlib.Data.List.TakeWhile
import SceneBoard.Proofs.Rereading
import SceneBoard.Proofs.Tags

/-!
# What a written scene shows

The scene of a component is written from the component's template, and when it is read again its
first capitalized tag tells what it shows. That tag is the component, with two exceptions
(`component?_ofComponent`): the description of the application has no capitalized tag at all, and a
name with a character that tags do not have is not read as a tag. A scene of either kind is read as
one of which it is not known what it shows. What else a scene refers to decides which imports it
needs; the scene of a component refers to the component alone (`eq_of_mem_references_ofComponent`).

## Key results

- `filter_tags`: the only tag of a text is noticed if its name is that of a tag
- `component?_ofComponent`: what the scene of a component is read to show
- `eq_of_mem_references_ofComponent`: the scene of a component refers to no other component
-/

namespace SceneBoard

open Text Text.Pattern Storyboard

/-- The name of a component is one of a tag, if it begins like one. -/
def Component.HasTagName (c : Component) : Prop :=
  ∀ x ∈ c.name.toList, Body.isTagChar x

instance (c : Component) : Decidable c.HasTagName :=
  decidable_of_iff (c.name.toList.all Body.isTagChar) List.all_eq_true

/-- The scene of a component, once it was written, is read as one that shows the component. -/
def Component.IsShown (c : Component) : Prop :=
  c.name ≠ appName ∧ c.HasTagName

instance (c : Component) : Decidable c.IsShown :=
  inferInstanceAs (Decidable (_ ∧ _))

/-! ## Texts with one tag -/

namespace Body

variable {name pre post : List Char} {x : Char}

private theorem isImportChar_eq_false {x : Char} (h : isTagEnd x) : isImportChar x = false := by
  simp only [isTagEnd, Bool.or_eq_true, beq_iff_eq] at h
  rcases h with ((rfl | rfl) | rfl) | rfl <;> decide

/-- The name of an import begins as that of a tag does. -/
private theorem isName_takeWhile (hname : IsImportName name) :
    IsName (name.takeWhile isTagChar) where
  upper := by
    cases name with
    | nil => exact hname.elim
    | cons y ys => rw [List.takeWhile_cons_of_pos (isTagChar_of_isUpper hname.1)]; exact hname.1
  chars _ := List.all_eq_true.1 List.all_takeWhile _

/-- A text with one less-than sign has one tag. It is noticed if the whole name behind the sign is
that of a tag. -/
private theorem filter_tags (hname : IsImportName name) (hpre : '<' ∉ pre) (hpost : '<' ∉ post)
    (hx : isTagEnd x) : (tags (pre ++ '<' :: (name ++ x :: post))).filter (·.IsNoticed) =
      if name.all isTagChar then [⟨String.ofList name, some x⟩] else [] := by
  obtain ⟨rest, hrest⟩ : ∃ rest, name.dropWhile isTagChar = rest := ⟨_, rfl⟩
  -- the name up to where the tag stops, and the rest of it
  have hsplit : name ++ x :: post = name.takeWhile isTagChar ++ (rest ++ x :: post) := by
    rw [← hrest, ← List.append_assoc, List.takeWhile_append_dropWhile]
  have hless : '<' ∉ rest ++ x :: post := by
    simp only [List.mem_append, List.mem_cons, not_or]
    refine ⟨fun h => ?_, ?_, hpost⟩
    · exact not_mem_of_isImportName hname (by decide)
        ((List.dropWhile_suffix isTagChar).subset (hrest ▸ h))
    · rintro rfl
      exact absurd hx (by decide)
  -- the name stops before the character behind it, or at one that only names of imports have
  cases rest with
  | nil =>
    -- the name is one of a tag in full
    have htag : ∀ y ∈ name, isTagChar y := List.dropWhile_eq_nil_iff.1 hrest
    have htake : name.takeWhile isTagChar = name := List.takeWhile_eq_self_iff.2 htag
    rw [hsplit, tags_append (tags_of_not_mem hpre) (isName_takeWhile hname)
      (by simpa using isTagChar_eq_false_of_isTagEnd hx), tags_of_not_mem hless, htake,
      if_pos (List.all_eq_true.2 htag)]
    exact List.filter_cons_of_pos (decide_eq_true hx)
  | cons y rest =>
    -- the tag ends at a dollar sign inside the name, and nothing notices it there
    have hy : isTagChar y = false := by
      have hhead := List.head?_dropWhile_not isTagChar name
      rw [hrest] at hhead
      exact hhead
    have hmem : y ∈ name := (List.dropWhile_suffix isTagChar).subset (hrest ▸ List.mem_cons_self)
    have hnoticed : ¬ isTagEnd y := fun h =>
      not_mem_of_isImportName hname (isImportChar_eq_false h) hmem
    rw [hsplit, tags_append (tags_of_not_mem hpre) (isName_takeWhile hname) (by simpa using hy),
      tags_of_not_mem hless, if_neg fun h => by simpa [hy] using List.all_eq_true.1 h y hmem]
    exact List.filter_cons_of_neg fun h => hnoticed (of_decide_eq_true h)

/-- Nothing is handed to a wrapping tag in a text that does not say so. -/
private theorem handed_eq_nil {cs : List Char} (h : ¬ "component=\x7b".toList <:+: cs) :
    handed cs = [] := by
  refine List.filter_eq_nil_iff.2 fun t ht => absurd ?_ h
  obtain ⟨pre, name, rest, rfl, -⟩ := (mem_namesBehind (by decide)).1 ht
  exact ⟨pre, name ++ rest, by rw [List.append_assoc]⟩

end Body

/-! ## Templates -/

namespace Template

open Body

/-- A template of one line with a tag that closes itself. -/
private structure IsTag (t : Template) (name : String) (rest : List Char) : Prop where
  lines : ∃ line, t.lines = [line] ∧ line.toList = '<' :: (name.toList ++ ' ' :: rest)
  written : ∀ body, t ≠ .verbatim body
  less : '<' ∉ rest
  wraps : apart "component=\x7b".toList (' ' :: (rest ++ ("\n".toList ++ "    ".toList)))

/-- The template with a style is one tag. -/
private theorem isTag_styled (name : String) :
    IsTag (styled name) name "style=\x7b\x7b\x7d\x7d />".toList where
  lines := ⟨_, rfl, by rw [String.toList_append, String.toList_append]; rfl⟩
  written := by simp
  less := by decide
  wraps := by decide

/-- The template without one is one tag. -/
private theorem isTag_bare (name : String) : IsTag (bare name) name "/>".toList where
  lines := ⟨_, rfl, by rw [String.toList_append, String.toList_append]; rfl⟩
  written := by simp
  less := by decide
  wraps := by decide

namespace IsTag

variable {t : Template} {name : String} {rest : List Char} (h : t.IsTag name rest)
  (hname : IsImportName name.toList)

include h

/-- The body is its one tag, with white space around. -/
private theorem toList_body : t.body.toList = ("\n".toList ++ "      ".toList) ++
    '<' :: (name.toList ++ ' ' :: (rest ++ ("\n".toList ++ "    ".toList))) := by
  obtain ⟨line, hlines, hline⟩ := h.lines
  rw [Template.toList_body h.written, hlines, List.flatMap_singleton, hline]
  simp only [List.append_assoc, List.cons_append]

private theorem not_mem_end : '<' ∉ rest ++ ("\n".toList ++ "    ".toList) := by
  rw [List.mem_append, not_or]
  exact ⟨h.less, by decide⟩

include hname

/-- It has that tag, or none that is noticed. -/
private theorem filter_tags_body : (tags t.body.toList).filter (·.IsNoticed) =
    if name.toList.all isTagChar then [⟨name, some ' '⟩] else [] := by
  rw [h.toList_body, filter_tags hname (by decide) h.not_mem_end (by decide), String.ofList_toList]

/-- It refers to nothing but the name in the tag. -/
private theorem eq_of_mem_references {found : String} (hfound : found ∈ Body.references t.body) :
    found = name := by
  -- nothing is handed to the tag
  have hclear : Clear "component=\x7b".toList t.body.toList [] := by
    have hequals : '=' ∉ '<' :: name.toList := by
      rw [List.mem_cons, not_or]
      exact ⟨by decide, not_mem_of_isImportName hname (by decide)⟩
    rw [h.toList_body]
    refine clear_append.2 ⟨clear_of_apart (by decide), ?_⟩
    exact (clear_append (w := '<' :: name.toList)).2
      ⟨@clear_of_not_mem "component".toList _ _ _ _ _ hequals (by decide) (by decide),
        clear_of_apart h.wraps⟩
  -- what is found is a tag that is noticed, or a component that is handed on
  obtain ⟨-, ⟨u, hu, hnoticed, rfl⟩ | ⟨u, hu, rfl⟩⟩ := mem_references_iff.1 hfound
  · have hmem : u ∈ (tags t.body.toList).filter (·.IsNoticed) :=
      List.mem_filter.2 ⟨hu, decide_eq_true hnoticed⟩
    rw [h.filter_tags_body hname] at hmem
    split at hmem
    · rw [List.mem_singleton.1 hmem]
    · simp at hmem
  · rw [handed_eq_nil (not_infix_of_clear (by decide) hclear)] at hu
    simp at hu

end IsTag

/-- The description of the application has no tags of components and hands none to others. -/
private theorem tags_app : tags app.body.toList = [] ∧ handed app.body.toList = [] := by
  rw [toList_body (by simp)]
  decide +kernel

theorem ofComponent_of_app {c : Component} (h : c.name = appName) : ofComponent c = app :=
  if_pos h

/-- The description of the application refers to no component. -/
theorem references_app : Body.references app.body = [] := by
  rw [references_eq, tags_app.1, tags_app.2]
  rfl

/-- Nor is it read to show one. -/
theorem component?_app : Body.component? app.body = none := by
  rw [component?_eq, tags_app.1]
  rfl

/-- The other templates with a content of their own have the tag of their component. -/
private theorem component?_of_fixed {name : String} {t : Template}
    (h : (name, t) ∈ [("PageLayout", pageLayout), ("Tag", tag), ("Button", button),
      ("CaseStudyDetail", caseStudyDetail), ("Playground", playground)]) :
    Body.component? t.body = some name ∧ name ≠ appName ∧ name.toList.all isTagChar := by
  have hall : ∀ e ∈ [("PageLayout", pageLayout), ("Tag", tag), ("Button", button),
      ("CaseStudyDetail", caseStudyDetail), ("Playground", playground)],
      Body.component? e.2.body = some e.1 ∧ e.1 ≠ appName ∧ e.1.toList.all isTagChar := by
    simp only [component?_eq]
    decide +kernel
  exact hall (name, t) h

/-- A tag that is a wrapper wraps nothing here, so it is what is shown. -/
private theorem component?_of_wrapper {name : String} (h : name ∈ wrappers) :
    (Body.component? (styled name).body = some name ∧ Body.component? (bare name).body = some name) ∧
      name.toList.all isTagChar := by
  have hall : ∀ name ∈ wrappers, (Body.component? (styled name).body = some name ∧
      Body.component? (bare name).body = some name) ∧ name.toList.all isTagChar := by
    simp only [component?_eq]
    decide +kernel
  exact hall name h

/-- A template of one tag shows its name, if this is one of a tag. -/
private theorem component?_of_isTag {name : String} {t : Template} {rest : List Char}
    (h : t.IsTag name rest) (hname : IsImportName name.toList) (hwrapper : name ∉ wrappers) :
    Body.component? t.body = if name.toList.all isTagChar then some name else none := by
  rw [component?_eq, ← List.head?_filter, h.filter_tags_body hname]
  split
  · rw [List.head?_cons, Option.map_some, shown, if_neg hwrapper]
  · rfl

/-- A bare tag shows the component, unless its name is not that of a tag. -/
private theorem component?_styled_and_bare {name : String} (hname : IsImportName name.toList) :
    Body.component? (styled name).body =
        (if name.toList.all isTagChar then some name else none) ∧
      Body.component? (bare name).body =
        if name.toList.all isTagChar then some name else none := by
  -- the wrappers are looked through, the others have their own tag
  by_cases hwrapper : name ∈ wrappers
  · obtain ⟨hshown, htag⟩ := component?_of_wrapper hwrapper
    rw [if_pos htag]
    exact hshown
  · exact ⟨component?_of_isTag (isTag_styled name) hname hwrapper,
      component?_of_isTag (isTag_bare name) hname hwrapper⟩

end Template

open Template in
/-- What the scene of a component is read to show: the component, or nothing that is known. -/
theorem component?_ofComponent {c : Component} (hname : IsImportName c.name.toList) :
    Body.component? (Template.ofComponent c).body = if c.IsShown then some c.name else none := by
  obtain ⟨hstyled, hbare⟩ := component?_styled_and_bare hname
  -- apart from the app a component is shown if its name is one of a tag
  have hshown (happ : c.name ≠ appName) :
      (if c.IsShown then some c.name else none) =
        if c.name.toList.all Body.isTagChar then some c.name else none :=
    if_congr ((and_iff_right happ).trans List.all_eq_true.symm) rfl rfl
  have hfixed {name : String} {t : Template} (hc : c.name = name)
      (h : (name, t) ∈ [("PageLayout", pageLayout), ("Tag", tag), ("Button", button),
        ("CaseStudyDetail", caseStudyDetail), ("Playground", playground)]) :
      Body.component? t.body = if c.IsShown then some c.name else none := by
    -- a fixed template shows the component it is for
    obtain ⟨hbody, happ, htag⟩ := component?_of_fixed h
    rw [hbody, hshown (hc ▸ happ), hc, if_pos htag]
  have happ (h : c.name = "App") : (if c.IsShown then some c.name else none) = none :=
    if_neg fun hc => hc.1 h
  unfold Template.ofComponent
  generalize (if c.IsShown then some c.name else none) = shown at *
  -- the templates with names of their own first, and then the two of any name
  split_ifs with hisApp hpage htag hbutton hcase hplayground
  · rw [component?_app, happ hisApp]
  · exact hfixed hpage (by simp)
  · exact hfixed htag (by simp)
  · exact hfixed hbutton (by simp)
  · exact hfixed hcase (by simp)
  · exact hfixed hplayground (by simp)
  · rw [hshown hisApp, hstyled]
  · rw [hshown hisApp, hbare]

/-- The templates with a content of their own refer to their component only. -/
private theorem Template.eq_of_mem_references_of_fixed {name found : String} {t : Template}
    (h : (name, t) ∈ [("PageLayout", pageLayout), ("Tag", tag), ("Button", button),
      ("CaseStudyDetail", caseStudyDetail), ("Playground", playground)])
    (hfound : found ∈ Body.references t.body) : found = name := by
  -- the fixed templates are looked through
  have hall : ∀ e ∈ [("PageLayout", pageLayout), ("Tag", tag), ("Button", button),
      ("CaseStudyDetail", caseStudyDetail), ("Playground", playground)],
      ∀ found ∈ Body.references e.2.body, found = e.1 := by
    simp only [Body.references_eq]
    decide +kernel
  exact hall (name, t) h found hfound

open Template in
/-- The scene of a component refers to no other component. -/
theorem eq_of_mem_references_ofComponent {c : Component} {name : String}
    (hname : IsImportName c.name.toList)
    (h : name ∈ Body.references (Template.ofComponent c).body) : name = c.name := by
  unfold Template.ofComponent at h
  -- the template of the component, one after the other
  split_ifs at h with hisApp hpage htag hbutton hcase hplayground
  · rw [references_app] at h
    simp at h
  · exact hpage ▸ eq_of_mem_references_of_fixed (by simp) h
  · exact htag ▸ eq_of_mem_references_of_fixed (by simp) h
  · exact hbutton ▸ eq_of_mem_references_of_fixed (by simp) h
  · exact hcase ▸ eq_of_mem_references_of_fixed (by simp) h
  · exact hplayground ▸ eq_of_mem_references_of_fixed (by simp) h
  · exact (isTag_styled c.name).eq_of_mem_references hname h
  · exact (isTag_bare c.name).eq_of_mem_references hname h

end SceneBoard
