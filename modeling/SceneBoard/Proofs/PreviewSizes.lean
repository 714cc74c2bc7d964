import SceneBoard.Source.SizeInference

/-!
# What decides a preview size

A preview size can always be laid out, and the rule that gave it tells what the source declares: an
annotation, both sides, one side or none (`IsJustified`). For a side that is missing nothing needs to be
known of the quotient or product from which it comes, as that is tested before it is used
(`RatioArithmetic`).

## Key results

- `Declared.ofSource_eq`: the declared sides are the first ones of the fragments
- `inferWith_exact`: sizes are worked out with the exact quotients and products
- `infer_isJustified`: every size can be laid out and is justified
-/

namespace SceneBoard

namespace SizeInference

/-! ## What a source declares -/

/-- The first side that the fragments of a source declare for a property. -/
def side? (name : String) (source : List Char) : Option Int :=
  (fragments source).findSome? (declared? name)

/-- The width that a source declares; a greatest width stands in for one. -/
def width? (source : List Char) : Option Int :=
  side? "width" source <|> side? "maxWidth" source

/-- The height that a source declares. -/
def height? (source : List Char) : Option Int :=
  side? "height" source

/-- The first annotation in a source gives a size that can be laid out. -/
def IsAnnotated (source : List Char) (size : Size) : Prop :=
  ∃ m width height, preferredSize.find? source = some m ∧ m.group? 1 = some width ∧
    m.group? 2 = some height ∧ Text.readPixels? width = some size.width ∧
    Text.readPixels? height = some size.height ∧ size.InRange

section

variable {source fragment : List Char} {size : Size} {name : String} {n : Int}

/-- A value found first stays, else the next part is asked. -/
private theorem orElse_findSome? (o : Option Int) (g : List Char → Option Int) (f : List Char)
    (fs : List (List Char)) : ((o <|> g f) <|> fs.findSome? g) = (o <|> (f :: fs).findSome? g) := by
  rw [List.findSome?_cons]
  cases o with
  | some n => rfl
  | none => cases g f <;> rfl

/-- Absorbing parts keeps the first value of each name. -/
private theorem foldl_absorb (fs : List (List Char)) (d : Declared) : fs.foldl Declared.absorb d =
    ⟨d.width <|> fs.findSome? (declared? "width"), d.height <|> fs.findSome? (declared? "height"),
      d.maxWidth <|> fs.findSome? (declared? "maxWidth")⟩ := by
  induction fs generalizing d with
  | nil => simp
  | cons f fs ih =>
    rw [List.foldl_cons, ih, ← orElse_findSome?, ← orElse_findSome?, ← orElse_findSome?]
    rfl

/-- Fragments fill in what those before them leave open, so the first one that declares a side
counts. -/
theorem Declared.ofSource_eq (source : List Char) : Declared.ofSource source =
    ⟨side? "width" source, side? "height" source, side? "maxWidth" source⟩ := by
  rw [Declared.ofSource, foldl_absorb]
  rfl

/-- What counts as declared can be laid out. -/
theorem isSide_of_side? (h : side? name source = some n) : Size.IsSide n := by
  obtain ⟨_, fragment, _, -, hdeclared, -⟩ := List.findSome?_eq_some_iff.1 h
  rw [declared?] at hdeclared
  obtain ⟨value, -, hvalue⟩ := Option.bind_eq_some_iff.1 hdeclared
  simpa using (Option.filter_eq_some_iff.1 hvalue).2

/-- A width that is declared is a side. -/
theorem isSide_of_width? (h : width? source = some n) : Size.IsSide n := by
  rw [width?] at h
  cases hwidth : side? "width" source with
  | some w => exact isSide_of_side? (hwidth.trans (by simpa [hwidth] using h))
  | none =>
    have hmax : side? "maxWidth" source = some n := by simpa [hwidth] using h
    exact isSide_of_side? hmax

theorem IsAnnotated.inRange (h : IsAnnotated source size) : size.InRange := by
  obtain ⟨_, _, _, -, -, -, -, -, hrange⟩ := h
  exact hrange

/-- The annotated size is that of the first annotation. -/
theorem annotated?_eq_some_iff : annotated? source = some size ↔ IsAnnotated source size := by
  rw [annotated?, IsAnnotated]
  simp only [bind, Option.bind_eq_some_iff, Option.ite_none_right_eq_some, Option.some_inj]
  constructor
  · rintro ⟨m, hm, width, hwidth, w, hw, height, hheight, h, hh, hrange, rfl⟩
    exact ⟨m, width, height, hm, hwidth, hheight, hw, hh, hrange⟩
  · rintro ⟨m, width, height, hm, hwidth, hheight, hw, hh, hrange⟩
    exact ⟨m, hm, width, hwidth, size.width, hw, height, hheight, size.height, hh, hrange, rfl⟩

end

/-! ## Derived sides -/

/-- What is taken for the quotient of a width and a ratio, and for the product of a height and a ratio,
rounded to whole numbers. There may be no such number. -/
structure RatioArithmetic where
  quotient (width : Int) (ratio : Ratio) : Option Int
  product (height : Int) (ratio : Ratio) : Option Int

/-- The exact numbers, of which halves are rounded upwards. -/
def RatioArithmetic.exact : RatioArithmetic where
  quotient width ratio := some (roundDiv (width.toNat * 1000) ratio.thousandths)
  product height ratio := some (roundDiv (height.toNat * ratio.thousandths) 1000)

/-- The size of the component in a file, worked out with some arithmetic. A derived side is tested
before it is used. -/
def inferWith (arithmetic : RatioArithmetic) (source fileName : String) : SizeInference :=
  let kind := Kind.classify source fileName
  match annotated? source.toList, width? source.toList, height? source.toList with
  | some size, _, _ => ⟨size, .annotated⟩
  | none, some width, some height => ⟨⟨width, height⟩, .styles⟩
  | none, some width, none =>
    match (arithmetic.quotient width kind.ratio).filter fun n => Size.IsSide n with
    | some height => ⟨⟨width, height⟩, .ratioOf kind⟩
    | none => ⟨Size.fallback, .fallback⟩
  | none, none, some height =>
    match (arithmetic.product height kind.ratio).filter fun n => Size.IsSide n with
    | some width => ⟨⟨width, height⟩, .ratioOf kind⟩
    | none => ⟨Size.fallback, .fallback⟩
  | none, none, none => ⟨kind.defaultSize, .defaultOf kind⟩

/-- Sizes are worked out with the exact numbers. -/
theorem inferWith_exact (source fileName : String) :
    inferWith .exact source fileName = infer source fileName := by
  have hwidth : (Declared.ofSource source.toList).width? = width? source.toList := by
    rw [Declared.ofSource_eq]
    rfl
  have hheight : (Declared.ofSource source.toList).height = height? source.toList := by
    rw [Declared.ofSource_eq]
    rfl
  -- only a side that is derived is worked out in another way
  simp only [inferWith, infer, resolve, hwidth, hheight]
  cases annotated? source.toList with
  | some size => rfl
  | none =>
    cases width? source.toList with
    -- without an annotation the two sides that are declared decide
    | none =>
      cases height? source.toList with
      | none => rfl
      | some height =>
        rw [RatioArithmetic.exact]
        by_cases hside : Size.IsSide
            (roundDiv (height.toNat * (Kind.classify source fileName).ratio.thousandths) 1000)
        · simp [widthFor, derived, hside, Option.filter, pure, bind, Except.pure, Except.bind]
        · simp [widthFor, derived, hside, Option.filter, bind, Except.bind]
    | some width =>
      cases height? source.toList with
      | none =>
        rw [RatioArithmetic.exact]
        by_cases hside : Size.IsSide
            (roundDiv (width.toNat * 1000) (Kind.classify source fileName).ratio.thousandths)
        · simp [heightFor, derived, hside, Option.filter, pure, bind, Except.pure, Except.bind]
        · simp [heightFor, derived, hside, Option.filter, bind, Except.bind]
      | some height => rfl

/-! ## Justified sizes -/

/-- A size can be laid out, and the rule that gave it tells what the source declares. -/
structure IsJustified (arithmetic : RatioArithmetic) (source fileName : String)
    (i : SizeInference) : Prop where
  inRange : i.size.InRange
  annotated : i.source = .annotated → IsAnnotated source.toList i.size
  /-- No other rule counts beside an annotation. -/
  notAnnotated : i.source ≠ .annotated → ∀ size, ¬ IsAnnotated source.toList size
  styles : i.source = .styles →
    width? source.toList = some i.size.width ∧ height? source.toList = some i.size.height
  /-- One side is declared and stays as it is, and the other one comes from it. -/
  ratioOf : ∀ kind, i.source = .ratioOf kind → kind = Kind.classify source fileName ∧
    ((width? source.toList = some i.size.width ∧ height? source.toList = none ∧
        arithmetic.quotient i.size.width kind.ratio = some i.size.height) ∨
      (width? source.toList = none ∧ height? source.toList = some i.size.height ∧
        arithmetic.product i.size.height kind.ratio = some i.size.width))
  defaultOf : ∀ kind, i.source = .defaultOf kind → kind = Kind.classify source fileName ∧
    i.size = kind.defaultSize ∧ width? source.toList = none ∧ height? source.toList = none
  /-- One side is declared, and what comes from it cannot be laid out. -/
  fallback : i.source = .fallback → i.size = ⟨700, 700⟩ ∧
    ((∃ width, width? source.toList = some width ∧ height? source.toList = none ∧
        ∀ n, arithmetic.quotient width (Kind.classify source fileName).ratio = some n →
          ¬ Size.IsSide n) ∨
      ∃ height, width? source.toList = none ∧ height? source.toList = some height ∧
        ∀ n, arithmetic.product height (Kind.classify source fileName).ratio = some n →
          ¬ Size.IsSide n)

private theorem not_isSide_of_filter {o : Option Int} (h : o.filter (fun n => Size.IsSide n) = none) :
    ∀ n, o = some n → ¬ Size.IsSide n := by
  simpa [Option.filter_eq_none_iff] using h

private theorem isSide_of_filter {o : Option Int} {n : Int}
    (h : o.filter (fun n => Size.IsSide n) = some n) : o = some n ∧ Size.IsSide n := by
  simpa [Option.filter_eq_some_iff] using h

private theorem fallback_inRange : Size.fallback.InRange := by decide

/-- One case for each rule: what the other rules ask for does not arise in it. -/
theorem inferWith_isJustified (arithmetic : RatioArithmetic) (source fileName : String) :
    IsJustified arithmetic source fileName (inferWith arithmetic source fileName) := by
  cases hsize : annotated? source.toList with
  | some size =>
    -- the annotation wins
    have hannotated := annotated?_eq_some_iff.1 hsize
    simp only [inferWith, hsize]
    exact ⟨hannotated.inRange, fun _ => hannotated, nofun, nofun, nofun, nofun, nofun⟩
  | none =>
    have hnone : ∀ size, ¬ IsAnnotated source.toList size := fun size h => by
      simp [annotated?_eq_some_iff.2 h] at hsize
    cases hwidth : width? source.toList with
    | some width =>
      have hw := isSide_of_width? hwidth
      cases hheight : height? source.toList with
      | some height =>
        -- both sides are declared
        simp only [inferWith, hsize, hwidth, hheight]
        exact ⟨⟨hw, isSide_of_side? hheight⟩, nofun, fun _ => hnone, fun _ => ⟨hwidth, hheight⟩,
          nofun, nofun, nofun⟩
      | none =>
        cases hderived : (arithmetic.quotient width (Kind.classify source fileName).ratio).filter
            fun n => Size.IsSide n with
        | some height =>
          -- the height is derived from the width
          obtain ⟨hquotient, hh⟩ := isSide_of_filter hderived
          simp only [inferWith, hsize, hwidth, hheight, hderived]
          refine ⟨⟨hw, hh⟩, nofun, fun _ => hnone, nofun, fun kind hkind => ?_, nofun, nofun⟩
          obtain rfl := SizeSource.ratioOf.inj hkind
          exact ⟨rfl, .inl ⟨hwidth, hheight, hquotient⟩⟩
        | none =>
          -- it would be no side
          simp only [inferWith, hsize, hwidth, hheight, hderived]
          exact ⟨fallback_inRange, nofun, fun _ => hnone, nofun, nofun, nofun,
            fun _ => ⟨rfl, .inl ⟨width, hwidth, hheight, not_isSide_of_filter hderived⟩⟩⟩
    | none =>
      cases hheight : height? source.toList with
      | some height =>
        have hh := isSide_of_side? hheight
        cases hderived : (arithmetic.product height (Kind.classify source fileName).ratio).filter
            fun n => Size.IsSide n with
        | some width =>
          -- the width is derived from the height
          obtain ⟨hproduct, hw⟩ := isSide_of_filter hderived
          simp only [inferWith, hsize, hwidth, hheight, hderived]
          refine ⟨⟨hw, hh⟩, nofun, fun _ => hnone, nofun, fun kind hkind => ?_, nofun, nofun⟩
          obtain rfl := SizeSource.ratioOf.inj hkind
          exact ⟨rfl, .inr ⟨hwidth, hheight, hproduct⟩⟩
        | none =>
          -- it would be no side
          simp only [inferWith, hsize, hwidth, hheight, hderived]
          exact ⟨fallback_inRange, nofun, fun _ => hnone, nofun, nofun, nofun,
            fun _ => ⟨rfl, .inr ⟨height, hwidth, hheight, not_isSide_of_filter hderived⟩⟩⟩
      | none =>
        -- nothing is declared, so the size is the one of the kind
        simp only [inferWith, hsize, hwidth, hheight]
        refine ⟨Kind.defaultSize_inRange _, nofun, fun _ => hnone, nofun, nofun,
          fun kind hkind => ?_, nofun⟩
        obtain rfl := SizeSource.defaultOf.inj hkind
        exact ⟨rfl, rfl, hwidth, hheight⟩

/-- The file name matters for the kind only, and that for sides that are not declared. -/
theorem inferWith_congr {source : String} (arithmetic : RatioArithmetic)
    (hwidth : (width? source.toList).isSome) (hheight : (height? source.toList).isSome)
    (fileName fileName' : String) :
    inferWith arithmetic source fileName' = inferWith arithmetic source fileName := by
  obtain ⟨width, hwidth⟩ := Option.isSome_iff_exists.1 hwidth
  obtain ⟨height, hheight⟩ := Option.isSome_iff_exists.1 hheight
  simp only [inferWith, hwidth, hheight]
  cases annotated? source.toList <;> rfl

/-- The size of every component can be laid out and is justified by what the source declares, and it
does not depend on the name of the file if both sides are declared. This needs nothing of the quotients
and products by ratios: it holds whatever is taken for them. -/
theorem infer_isJustified (source fileName : String) :
    IsJustified .exact source fileName (infer source fileName) ∧
    (∀ arithmetic, IsJustified arithmetic source fileName
      (inferWith arithmetic source fileName)) ∧
    ((width? source.toList).isSome → (height? source.toList).isSome → ∀ fileName',
      infer source fileName' = infer source fileName ∧ ∀ arithmetic,
        inferWith arithmetic source fileName' = inferWith arithmetic source fileName) := by
  refine ⟨?_, fun arithmetic => inferWith_isJustified arithmetic source fileName, ?_⟩
  · rw [← inferWith_exact]
    exact inferWith_isJustified .exact source fileName
  · intro hwidth hheight fileName'
    refine ⟨?_, fun arithmetic => inferWith_congr arithmetic hwidth hheight fileName fileName'⟩
    rw [← inferWith_exact, ← inferWith_exact]
    exact inferWith_congr .exact hwidth hheight fileName fileName'

/-- Both sides of a box are declared, so it does not become a button in a file of that name; a button
that is too high for the ratio of its kind gets the fallback size. -/
theorem infer_isJustified_box :
    let box := "<div style=\x7b\x7bwidth: 300, height: 100\x7d\x7d>"
    let tower := "<a style=\x7b\x7bheight: 90000\x7d\x7d>"
    infer box "Button.jsx" = infer box "Box.jsx" ∧ (infer box "Box.jsx").source = .styles ∧
      width? box.toList = some (infer box "Box.jsx").size.width ∧
      (infer tower "Button.jsx").size = ⟨700, 700⟩ := by
  intro box tower
  have hsource : (infer box "Box.jsx").source = .styles := by decide +kernel
  have htower : (infer tower "Button.jsx").source = .fallback := by decide +kernel
  obtain ⟨hbox, -, hfile⟩ := infer_isJustified box "Box.jsx"
  obtain ⟨hwidth, hheight⟩ := hbox.styles hsource
  refine ⟨(hfile ?_ ?_ "Button.jsx").1, hsource, hwidth, ?_⟩
  · rw [hwidth, Option.isSome_some]
  · rw [hheight, Option.isSome_some]
  · exact ((infer_isJustified tower "Button.jsx").1.fallback htower).1

end SizeInference

end SceneBoard
