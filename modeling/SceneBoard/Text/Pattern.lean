import SceneBoard.Text.Blank
import SceneBoard.Text.Word

/-! # Text patterns

A `Pattern` describes pieces of text: pieces of a known length, sequences, alternatives, runs of
characters, and conditions on the place between two characters; and it can remember places. Where a
pattern can match in several ways, the ways are ordered: the left alternative before the right one,
the longer run before the shorter (or the shorter first, where the pattern says so), and the choices
made earlier in the text weigh more. Of the matches that begin at one place only the first counts.

Going through the ways one by one can take very long, since most of them share what follows.
`Pattern.table` therefore works out the first way for all places of a text at once: given what
follows the pattern from every place, it says what the pattern leads to from every place, and goes
through the places from the end of the text. `Pattern.ways` (in `SceneBoard.Text.Pattern.Ways`)
lists the ways themselves.

`Pattern.find?` takes the leftmost place where there is a match; `Pattern.findAll` goes on behind
each match, so its matches do not overlap.
-/

namespace SceneBoard.Text

/-! ## Places -/

/-- A place in a text: the number of characters before it, the last of them, and the text that
follows. -/
structure Cursor where
  index : Nat
  before : Option Char
  rest : List Char

/-- The places of a text from a place on. -/
def placesFrom (index : Nat) (before : Option Char) : List Char → List Cursor
  | [] => [⟨index, before, []⟩]
  | c :: cs => ⟨index, before, c :: cs⟩ :: placesFrom (index + 1) (some c) cs

/-- The places of a text, from its beginning to its end. -/
def places (cs : List Char) : List Cursor :=
  placesFrom 0 none cs

/-- The text from a place up to a later one. -/
def Cursor.upTo (start stop : Cursor) : List Char :=
  start.rest.take (stop.index - start.index)

/-- Conditions on a place. -/
inductive Anchor where
  /-- A word character on exactly one side. -/
  | wordBoundary
  /-- The beginning of the text or of a line. -/
  | lineStart
  /-- The end of the text or of a line. -/
  | lineEnd

/-- The condition holds at the place. -/
def Anchor.holds : Anchor → Cursor → Bool
  | .wordBoundary, c => c.before.any isWord != c.rest.head?.any isWord
  | .lineStart, c => c.before.all (· == '\n')
  | .lineEnd, c => c.rest.head?.all (· == '\n')

/-! ## Patterns -/

/-- A description of pieces of text. -/
inductive Pattern where
  /-- A piece of the length that the text which follows decides, if there is one. -/
  | piece (length? : List Char → Option Nat)
  /-- A piece and then another. -/
  | seq (a b : Pattern)
  /-- A piece of the left kind or else one of the right kind. -/
  | alt (a b : Pattern)
  /-- Characters of a class, any number of them: as many as can be, or as few. -/
  | run (p : Char → Bool) (greedy : Bool)
  /-- Nothing; the place is remembered under a number. -/
  | mark (n : Nat)
  /-- Nothing, at a place where a condition holds. -/
  | anchor (t : Anchor)

namespace Pattern

/-- The pieces of a list, one after the other. -/
def all : List Pattern → Pattern
  | [] => .piece fun _ => some 0
  | [a] => a
  | a :: as => .seq a (all as)

/-- The pieces of a list, the earlier ones first. -/
def oneOf : List Pattern → Pattern
  | [] => .piece fun _ => none
  | [a] => a
  | a :: as => .alt a (oneOf as)

/-- One character of a class. -/
def char (p : Char → Bool) : Pattern :=
  .piece fun cs => if cs.head?.any p then some 1 else none

/-- A fixed text. -/
def text (s : String) : Pattern :=
  let t := s.toList
  .piece fun cs => if t.isPrefixOf cs then some t.length else none

/-- As many characters of a class as can be. -/
def many (p : Char → Bool) : Pattern :=
  .run p true

/-- As many characters of a class as can be, at least one. -/
def many1 (p : Char → Bool) : Pattern :=
  .seq (char p) (.run p true)

/-- As few characters of a class as can be. -/
def few (p : Char → Bool) : Pattern :=
  .run p false

/-- A piece or, failing that, nothing. -/
def maybe (a : Pattern) : Pattern :=
  .alt a (all [])

/-- A piece whose two ends are remembered under a number. -/
def group (n : Nat) (a : Pattern) : Pattern :=
  all [.mark n, a, .mark n]

/-- As much white space as can be. -/
def blanks : Pattern :=
  many isBlank

/-- As much white space as can be, at least one character. -/
def blanks1 : Pattern :=
  many1 isBlank

/-- An edge of a word. -/
def wordEdge : Pattern :=
  .anchor .wordBoundary

end Pattern

/-! ## Matching -/

/-- A way through a text: where it ends, and the places remembered on it, in their order. -/
structure Way where
  stop : Cursor
  marks : List (Nat × Cursor)

/-- The way with a place remembered before all others. -/
def Way.remember (n : Nat) (c : Cursor) (w : Way) : Way :=
  { w with marks := (n, c) :: w.marks }

/-- What a piece leads to from every place, if `ks` says what follows it from every place. -/
def afterPieces (length? : List Char → Option Nat) :
    List Cursor → List (Option Way) → List (Option Way)
  | c :: cs, ks@(_ :: more) =>
    ((length? c.rest).bind fun n => ks[n]?.join) :: afterPieces length? cs more
  | _, _ => []

/-- What a run of characters leads to from every place, if `ks` says what follows it from every
place. A run that is longer than nothing goes on as the run at the next place. -/
def afterRuns (p : Char → Bool) (greedy : Bool) :
    List Cursor → List (Option Way) → List (Option Way)
  | c :: cs, k :: ks =>
    let more := afterRuns p greedy cs ks
    let longer := if c.rest.head?.any p then more.head?.join else none
    (if greedy then longer.or k else k.or longer) :: more
  | _, _ => []

/-- What a pattern leads to from every place of `cs`, if `ks` says what follows it from every
place. -/
def Pattern.table : Pattern → List Cursor → List (Option Way) → List (Option Way)
  | .piece length?, cs, ks => afterPieces length? cs ks
  | .seq a b, cs, ks => a.table cs (b.table cs ks)
  | .alt a b, cs, ks => List.zipWith Option.or (a.table cs ks) (b.table cs ks)
  | .run p greedy, cs, ks => afterRuns p greedy cs ks
  | .mark n, cs, ks => List.zipWith (fun c k => k.map (·.remember n c)) cs ks
  | .anchor t, cs, ks => List.zipWith (fun c k => if t.holds c then k else none) cs ks

/-! ## Searching -/

/-- A match: where it begins, where it ends, and the places remembered. -/
structure Match where
  start : Cursor
  stop : Cursor
  marks : List (Nat × Cursor)

/-- The piece of text that matched. -/
def Match.text (m : Match) : List Char :=
  m.start.upTo m.stop

/-- The piece of text that a group holds, if the match went through it. -/
def Match.group? (m : Match) (n : Nat) : Option (List Char) :=
  match m.marks.filter (·.1 == n) with
  | start :: stop :: _ => some (start.2.upTo stop.2)
  | _ => none

/-- The matches that do not begin before an index or inside a match that is kept. -/
def disjointFrom (index : Nat) : List Match → List Match
  | [] => []
  | m :: ms =>
    if index ≤ m.start.index then m :: disjointFrom m.stop.index ms else disjointFrom index ms

namespace Pattern

/-- The first match from each place of a text from which there is one. -/
def starts (a : Pattern) (cs : List Char) : List Match :=
  let here := places cs
  -- behind the pattern the way ends wherever it is
  let ways := a.table here (here.map fun c => some ⟨c, []⟩)
  (here.zip ways).filterMap fun r => r.2.map fun w => ⟨r.1, w.stop, w.marks⟩

/-- The leftmost match in a text. -/
def find? (a : Pattern) (cs : List Char) : Option Match :=
  (a.starts cs).head?

/-- The pattern matches somewhere in the text. -/
def occursIn (a : Pattern) (cs : List Char) : Bool :=
  (a.find? cs).isSome

/-- The matches in a text that do not overlap, from left to right. -/
def findAll (a : Pattern) (cs : List Char) : List Match :=
  disjointFrom 0 (a.starts cs)

/-- What the group holds in the first match of a text. -/
def capture? (a : Pattern) (n : Nat) (cs : List Char) : Option (List Char) :=
  (a.find? cs).bind (·.group? n)

/-- What the group holds in each match of a text that goes through it. -/
def captures (a : Pattern) (n : Nat) (cs : List Char) : List (List Char) :=
  (a.findAll cs).filterMap (·.group? n)

end Pattern

end SceneBoard.Text
