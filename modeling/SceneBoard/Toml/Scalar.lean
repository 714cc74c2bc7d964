import SceneBoard.Text.Decimal
import SceneBoard.Toml.Value

/-! # Numbers, booleans and dates in TOML

What an unquoted value means. Integers are decimal, with an optional sign and no leading zero, or
hexadecimal, octal or binary behind a mark; an underscore may stand between two digits. Dates and
times are checked against the calendar and the clock.
-/

namespace SceneBoard.Toml

/-- A character of an unquoted value. -/
def isScalarChar (c : Char) : Bool :=
  c.isAlphanum || c == '_' || c == '+' || c == '-' || c == '.' || c == ':'

/-- The digits of a number without the underscores, if there is at least one digit and every
underscore stands between two of them. -/
def digits? (isDigit : Char → Bool) : List Char → Option (List Char)
  | [] => none
  | c :: cs =>
    if isDigit c then
      match cs with
      | [] => some [c]
      | '_' :: more => (digits? isDigit more).map (c :: ·)
      | d :: more => (digits? isDigit (d :: more)).map (c :: ·)
    else none

/-- The value of digits in a base. -/
def digitsValue (base : Nat) (ds : List Char) : Nat :=
  ds.foldl (fun n c =>
    let d := if c.isDigit then c.toNat - '0'.toNat else c.toLower.toNat - 'a'.toNat + 10
    n * base + d) 0

/-- A hexadecimal digit. -/
def isHexDigit (c : Char) : Bool :=
  c.isDigit || ('a' ≤ c && c ≤ 'f') || ('A' ≤ c && c ≤ 'F')

/-- The value of the digits in a base, if they are digits of it. -/
def inBase? (base : Nat) (isDigit : Char → Bool) (cs : List Char) : Option Nat :=
  (digits? isDigit cs).map (digitsValue base)

/-- The digits of a decimal number, which does not begin with a zero unless it is zero. -/
def decimalDigits? (cs : List Char) : Option (List Char) :=
  (digits? Char.isDigit cs).filter fun ds => ds.head? != some '0' || ds.length == 1

/-- The sign of a number, as its factor, and the rest. -/
def signed : List Char → Int × List Char
  | '-' :: cs => (-1, cs)
  | '+' :: cs => (1, cs)
  | cs => (1, cs)

/-- The integer that an unquoted value is. -/
def integer? (cs : List Char) : Option Int :=
  match cs with
  | '0' :: 'x' :: ds => (inBase? 16 isHexDigit ds).map Int.ofNat
  | '0' :: 'o' :: ds => (inBase? 8 (fun c => '0' ≤ c && c ≤ '7') ds).map Int.ofNat
  | '0' :: 'b' :: ds => (inBase? 2 (fun c => c == '0' || c == '1') ds).map Int.ofNat
  | cs =>
    let (sign, ds) := signed cs
    (decimalDigits? ds).map fun ds => sign * (digitsValue 10 ds : Int)

/-! ## Floating-point numbers -/

/-- A digit or an underscore. -/
def isPlace (c : Char) : Bool :=
  c.isDigit || c == '_'

/-- The number that an exponent stands for, with its letter; the empty text is the exponent zero. -/
def exponent? : List Char → Option Int
  | [] => some 0
  | e :: cs =>
    let (sign, ds) := signed cs
    if e = 'e' ∨ e = 'E' then
      (digits? Char.isDigit ds).map fun ds => sign * (digitsValue 10 ds : Int)
    else none

/-- The least number that is too large for a floating-point number of 64 bits: it lies half a step
above the greatest one, and so is rounded to `2 ^ 1024`. -/
def floatLimit : Nat :=
  Nat.pow 2 1024 - Nat.pow 2 970

/-- The number `m * 10 ^ e` is too large for a floating-point number. -/
def overflows (m : Nat) (e : Int) : Bool :=
  let size := (Nat.toDigits 10 m).length + e
  -- the limit has 309 digits, so that powers of any size need not be computed
  if m = 0 ∨ size < 309 then false
  else if 309 < size then true
  else if 0 ≤ e then floatLimit ≤ m * Nat.pow 10 e.toNat
  else floatLimit * Nat.pow 10 (-e).toNat ≤ m

/-- Whether the floating-point number that an unquoted value is overflows, if it is one. -/
def float? (cs : List Char) : Option Bool :=
  let ds := (signed cs).2
  if ds = "inf".toList ∨ ds = "nan".toList then some false
  else
    let more := ds.dropWhile isPlace
    match decimalDigits? (ds.takeWhile isPlace), more with
    | some whole, '.' :: places => do
      let fraction ← digits? Char.isDigit (places.takeWhile isPlace)
      let e ← exponent? (places.dropWhile isPlace)
      return overflows (digitsValue 10 (whole ++ fraction)) (e - fraction.length)
    | some whole, _ :: _ => (exponent? more).map fun e => overflows (digitsValue 10 whole) e
    | _, _ => none

/-! ## Dates and times -/

/-- The number that exactly `n` digits write, and the rest. -/
def fixedNat? (n : Nat) (cs : List Char) : Option (Nat × List Char) :=
  let ds := cs.take n
  if ds.length = n then (Text.readNat? ds).map (·, cs.drop n) else none

/-- The number of days in a month. -/
def daysIn (year month : Nat) : Nat :=
  if month = 2 then
    if year % 4 = 0 ∧ (year % 100 ≠ 0 ∨ year % 400 = 0) then 29 else 28
  else if month = 4 ∨ month = 6 ∨ month = 9 ∨ month = 11 then 30
  else 31

/-- Cut off one given character. -/
def expect? (c : Char) : List Char → Option (List Char)
  | d :: cs => if d = c then some cs else none
  | [] => none

/-- The text behind a date. -/
def afterDate? (cs : List Char) : Option (List Char) := do
  let (year, cs) ← fixedNat? 4 cs
  let cs ← expect? '-' cs
  let (month, cs) ← fixedNat? 2 cs
  let cs ← expect? '-' cs
  let (day, cs) ← fixedNat? 2 cs
  if 1 ≤ month ∧ month ≤ 12 ∧ 1 ≤ day ∧ day ≤ daysIn year month then some cs else none

/-- The text behind hours and minutes. -/
def afterClock? (cs : List Char) : Option (List Char) := do
  let (hour, cs) ← fixedNat? 2 cs
  let cs ← expect? ':' cs
  let (minute, cs) ← fixedNat? 2 cs
  if hour ≤ 23 ∧ minute ≤ 59 then some cs else none

/-- The text behind a time of day: seconds may be missing, and may have a fraction. -/
def afterTime? (cs : List Char) : Option (List Char) := do
  let cs ← afterClock? cs
  match cs with
  | ':' :: more =>
    let (second, more) ← fixedNat? 2 more
    if 60 < second then none
    else match more with
      | '.' :: places =>
        if (places.takeWhile Char.isDigit).isEmpty then none
        else some (places.dropWhile Char.isDigit)
      | more => some more
  | cs => some cs

/-- The text is an offset from universal time, or empty. -/
def isOffset : List Char → Bool
  | [] => true
  | ['Z'] | ['z'] => true
  | '+' :: cs | '-' :: cs => afterClock? cs == some []
  | _ => false

/-- The unquoted value is a date, a time, or both. -/
def isDate (cs : List Char) : Bool :=
  afterTime? cs == some [] ||
    match afterDate? cs with
    | some [] => true
    | some (t :: time) => (t == 'T' || t == 't' || t == ' ') && (afterTime? time).any isOffset
    | none => false

/-- The value that an unquoted text is. -/
def scalar? (cs : List Char) : Option Value :=
  if cs == "true".toList then some (.boolean true)
  else if cs == "false".toList then some (.boolean false)
  else match integer? cs, float? cs with
    | some n, _ => some (.integer n)
    | none, some overflows => some (.float overflows)
    | none, none => if isDate cs then some .date else none

end SceneBoard.Toml
