import VibeScript.Number.Decimal
import VibeScript.Toml.Value

/-!
The TOML values that are written without quotes or brackets: booleans, integers in four bases,
floats, and dates and times. `Scalar.read?` takes the whole text of such a value.
-/

namespace VibeScript.Toml.Scalar

/-! ### Digits -/

/-- Whether every part but the last ends in a digit or is a single character, and every part but the
first starts with a digit. -/
def joins (isDigit : Char → Bool) : List Text → Bool
  | part :: next :: more =>
    (part.length == 1 || part.getLast?.any isDigit) && next.head?.any isDigit &&
      joins isDigit (next :: more)
  | _ => true

/-- Whether the underscores of a number stand between digits, or between its sign and a digit. -/
def isJoined (isDigit : Char → Bool) (t : Text) : Bool := joins isDigit (Text.parts '_' t)

/-- A text without its underscores. -/
def solid (t : Text) : Text := t.filter (· != '_')

/-- The decimal digits of a text that holds nothing else but underscores. -/
def digits? (t : Text) : Option Text :=
  if !(solid t).isEmpty && (solid t).all Char.isDigit then some (solid t) else none

/-- The value of a digit in any base up to sixteen. -/
def digitValue (c : Char) : Nat :=
  if c.isDigit then c.toNat - '0'.toNat else c.toLower.toNat - 'a'.toNat + 10

/-- Whether a character is a digit in a base up to sixteen. -/
def isDigitOf (base : Nat) (c : Char) : Bool :=
  (c.isDigit || c.isAlpha) && digitValue c < base

/-- The number that digits stand for in a base. -/
def natural (base : Nat) (digits : Text) : Nat :=
  digits.foldl (fun n c => base * n + digitValue c) 0

/-! ### Integers -/

/-- An integer, as long as it fits into 128 bits with or without a sign. -/
def ofInt (i : Int) : Value :=
  if -(Nat.pow 2 127 : Int) ≤ i && i < Nat.pow 2 128 then .integer i else .unfit

/-- A natural number in a base. Its digits may be missing, but then it is unfit. -/
def based? (base : Nat) (t : Text) : Option Value :=
  if t.isEmpty then some .unfit
  else if (solid t).all (isDigitOf base) && isJoined (isDigitOf 16) t then
    some (ofInt (natural base (solid t)))
  else none

/-- Whether a text goes on behind the first digits of an integer: with an underscore, and without
what a float or a blank would show. -/
def continues (t : Text) : Bool :=
  t.head? == some '_' && !t.any fun c => c == ' ' || c == '.' || c == 'e' || c == 'E'

/-- A decimal integer, without a zero in front of other digits. Behind the first underscore other
characters are let through, as long as hexadecimal digits stand around the underscores; the integer
is unfit then. -/
def decimal? (t : Text) : Option Value :=
  let digits := Decimal.unsigned t
  let rest := digits.dropWhile Char.isDigit
  if digits = ['0'] then some (.integer 0)
  else if digits.isEmpty || digits.head? == some '0' || !(rest.isEmpty || continues rest) ||
    !isJoined (isDigitOf 16) t then none
  else match digits? digits with
    | some digits =>
      let n : Int := natural 10 digits
      some (ofInt (if t.head? == some '-' then -n else n))
    | none => some .unfit

/-- An integer. -/
def integer? : Text → Option Value
  | '0' :: 'x' :: t => based? 16 t
  | '0' :: 'o' :: t => based? 8 t
  | '0' :: 'b' :: t => based? 2 t
  | t => decimal? t

/-! ### Floats -/

/-- The digits before the point of a float: without a zero in front of others. -/
def whole? (t : Text) : Option Text := do
  let digits ← digits? t
  if digits.length > 1 && t.head? == some '0' then none else return digits

/-- The power of ten behind a float, kept within the bounds past which it makes no difference. -/
def exponent? (digitCount : Nat) (t : Text) : Option Int := do
  let digits ← digits? (Decimal.unsigned t)
  let power : Int := Text.toNat digits
  return max (-(digitCount + 400 : Nat)) (min 400 (if t.head? == some '-' then -power else power))

/-- A float, unless it is too large for one. -/
def ofParts (negative : Bool) (digits : Text) (power : Int) : Value :=
  let m := (Decimal.mk (Text.toNat digits) power).magnitude
  if m.isFinite then .float (.signed negative m) else .unfit

/-- Whether a character stands for `e` before an exponent. -/
def isExponentMark (c : Char) : Bool := c == 'e' || c == 'E'

/-- A float that is written with digits. -/
def unsignedFloat? (negative : Bool) (t : Text) : Option Value := do
  let isPart (c : Char) := c.isDigit || c == '_'
  let integral ← whole? (t.takeWhile isPart)
  match t.dropWhile isPart with
  | '.' :: t =>
    let fraction ← digits? (t.takeWhile isPart)
    let digits := integral ++ fraction
    match t.dropWhile isPart with
    | [] => return ofParts negative digits (-fraction.length)
    | mark :: t =>
      if isExponentMark mark then
        return ofParts negative digits ((← exponent? digits.length t) - fraction.length)
      else none
  | mark :: t =>
    if isExponentMark mark then
      return ofParts negative integral (← exponent? integral.length t)
    else none
  | [] => none

/-- A float. -/
def float? (t : Text) : Option Value :=
  let negative := t.head? == some '-'
  let unsigned := Decimal.unsigned t
  if unsigned = "inf" then some (.float (.infinite negative))
  else if unsigned = "nan" then some (.float .undefined)
  else if isJoined Char.isDigit t then unsignedFloat? negative unsigned
  else none

/-! ### Dates and times -/

/-- The number of two decimal digits. -/
def two? (a b : Char) : Option Nat :=
  if a.isDigit && b.isDigit then some (Text.toNat [a, b]) else none

/-- The days of a month. -/
def daysOf (year month : Nat) : Nat :=
  if month == 2 then
    if year % 4 == 0 && (year % 100 != 0 || year % 400 == 0) then 29 else 28
  else if month == 4 || month == 6 || month == 9 || month == 11 then 30
  else 31

/-- What follows a date at the start of a text. -/
def afterDate? : Text → Option Text
  | y1 :: y2 :: y3 :: y4 :: '-' :: m1 :: m2 :: '-' :: d1 :: d2 :: t => do
    let century ← two? y1 y2
    let year ← two? y3 y4
    let month ← two? m1 m2
    let day ← two? d1 d2
    if 1 ≤ month && month ≤ 12 && 1 ≤ day && day ≤ daysOf (100 * century + year) month then return t
    else none
  | _ => none

/-- What follows hours and minutes at the start of a text. -/
def afterMinutes? : Text → Option Text
  | h1 :: h2 :: ':' :: m1 :: m2 :: t => do
    let hour ← two? h1 h2
    let minute ← two? m1 m2
    if hour ≤ 23 && minute ≤ 59 then return t else none
  | _ => none

/-- What follows a time at the start of a text; seconds and their fraction may be missing. -/
def afterTime? (t : Text) : Option Text := do
  match ← afterMinutes? t with
  | ':' :: s1 :: s2 :: t =>
    let second ← two? s1 s2
    if second > 60 then none
    else match t with
      | '.' :: t => if t.head?.any Char.isDigit then return t.dropWhile Char.isDigit else none
      | t => return t
  | ':' :: _ => none
  | t => return t

/-- Whether a text is an offset from universal time, or none at all. -/
def isOffset : Text → Bool
  | [] | ['Z'] | ['z'] => true
  | '+' :: t | '-' :: t => afterMinutes? t == some []
  | _ => false

/-- Whether a text is a date, a time, or a date and a time. -/
def isMoment (t : Text) : Bool :=
  match afterDate? t with
  | some [] => true
  | some (mark :: t) =>
    (mark == 'T' || mark == 't' || mark == ' ') && (afterTime? t).any isOffset
  | none => afterTime? t == some []

/-! ### All of them -/

/-- The value that a text without quotes and brackets stands for. -/
def read? (t : Text) : Option Value :=
  if t = "true" then some (.boolean true)
  else if t = "false" then some (.boolean false)
  else if isMoment t then some .moment
  else (integer? t).or (float? t)

end VibeScript.Toml.Scalar
