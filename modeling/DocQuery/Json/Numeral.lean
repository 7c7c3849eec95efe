import DocQuery.Binary64
import DocQuery.Json.Text

/- The parts of a numeral, how they are scanned, and the number they stand for. Integers within 64
   bits are exact. Every other numeral becomes a double by rounding its leading digits and then
   scaling by a power of ten, with a rounding of its own at each step. -/

namespace DocQuery.Json

/-- A numeral, in parts. Digits are given by their values. -/
structure Numeral where
  negative : Bool
  whole : List Nat
  /-- the digits behind the point, if there is a point -/
  fraction : Option (List Nat)
  /-- the exponent's sign, `true` for a minus, and its digits, if there is an exponent -/
  exponent : Option (Bool × List Nat)
  deriving DecidableEq, Repr

/-- The number of a numeral. -/
inductive Number where
  /-- an integer below 2^64 -/
  | natural (n : Nat)
  /-- an integer from -2^63 to -1 -/
  | negative (n : Int)
  | float (x : Binary64)
  deriving DecidableEq, Repr

/-! ## Scanning -/

def isDigit (c : Char) : Bool := decide ('0' ≤ c ∧ c ≤ '9')

def digitValue (c : Char) : Nat := c.toNat - '0'.toNat

/-- The digits that a text begins with, and the text after them. -/
def scanDigits (s : List Char) : List Nat × List Char :=
  ((s.takeWhile isDigit).map digitValue, s.dropWhile isDigit)

/-- The digits that a text begins with; there has to be one. -/
def scanDigits1 (s : List Char) : Except Fault (List Nat × List Char) :=
  match scanDigits s with
  | ([], rest) => .error (.at rest)
  | found => .ok found

/-- The digits before the point: zero stands alone. -/
def scanWhole (s : List Char) : Except Fault (List Nat × List Char) :=
  match scanDigits1 s with
  | .ok (0 :: _ :: _, _) => .error .malformed
  | found => found

/-- A point and the digits behind it, if there is a point. -/
def scanFraction : List Char → Except Fault (Option (List Nat) × List Char)
  | '.' :: s =>
    match scanDigits1 s with
    | .ok (digits, rest) => .ok (some digits, rest)
    | .error fault => .error fault
  | s => .ok (none, s)

/-- The sign of an exponent, if it has one. -/
def scanSign : List Char → Bool × List Char
  | '-' :: s => (true, s)
  | '+' :: s => (false, s)
  | s => (false, s)

/-- An exponent, if there is one. -/
def scanExponent : List Char → Except Fault (Option (Bool × List Nat) × List Char)
  | [] => .ok (none, [])
  | c :: s =>
    if c = 'e' ∨ c = 'E' then
      match scanDigits1 (scanSign s).2 with
      | .ok (digits, rest) => .ok (some ((scanSign s).1, digits), rest)
      | .error fault => .error fault
    else .ok (none, c :: s)

/-- A numeral without its minus sign. -/
def scanUnsigned (negative : Bool) (s : List Char) : Except Fault (Numeral × List Char) := do
  let (whole, s) ← scanWhole s
  let (fraction, s) ← scanFraction s
  let (exponent, s) ← scanExponent s
  return (⟨negative, whole, fraction, exponent⟩, s)

/-- The numeral that a text begins with, and the text after it. -/
def scanNumeral : List Char → Except Fault (Numeral × List Char)
  | '-' :: s => scanUnsigned true s
  | s => scanUnsigned false s

/-! ## Values -/

/-- The number that digits spell, read from the left after `start`. -/
def numberOf (start : Nat) (digits : List Nat) : Nat :=
  digits.foldl (fun n digit => 10 * n + digit) start

/-- The number that digits spell as far as it stays below 2^64, and the digits left over. -/
def leading (n : Nat) : List Nat → Nat × List Nat
  | [] => (n, [])
  | digit :: rest =>
    if 10 * n + digit < UInt64.size then leading (10 * n + digit) rest else (n, digit :: rest)

namespace Numeral

/-- The digits that count, as one natural, and the power of ten it is to be scaled by. On each side
    of the point digits are taken until one does not fit, and the others are dropped; those dropped
    before the point still count as places. The digits behind the point get a new try even when
    some before it were dropped: the place of a digit that did not fit goes to them. -/
def scaled (n : Numeral) : Nat × Int :=
  let (whole, dropped) := leading 0 n.whole
  let fraction := n.fraction.getD []
  let (significand, unused) := leading whole fraction
  let shift : Int := match n.exponent with
    | none => 0
    | some (true, digits) => -numberOf 0 digits
    | some (false, digits) => numberOf 0 digits
  (significand, dropped.length - (fraction.length - unused.length) + shift)

/-- Divides by a power of ten, at most 308 places at a time, rounding each time; zero stays. -/
def scaleDown (x : Binary64) (places : Nat) : Binary64 :=
  if places ≤ 308 then x.div (.ofNat (Nat.pow 10 places))
  else if x.isZero then x
  else scaleDown (x.div (.ofNat (Nat.pow 10 308))) (places - 308)
termination_by places

/-- Multiplies by a power of ten; there is no result if it is out of range. -/
def scaleUp? (x : Binary64) (places : Nat) : Option Binary64 :=
  if places ≤ 308 then
    let y := x.mul (.ofNat (Nat.pow 10 places))
    if y.isInfinite then none else some y
  else if x.isZero then some x
  else none

/-- The double of a numeral, unless it is out of range. -/
def float? (n : Numeral) : Option Binary64 :=
  let (significand, places) := n.scaled
  let x := Binary64.ofNat significand
  let magnitude :=
    if 0 ≤ places then scaleUp? x places.toNat else some (scaleDown x (-places).toNat)
  magnitude.map fun y => if n.negative then y.neg else y

/-- The numeral has neither point nor exponent. -/
def isInteger (n : Numeral) : Bool := n.fraction.isNone && n.exponent.isNone

/-- The number of a numeral, unless it is out of range. Minus zero is a double. -/
def number? (n : Numeral) : Option Number :=
  let whole := numberOf 0 n.whole
  if n.isInteger && !n.negative && decide (whole < UInt64.size) then some (.natural whole)
  else if n.isInteger && n.negative && decide (0 < whole ∧ whole ≤ 9223372036854775808) then
    some (.negative (-whole))
  else n.float?.map .float

end Numeral

end DocQuery.Json
