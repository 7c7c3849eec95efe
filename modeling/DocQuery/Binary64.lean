/- A double-precision number is kept as its 64 bits, so that every NaN and both zeros stay apart.
   The module reads the fields of a word, compares numbers, and rounds quotients of naturals to
   the nearest number. Nothing here goes through machine floating point, so all of it can be
   reasoned about on naturals. -/

namespace DocQuery

/-- A number in the 64-bit binary interchange format: one bit of sign, eleven of exponent,
    fifty-two of fraction. Two of them are equal as values of this type when all bits agree. -/
structure Binary64 where
  bits : UInt64
  deriving DecidableEq, Repr, Inhabited

namespace Binary64

/-! ## Fields -/

/-- The number of values of the fraction, `2^52`. It is also the bit in front of the fraction that
    the significands of normal numbers have and words leave out. -/
def hiddenBit : Nat := 0x10000000000000

/-- The value of the sign in a word, `2^63`. -/
def signBit : Nat := 0x8000000000000000

def isNegative (x : Binary64) : Bool := decide (signBit ≤ x.bits.toNat)

def exponentField (x : Binary64) : Nat := x.bits.toNat / hiddenBit % 0x800

def fractionField (x : Binary64) : Nat := x.bits.toNat % hiddenBit

def isNaN (x : Binary64) : Bool := x.exponentField == 2047 && x.fractionField != 0

def isInfinite (x : Binary64) : Bool := x.exponentField == 2047 && x.fractionField == 0

def isZero (x : Binary64) : Bool := x.exponentField == 0 && x.fractionField == 0

/-- The factor `m` of a finite number `±m · 2^q`. -/
def significand (x : Binary64) : Nat :=
  if x.exponentField = 0 then x.fractionField else hiddenBit + x.fractionField

/-- The power `q` of a finite number `±m · 2^q`. -/
def exponent (x : Binary64) : Int :=
  if x.exponentField = 0 then -1074 else (x.exponentField : Int) - 1075

/-- Comparison as numbers: a NaN differs from everything, itself included, and the two zeros
    are one number. -/
def sameNumber (x y : Binary64) : Bool :=
  !x.isNaN && !y.isNaN && (x == y || (x.isZero && y.isZero))

/-! ## Ratios -/

/-- A non-negative quotient of naturals; the denominator is meant to be positive. -/
structure Ratio where
  num : Nat
  den : Nat

/-- The magnitude of a finite number, exactly. -/
def magnitude (x : Binary64) : Ratio :=
  ⟨x.significand * Nat.pow 2 x.exponent.toNat, Nat.pow 2 (-x.exponent).toNat⟩

/-- The quotient rounded to a natural, a half going to the even neighbour. -/
def roundToEven (num den : Nat) : Nat :=
  let whole := num / den
  let twice := 2 * (num % den)
  if twice < den then whole
  else if den < twice then whole + 1
  else whole + whole % 2

/-- The exponent of the leading binary digit of a positive quotient. -/
def leadingBit (r : Ratio) : Int :=
  let guess : Int := (r.num.log2 : Int) - r.den.log2
  if r.den * Nat.pow 2 guess.toNat ≤ r.num * Nat.pow 2 (-guess).toNat then guess else guess - 1

/-- The word of the largest finite magnitude, plus one: positive infinity. -/
def infinityWord : Nat := 2047 * hiddenBit

/-- The nearest number to a quotient, ties to even; a quotient beyond the largest number gives
    infinity. The word of `m · 2^q` is `(q + 1074) · 2^52 + m`, with the carry of a significand
    that was rounded up to the next power of two running into the exponent field. -/
def ofRatio (negative : Bool) (r : Ratio) : Binary64 :=
  let word :=
    if r.num = 0 then 0
    else
      let q : Int := max (-1074) (leadingBit r - 52)
      let m := roundToEven (r.num * Nat.pow 2 (-q).toNat) (r.den * Nat.pow 2 q.toNat)
      min infinityWord ((q + 1074).toNat * hiddenBit + m)
  ⟨UInt64.ofNat (word + if negative then signBit else 0)⟩

/-- The nearest number to a natural. -/
def ofNat (n : Nat) : Binary64 := ofRatio false ⟨n, 1⟩

/-- The rounded product of two finite numbers. -/
def mul (x y : Binary64) : Binary64 :=
  ofRatio (x.isNegative != y.isNegative)
    ⟨x.magnitude.num * y.magnitude.num, x.magnitude.den * y.magnitude.den⟩

/-- The rounded quotient of two finite numbers, the second of them not zero. -/
def div (x y : Binary64) : Binary64 :=
  ofRatio (x.isNegative != y.isNegative)
    ⟨x.magnitude.num * y.magnitude.den, x.magnitude.den * y.magnitude.num⟩

/-- The number with its sign turned. -/
def neg (x : Binary64) : Binary64 := ⟨x.bits ^^^ UInt64.ofNat signBit⟩

end Binary64

end DocQuery
