import DocQuery.Decimal.Layout

/- The text of a number in the 128-bit decimal interchange format with a binary integer as its
   coefficient, stored with the low byte first. The top bit is the sign. If the next two bits are
   not both set, fourteen bits of exponent and 113 bits of coefficient follow; otherwise the
   exponent stands two bits lower, and the coefficient is out of range and counts as zero. Five
   set bits below the sign mean a NaN, and the pattern `11110` means infinity. -/

namespace DocQuery

/-- Sixteen bytes, the low one first. -/
structure Decimal128 where
  bytes : Vector UInt8 16
  deriving DecidableEq, Repr

namespace Decimal128

/-- The bytes read as one natural. -/
def word (d : Decimal128) : Nat :=
  d.bytes.toList.foldr (fun byte high => byte.toNat + 256 * high) 0

def isNegative (d : Decimal128) : Bool := d.word.testBit 127

/-- The five bits below the sign. -/
def kind (d : Decimal128) : Nat := (d.word >>> 122) % 32

/-- The largest coefficient of thirty-four digits. -/
def maxCoefficient : Nat := Nat.pow 10 34 - 1

/-- The finite number that the fields spell, without its sign. -/
def magnitude (d : Decimal128) : Decimal :=
  if 24 ≤ d.kind then ⟨0, ((d.word >>> 111) % 0x4000 : Nat) - 6176⟩
  else
    let coefficient := d.word % Nat.pow 2 113
    ⟨if coefficient ≤ maxCoefficient then coefficient else 0,
      ((d.word >>> 113) % 0x4000 : Nat) - 6176⟩

/-- All digits of the coefficient are kept. There is no exponent if that of the last digit is not
    positive and that of the first is at least -6. -/
def magnitudeText (d : Decimal) : List Char :=
  let digits := Decimal.digitsOf d.digits
  let leading : Int := d.exponent + digits.length - 1
  if d.exponent ≤ 0 ∧ -6 ≤ leading then d.positional
  else
    let mantissa := match digits with
      | first :: second :: rest => first :: '.' :: second :: rest
      | short => short
    let sign := if leading < 0 then '-' else '+'
    mantissa ++ 'E' :: sign :: Decimal.digitsOf leading.natAbs

/-- The text of a number; a NaN shows no sign. -/
def text (d : Decimal128) : String :=
  if d.kind = 31 then "NaN"
  else
    let magnitude :=
      if d.kind = 30 then ['I', 'n', 'f', 'i', 'n', 'i', 't', 'y'] else magnitudeText d.magnitude
    String.ofList (if d.isNegative then '-' :: magnitude else magnitude)

end Decimal128

end DocQuery
