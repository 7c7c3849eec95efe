import DocQuery.Decimal.Shortest

/- How numbers are written down. Integers are digits without leading zeros, behind a minus sign if
   they are negative, or digits filled up to a width. The shortest digits of a double are written
   with or without an exponent, and a whole number shows a fraction or not. A layout is a record,
   and each text that holds such numbers has its own. -/

namespace DocQuery.Decimal

/-! ## Integers -/

/-- The decimal digits of a natural. -/
def digitsOf (n : Nat) : List Char := Nat.toDigits 10 n

/-- The digits of a natural, filled up with zeros to a width. -/
def padded (width n : Nat) : List Char :=
  let digits := digitsOf n
  List.replicate (width - digits.length) '0' ++ digits

/-- The text of a natural. -/
def naturalText (n : Nat) : String := String.ofList (digitsOf n)

theorem naturalText_injective {m n : Nat} (h : naturalText m = naturalText n) : m = n := by
  have digits : Nat.toDigits 10 m = Nat.toDigits 10 n := String.ofList_inj.mp h
  calc m
    _ = Nat.ofDigitChars 10 (Nat.toDigits 10 m) 0 := Nat.ofDigitChars_ten_toDigits.symm
    _ = Nat.ofDigitChars 10 (Nat.toDigits 10 n) 0 := by rw [digits]
    _ = n := Nat.ofDigitChars_ten_toDigits

/-- The text of an integer. -/
def integerText (n : Int) : String :=
  String.ofList (if n < 0 then '-' :: digitsOf n.natAbs else digitsOf n.natAbs)

/-! ## Doubles -/

/-- The choices a text makes when it writes numbers. -/
structure Layout where
  /-- which of two equally near digit strings is written -/
  tie : Tie
  /-- the decimal exponents of the leading digit, first to last, that are written without an
      exponent; all of them if there is no range -/
  positional : Option (Int × Int)
  /-- a whole number written without an exponent ends in `.0` -/
  wholeFraction : Bool

/-- The text of `digits · 10^exponent` without an exponent: whole part, point and fraction, where
    a number without a fraction has no point either. -/
def positional (d : Decimal) : List Char :=
  if 0 ≤ d.exponent then digitsOf d.digits ++ List.replicate d.exponent.toNat '0'
  else
    let places := (-d.exponent).toNat
    let digits := padded (places + 1) d.digits
    digits.take (digits.length - places) ++ '.' :: digits.drop (digits.length - places)

/-- The text with an exponent: one digit, the others behind a point, then the exponent, which
    always shows its sign. -/
def scientific (d : Decimal) : List Char :=
  let digits := digitsOf d.digits
  let leading : Int := d.exponent + digits.length - 1
  let sign := if leading < 0 then '-' else '+'
  let mantissa := match digits with
    | first :: second :: rest => first :: '.' :: second :: rest
    | short => short
  mantissa ++ 'e' :: sign :: digitsOf leading.natAbs

/-- The text of a non-negative decimal number. -/
def Layout.decimal (layout : Layout) (d : Decimal) : List Char :=
  let leading : Int := d.exponent + (digitsOf d.digits).length - 1
  let plain := match layout.positional with
    | none => true
    | some (low, high) => decide (low ≤ leading ∧ leading ≤ high)
  if plain then
    d.positional ++ if layout.wholeFraction && decide (0 ≤ d.exponent) then ['.', '0'] else []
  else d.scientific

/-- The text of a number, with a sign for every negative one, zero included. -/
def Layout.text (layout : Layout) (x : Binary64) : String :=
  if x.isNaN then "NaN"
  else
    let magnitude :=
      if x.isInfinite then ['i', 'n', 'f']
      else if x.isZero then layout.decimal ⟨0, 0⟩
      else layout.decimal (shortest layout.tie x)
    String.ofList (if x.isNegative then '-' :: magnitude else magnitude)

end DocQuery.Decimal
