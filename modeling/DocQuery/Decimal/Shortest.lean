import DocQuery.Binary64

/- The decimal number with the fewest digits among those that round back to a given binary number,
   and of these the nearest to it. The search walks through the grids of multiples of `10^k`, from
   coarse to fine. On each grid it looks at the two neighbours of the number only: if any point of
   the grid rounds back, so does one of the two. -/

namespace DocQuery

/-- The non-negative decimal number `digits · 10^exponent`. -/
structure Decimal where
  digits : Nat
  exponent : Int
  deriving DecidableEq, Repr, Inhabited

namespace Decimal

/-- Where a number goes that lies half way between two points of a grid. -/
inductive Tie where
  | toEven
  | up
  deriving DecidableEq, Repr

/-- The numbers that round to one binary number, in units of `2^unit`: from `low` to `high`
    around `value`, with the ends belonging to the range or not. -/
structure RoundingRange where
  low : Nat
  value : Nat
  high : Nat
  unit : Int
  closed : Bool

/-- The range of a positive finite number. Its ends are half way to the neighbours, and the lower
    neighbour of a power of two is only half as far away as the upper one. A number exactly at an
    end goes to the even significand. -/
def RoundingRange.of (x : Binary64) : RoundingRange :=
  let m := x.significand
  let below := if x.fractionField = 0 ∧ 1 < x.exponentField then 1 else 2
  ⟨4 * m - below, 4 * m, 4 * m + 2, x.exponent - 2, m % 2 == 0⟩

/-- The point `n · 10^k` lies in the range. The powers of two and of ten stand on whichever side
    makes them whole. -/
def RoundingRange.holds (r : RoundingRange) (k : Int) (n : Nat) : Bool :=
  let scale := Nat.pow 2 r.unit.toNat * Nat.pow 10 (-k).toNat
  let point := n * (Nat.pow 2 (-r.unit).toNat * Nat.pow 10 k.toNat)
  if r.closed then decide (r.low * scale ≤ point ∧ point ≤ r.high * scale)
  else decide (r.low * scale < point ∧ point < r.high * scale)

/-- The neighbour of the range's value on the grid of `10^k` that lies in the range and is
    nearest, if one does. -/
def RoundingRange.neighbour? (r : RoundingRange) (tie : Tie) (k : Int) : Option Nat :=
  let scaled := r.value * (Nat.pow 2 r.unit.toNat * Nat.pow 10 (-k).toNat)
  let step := Nat.pow 2 (-r.unit).toNat * Nat.pow 10 k.toNat
  let n := scaled / step
  let twice := 2 * (scaled % step)
  match r.holds k n, r.holds k (n + 1) with
  | false, false => none
  | true, false => some n
  | false, true => some (n + 1)
  | true, true =>
    if twice < step then some n
    else if step < twice then some (n + 1)
    else match tie with
      | .up => some (n + 1)
      | .toEven => some (n + n % 2)

/-- The first grid with a neighbour in the range, from `10^k` down to finer grids. -/
def RoundingRange.search (r : RoundingRange) (tie : Tie) : Nat → Int → Decimal
  | 0, k => ⟨0, k⟩
  | fuel + 1, k =>
    match r.neighbour? tie k with
    | some n => ⟨n, k⟩
    | none => r.search tie fuel (k - 1)

/-- The shortest digits of a positive finite number. A number with its leading bit at `2^b` is
    below `10^(⌊b · 0.301⌋ + 2)`, and seventeen digits always tell it from its neighbours, so
    twenty-five grids are enough. -/
def shortest (tie : Tie) (x : Binary64) : Decimal :=
  let r := RoundingRange.of x
  let leading : Int := (r.high.log2 : Int) + r.unit
  r.search tie 25 (leading * 301 / 1000 + 2)

end Decimal

end DocQuery
