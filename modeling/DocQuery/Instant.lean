/- A moment with nanoseconds and the offset from UTC in which it was written down. The offset
   belongs to the spelling: two moments are the same whatever their offsets. Inside a leap second
   the nanoseconds run on past one billion. -/

namespace DocQuery

/-- A moment: whole seconds since 1970-01-01 in UTC, nanoseconds after them, and an offset in
    seconds east of UTC. The range of seconds is that of the years -262143 to 262142.
    Nanoseconds from one billion on are those of a leap second. In UTC it may follow any second,
    because offsets need not be whole minutes. -/
structure Instant where
  seconds : Int
  nanos : Nat
  offset : Int
  seconds_ge : -8334601228800 ≤ seconds
  seconds_le : seconds ≤ 8210266876799
  nanos_lt : nanos < 2000000000
  offset_lt : offset.natAbs < 86400
  deriving DecidableEq, Repr

namespace Instant

/-- The moment with the given parts, if they are in range. By the clock of UTC a leap second comes
    at the end of a minute only. -/
def ofParts? (seconds : Int) (nanos : Nat) (offset : Int) : Option Instant :=
  if h : -8334601228800 ≤ seconds ∧ seconds ≤ 8210266876799 ∧
      (nanos < 1000000000 ∨ (seconds % 60 = 59 ∧ nanos < 2000000000)) ∧
      offset.natAbs < 86400 then
    some ⟨seconds, nanos, offset, h.1, h.2.1, by omega, h.2.2.2⟩
  else none

/-- The nanoseconds since 1970-01-01 in UTC, those of a leap second counted on. -/
def nanosecond (t : Instant) : Int := t.seconds * 1000000000 + t.nanos

/-- The whole milliseconds since 1970-01-01 in UTC, rounded down before that day as well. -/
def millis (t : Instant) : Int := t.seconds * 1000 + (t.nanos / 1000000 : Nat)

/-- The same moment, in whatever offsets the two were written. -/
def same (a b : Instant) : Bool := a.seconds == b.seconds && a.nanos == b.nanos

/-- Milliseconds are nanoseconds rounded down. -/
theorem millis_eq_floor (t : Instant) : t.millis = t.nanosecond / 1000000 := by
  unfold millis nanosecond
  omega

theorem millis_bounds (t : Instant) :
    -9223372036854775808 ≤ t.millis ∧ t.millis ≤ 9223372036854775807 := by
  have h₁ := t.seconds_ge
  have h₂ := t.seconds_le
  have h₃ := t.nanos_lt
  unfold millis
  omega

end Instant

end DocQuery
