/-
**Instants.**

An instant is a number of nanoseconds since 1970-01-01T00:00:00Z.
-/

namespace ClientAssertion

/-- A point in time, to the nanosecond. -/
structure Instant where
  nanoseconds : Int
deriving DecidableEq, Repr, Inhabited

namespace Instant

/-- The instant a number of seconds after the epoch. -/
def ofSeconds (seconds : Int) : Instant := ⟨seconds * 1000000000⟩

/-- Whole seconds since the epoch, rounded down. -/
def seconds (instant : Instant) : Int := instant.nanoseconds / 1000000000

/-- Nanoseconds since the last whole second. -/
def subsecond (instant : Instant) : Nat := (instant.nanoseconds % 1000000000).toNat

instance : LT Instant := ⟨fun first second => first.nanoseconds < second.nanoseconds⟩

instance : LE Instant := ⟨fun first second => first.nanoseconds ≤ second.nanoseconds⟩

instance (first second : Instant) : Decidable (first < second) :=
  inferInstanceAs (Decidable (first.nanoseconds < second.nanoseconds))

instance (first second : Instant) : Decidable (first ≤ second) :=
  inferInstanceAs (Decidable (first.nanoseconds ≤ second.nanoseconds))

end Instant

end ClientAssertion
