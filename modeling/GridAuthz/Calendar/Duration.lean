/-!
# Durations

A duration is a whole number of nanoseconds. A moment is given by the duration since the
beginning of 1970, so moments before that do not exist.
-/

namespace GridAuthz

/-- A span of time, or a moment as the time passed since the beginning of 1970. -/
structure Duration where
  /-- The length in nanoseconds. -/
  nanoseconds : Nat
  deriving DecidableEq

namespace Duration

instance : LE Duration := ⟨fun a b => a.nanoseconds ≤ b.nanoseconds⟩

instance : LT Duration := ⟨fun a b => a.nanoseconds < b.nanoseconds⟩

instance (a b : Duration) : Decidable (a ≤ b) :=
  inferInstanceAs (Decidable (a.nanoseconds ≤ b.nanoseconds))

instance (a b : Duration) : Decidable (a < b) :=
  inferInstanceAs (Decidable (a.nanoseconds < b.nanoseconds))

instance : Add Duration := ⟨fun a b => ⟨a.nanoseconds + b.nanoseconds⟩⟩

/-- The difference of two durations, zero when there is none. -/
instance : Sub Duration := ⟨fun a b => ⟨a.nanoseconds - b.nanoseconds⟩⟩

instance : Min Duration := ⟨fun a b => if a ≤ b then a else b⟩

/-- Nanoseconds in a second. -/
def second : Nat := 1000000000

/-- A whole number of seconds. -/
def ofSeconds (seconds : Nat) : Duration := ⟨second * seconds⟩

/-- Seconds and nanoseconds together. -/
def ofParts (seconds nanoseconds : Nat) : Duration := ⟨second * seconds + nanoseconds⟩

/-- The whole seconds of a duration. -/
def seconds (d : Duration) : Nat := d.nanoseconds / second

/-- The seconds of a duration fit in 64 bits. -/
def fits (d : Duration) : Bool := d.seconds < UInt64.size

end Duration

end GridAuthz
