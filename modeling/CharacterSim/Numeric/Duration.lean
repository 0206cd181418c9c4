/-! Spans of time as whole nanoseconds. Timers subtract spans from each other and stop at zero. -/

namespace CharacterSim

/-- A span of time. -/
structure Duration where
  nanoseconds : Nat
  deriving DecidableEq, Inhabited

namespace Duration

def zero : Duration := ⟨0⟩

/-- So many whole milliseconds. -/
def ofMillis (count : Nat) : Duration := ⟨count * 1000000⟩

/-- So many seconds and nanoseconds. -/
def ofParts (seconds nanoseconds : Nat) : Duration := ⟨seconds * 1000000000 + nanoseconds⟩

def seconds (span : Duration) : Nat := span.nanoseconds / 1000000000

/-- The nanoseconds beyond the last whole second. -/
def subsecond (span : Duration) : Nat := span.nanoseconds % 1000000000

/-- The whole milliseconds of a span. -/
def wholeMillis (span : Duration) : Nat := span.nanoseconds / 1000000

def isZero (span : Duration) : Bool := span.nanoseconds == 0

instance : Add Duration := ⟨fun first second => ⟨first.nanoseconds + second.nanoseconds⟩⟩

/-- What is left of the first span after the second, nothing when the second is longer. -/
instance : Sub Duration := ⟨fun first second => ⟨first.nanoseconds - second.nanoseconds⟩⟩

instance : LE Duration := ⟨fun first second => first.nanoseconds ≤ second.nanoseconds⟩

instance (first second : Duration) : Decidable (first ≤ second) :=
  inferInstanceAs (Decidable (first.nanoseconds ≤ second.nanoseconds))

@[ext] theorem ext {first second : Duration} (h : first.nanoseconds = second.nanoseconds) :
    first = second := by
  cases first; cases second; cases h; rfl

theorem nanoseconds_add (first second : Duration) :
    (first + second).nanoseconds = first.nanoseconds + second.nanoseconds := rfl

theorem nanoseconds_sub (first second : Duration) :
    (first - second).nanoseconds = first.nanoseconds - second.nanoseconds := rfl

/-- Two subtractions take away their total. -/
theorem sub_sub (span first second : Duration) : span - first - second = span - (first + second) :=
  ext (Nat.sub_sub ..)

theorem parts_eq (span : Duration) : ofParts span.seconds span.subsecond = span :=
  ext (by simp [ofParts, seconds, subsecond]; omega)

end Duration

end CharacterSim
