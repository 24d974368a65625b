/-!
# Durations

A span of time in whole nanoseconds. Instants on a clock are spans since its start.
-/
namespace PersonGate

/-- A span of time. -/
structure Duration where
  nanoseconds : Nat
  deriving DecidableEq, Repr

namespace Duration

/-- Nanoseconds in a second. -/
def second : Nat := 1000000000

/-- Nanoseconds in a millisecond. -/
def millisecond : Nat := 1000000

def ofSeconds (n : Nat) : Duration := ⟨n * second⟩

def ofMilliseconds (n : Nat) : Duration := ⟨n * millisecond⟩

def isZero (d : Duration) : Bool := d.nanoseconds == 0

end Duration
end PersonGate
