import PolicyStudio.Decimal.Binary

/-!
# Times

A session only adds a duration to a time and asks whether one time is before
another, so it can be stated over any scale that offers the two.  The playground
measures in seconds, whole or not; a whole number of seconds stays whole until it
is added to one that is not.
-/

namespace PolicyStudio
namespace Session

/-- Why there is no time after a duration. -/
inductive TimeFault where
  /-- A whole number is too large to be added to one that is not whole. -/
  | tooLarge
deriving Repr, DecidableEq

/-- The wording of a fault. -/
def TimeFault.message : TimeFault → String
  | .tooLarge => "int too large to convert to float"

/-- A scale on which times are measured. -/
class TimeScale (τ : Type) where
  /-- The time after a duration. -/
  after : (now duration : τ) → Except TimeFault τ
  /-- The first time is before the second. -/
  before : (now deadline : τ) → Bool

/-- A number of seconds. -/
inductive Seconds where
  | whole (count : Int)
  | parts (count : Float)
deriving Repr

namespace Seconds

/-- A number of seconds that need not be whole. -/
def toFloat : Seconds → Except TimeFault Float
  | .whole n => match Decimal.ofInt? n with
    | some x => .ok x
    | none => .error .tooLarge
  | .parts x => .ok x

/-- The sum; it is whole if both numbers are. -/
def after : Seconds → Seconds → Except TimeFault Seconds
  | .whole m, .whole n => .ok (.whole (m + n))
  | a, b => do return .parts ((← a.toFloat) + (← b.toFloat))

/-- The first number is smaller; nothing is smaller than no number. -/
def before : Seconds → Seconds → Bool
  | .whole m, .whole n => decide (m < n)
  | .whole m, .parts y => Decimal.compareFraction y m 1 == some .gt
  | .parts x, .whole n => Decimal.compareFraction x n 1 == some .lt
  | .parts x, .parts y => decide (x < y)

instance : TimeScale Seconds := ⟨after, before⟩

end Seconds

end Session
end PolicyStudio
