import MentalPoker.Number.Binary64
import MentalPoker.Text

/-!
# Backoff

How long a transport waits before it connects again: a base that doubles with each failure, up to
a limit. A connection that opens sets the schedule back.
-/

namespace MentalPoker

/-- The schedule of delays, in milliseconds. -/
structure Backoff where
  base : Rat
  limit : Rat
  /-- Failures since the schedule was set back. -/
  attempt : Nat
  deriving DecidableEq, Repr

namespace Backoff

def start (base limit : Rat) : Backoff := ⟨base, limit, 0⟩

/-- The schedule that is used when nothing else is said. -/
def usual : Backoff := start 1000 30000

/-- The delay after this failure. -/
def delay (b : Backoff) : Rat :=
  let doubled := b.base * 2 ^ b.attempt
  if b.limit < doubled then b.limit else doubled

/-- One more failure. -/
def next (b : Backoff) : Backoff := { b with attempt := b.attempt + 1 }

def reset (b : Backoff) : Backoff := { b with attempt := 0 }

/-- The seconds of a delay. -/
def seconds (delay : Rat) : Binary64 := .ofRat (delay / 1000)

/-- The delay has too many seconds to be counted. -/
def isEndless (delay : Rat) : Bool := !(seconds delay).isFinite

/-- What is said while a transport waits for some seconds, rounded up. -/
def announcement (seconds : Binary64) : Text :=
  text "Connection lost. Reconnecting in " ++ Text.ofInt (seconds.ceil?.getD 0) ++ text "s..."

/-- What is said during a delay. -/
def message (delay : Rat) : Text := announcement (seconds delay)

/-- The delay in whole milliseconds as a clock of seconds shows it. -/
def shown (delay : Rat) : Int := (((seconds delay).mulNat 1000).roundEven?).getD 0

theorem delay_le_limit (b : Backoff) : b.delay ≤ b.limit := by
  simp only [delay]
  split
  · exact Rat.le_refl
  · exact Rat.not_lt.mp ‹_›

end Backoff

end MentalPoker
