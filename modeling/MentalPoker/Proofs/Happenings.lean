/-!
# Happenings one after another

A system with its surroundings changes with every happening, and where it stands decides what can
happen next. A series of happenings unfolds when each of them is possible where it happens. What
every possible happening keeps then holds all along the series.
-/

namespace MentalPoker

variable {σ η : Type} {happen : σ → η → σ} {possible : σ → η → Prop}

/-- Each of some happenings is possible where it happens. -/
def Unfolds (happen : σ → η → σ) (possible : σ → η → Prop) : σ → List η → Prop
  | _, [] => True
  | s, h :: rest => possible s h ∧ Unfolds happen possible (happen s h) rest

namespace Unfolds

variable {holds : σ → Prop} (hstep : ∀ s h, possible s h → holds s → holds (happen s h))

include hstep

/-- What every possible happening keeps holds after the series. Induction along the series. -/
theorem keeps {s : σ} {hs : List η} (hunfolds : Unfolds happen possible s hs) (hholds : holds s) :
    holds (hs.foldl happen s) := by
  induction hs generalizing s with
  | nil => exact hholds
  | cons h rest ih => exact ih hunfolds.2 (hstep s h hunfolds.1 hholds)

/-- What every possible happening keeps holds wherever one of the series happens. Induction along
the series. -/
theorem holds_of_mem {s : σ} {hs : List η} (hunfolds : Unfolds happen possible s hs)
    (hholds : holds s) {h : η} (hmem : h ∈ hs) : ∃ t, holds t ∧ possible t h := by
  induction hs generalizing s with
  | nil => cases hmem
  | cons first rest ih =>
    rcases List.mem_cons.mp hmem with rfl | hlater
    · exact ⟨s, hholds, hunfolds.1⟩
    · exact ih hunfolds.2 (hstep s first hunfolds.1 hholds) hlater

end Unfolds

end MentalPoker
