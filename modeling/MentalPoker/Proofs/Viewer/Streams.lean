import MentalPoker.Proofs.Happenings
import MentalPoker.Proofs.Session.Parts
import MentalPoker.Proofs.Walkthrough.Held
import MentalPoker.Viewer

/-!
# Streams that feed the viewer

The streams of a walkthrough feed a session of their own. An event comes from a stream while that
stream is open, and open streams are held, so a reset disconnects them all. What comes to the
session after it comes from streams that were opened after it.

## The architecture

* **`Scene`**, **`Happening`**: the viewer with its streams, and what can happen next;
  **`viewer_happen`** says that the viewer of a scene is the viewer that reacts.
* **`walkthrough_keeps`**: what the walkthrough keeps in its surroundings, the viewer keeps in
  these.
* **`open_streams_are_held`**: which streams are open at all, and which after a reset.
-/

namespace MentalPoker.Viewer

open Walkthrough (Call someLedger someDemo)

/-- What happens to the viewer. -/
inductive Happening where
  | live (input : SessionInput)
  | demo (input : SessionInput)
  | walkthrough (h : Walkthrough.Happening)
  /-- A stream of the walkthrough brings an event. -/
  | brought (stream : Nat) (e : FeedEvent)

def Happening.input : Happening → ViewerInput
  | live input => .live input
  | demo input => .demo input
  | walkthrough h => .walkthrough h.input
  | brought stream e => .streamEvent stream e

/-- The viewer and the surroundings of its walkthrough. -/
structure Scene where
  live : Session
  walkthrough : Walkthrough.Scene
  demo : Session

namespace Scene

def opening : Scene := ⟨.fresh, .opening, .fresh⟩

def viewer (s : Scene) : Viewer := ⟨s.live, s.walkthrough.walkthrough, s.demo⟩

/-- Only an open stream brings an event. -/
def Possible (s : Scene) : Happening → Prop
  | .live _ | .demo _ => True
  | .walkthrough h => s.walkthrough.Possible h
  | .brought stream _ => Table.has stream s.walkthrough.streams = true

instance (s : Scene) (h : Happening) : Decidable (s.Possible h) :=
  match h with
  | .live _ | .demo _ => isTrue trivial
  | .walkthrough h => inferInstanceAs (Decidable (s.walkthrough.Possible h))
  | .brought .. => inferInstanceAs (Decidable (_ = true))

/-- The walkthrough and its surroundings after a happening. -/
def surroundings (a : LedgerAddress) (s : Scene) : Happening → Walkthrough.Scene
  | .walkthrough h => s.walkthrough.happen a h
  | .live _ | .demo _ | .brought .. => s.walkthrough

/-- The scene after a happening. -/
def happen (settings : ViewerSettings) (s : Scene) (h : Happening) : Scene :=
  let viewer := (s.viewer.react settings h.input).1
  ⟨viewer.live, s.surroundings settings.ledger h, viewer.demo⟩

/-- The scene after several happenings. -/
def play (settings : ViewerSettings) (happenings : List Happening) : Scene :=
  happenings.foldl (happen settings) opening

variable (settings : ViewerSettings) (s : Scene)

/-- The viewer of a scene is the one that reacts. -/
theorem viewer_happen (h : Happening) :
    (s.happen settings h).viewer = (s.viewer.react settings h.input).1 := by
  cases h with
  | live input => rfl
  | demo input => rfl
  | walkthrough h =>
    have hreacts := Walkthrough.Scene.walkthrough_happen settings.ledger s.walkthrough h
    exact congrArg (Viewer.mk s.live · s.demo) hreacts
  | brought stream e =>
    by_cases hopened : stream < s.walkthrough.walkthrough.opened.length
    · simp only [happen, viewer, surroundings, Happening.input, react, hopened, if_true]
      rfl
    · simp only [happen, viewer, surroundings, Happening.input, react, hopened, if_false]

theorem viewer_foldl (happenings : List Happening) :
    (happenings.foldl (happen settings) s).viewer
      = (run settings s.viewer (happenings.map Happening.input)).1 := by
  induction happenings generalizing s with
  | nil => rfl
  | cons h rest ih =>
    rw [List.foldl_cons, ih, viewer_happen]
    rfl

/-! ## Open streams -/

variable {settings : ViewerSettings} {s : Scene}

/-- What a walkthrough keeps with its surroundings, the viewer keeps. -/
theorem walkthrough_keeps {holds : Walkthrough.Scene → Prop}
    (hstep : ∀ u h, u.Possible h → holds u → holds (u.happen settings.ledger h)) (s : Scene)
    (h : Happening) (hpossible : s.Possible h) (hs : holds s.walkthrough) :
    holds (s.happen settings h).walkthrough := by
  cases h with
  | walkthrough h => exact hstep _ h hpossible hs
  | live | demo | brought => exact hs

/-- **Open streams are held.** Whatever happens to the viewer, and in whatever order, every open
stream is the one that the walkthrough holds for its phase, so that at most one of each kind is
open. After a reset none is, and the events that later come from streams come from streams that were
not opened yet at the reset. -/
theorem open_streams_are_held (settings : ViewerSettings) {happenings : List Happening}
    (h : Unfolds (happen settings) Possible opening happenings) :
    let s := play settings happenings
    s.viewer = (run settings .fresh (happenings.map Happening.input)).1
      ∧ (∀ stream ∈ s.walkthrough.streams, ∃ k, s.viewer.walkthrough.opened[stream.1]? = some k
          ∧ s.viewer.walkthrough.held k = some stream.1)
      ∧ (∀ k, (s.walkthrough.ofKind k).length ≤ 1)
      ∧ ∀ call : Call, call.forgets = true →
          let t := s.happen settings (.walkthrough (.called call))
          t.walkthrough.streams = [] ∧ ∀ later, Unfolds (happen settings) Possible t later →
            ∀ stream e, .brought stream e ∈ later →
              s.viewer.walkthrough.opened.length ≤ stream := by
  intro s
  have hkeeps (s : Scene) (h : Happening) : s.Possible h → s.walkthrough.Tidy →
      (s.happen settings h).walkthrough.Tidy :=
    walkthrough_keeps (fun _ _ hpossible hu => hu.happen hpossible) s h
  have hs : s.walkthrough.Tidy := h.keeps hkeeps Walkthrough.Scene.tidy_opening
  refine ⟨viewer_foldl settings opening happenings, hs.held, hs.length_ofKind_le,
    fun call hforgets => ?_⟩
  have hnone := hs.held.streams_forgets (a := settings.ledger) hforgets
  refine ⟨hnone, fun later hlater stream e hbrought => ?_⟩
  -- what is open after the reset was opened after it
  have hsince : (s.walkthrough.happen settings.ledger (.called call)).Since
      s.walkthrough.walkthrough.opened.length := by
    have hreset := Walkthrough.Scene.happen_forgets settings.ledger s.walkthrough hforgets
    have hopened := congrArg (fun scene => scene.walkthrough.opened.length) hreset
    exact ⟨Nat.le_of_eq hopened.symm, by rw [hnone]; nofun⟩
  have hlasts (u : Scene) (h : Happening) : u.Possible h →
      u.walkthrough.Since s.walkthrough.walkthrough.opened.length →
      (u.happen settings h).walkthrough.Since s.walkthrough.walkthrough.opened.length :=
    walkthrough_keeps (fun _ _ _ hu => hu.happen) u h
  obtain ⟨u, hu, hopen⟩ := hlater.holds_of_mem hlasts hsince hbrought
  obtain ⟨url, hurl⟩ := Option.isSome_iff_exists.mp hopen
  exact hu.streams _ (Table.mem_of_get?_eq_some hurl)

end Scene

def someViewer : ViewerSettings := ⟨someLedger, .usual⟩

/-- A demo whose shuffle has begun, with an event of its stream; the demo is the answer to a
request, and the stream is known by its number. -/
def shuffling (request stream : Nat) : List Happening :=
  [.walkthrough (.called .start), .walkthrough (.replied request (.ok someDemo)),
    .walkthrough (.called (.begin .shuffle 100)), .brought stream (.handCompleted 11 3)]

/-- After a reset another demo is shuffled, on another stream. -/
theorem Scene.open_streams_are_held_again :
    let s := play someViewer (shuffling 0 0)
    let t := s.happen someViewer (.walkthrough (.called .reset))
    (Unfolds (happen someViewer) Possible opening (shuffling 0 0)
        ∧ Unfolds (happen someViewer) Possible t (shuffling 1 1))
      ∧ s.walkthrough.streams ≠ [] ∧ t.walkthrough.streams = []
      ∧ s.viewer.walkthrough.opened.length ≤ 1 := by
  have hunfolds : Unfolds (happen someViewer) Possible opening (shuffling 0 0) :=
    ⟨trivial, by decide +kernel, trivial, by decide +kernel, trivial⟩
  have hagain : Unfolds (happen someViewer) Possible
      ((play someViewer (shuffling 0 0)).happen someViewer (.walkthrough (.called .reset)))
      (shuffling 1 1) :=
    ⟨trivial, by decide +kernel, trivial, by decide +kernel, trivial⟩
  have hafter := (open_streams_are_held someViewer hunfolds).2.2.2 .reset rfl
  have hbrought : Happening.brought 1 (.handCompleted 11 3) ∈ shuffling 1 1 := by simp [shuffling]
  exact ⟨⟨hunfolds, hagain⟩, by decide +kernel, hafter.1,
    hafter.2 (shuffling 1 1) hagain 1 (.handCompleted 11 3) hbrought⟩

end MentalPoker.Viewer
