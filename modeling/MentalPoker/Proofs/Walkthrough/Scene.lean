import MentalPoker.Walkthrough

/-!
# A walkthrough and its surroundings

A walkthrough asks the ledger for demos and opens streams. The replies of the ledger and the ends
and failures of the streams come later, in any order, while the user goes on. Not everything can
come at any time, though: a request is answered once, and only a stream that is open ends or fails.
A scene is a walkthrough together with what it has left outside, and so it shows what can happen
next.

## The architecture

* **`Scene`**, **`Happening`**: what is awaited, what is open, and what can happen.
* **`Scene.happen`**: the scene after a happening; the bookkeeping goes by the effects of the
  walkthrough alone. One lemma for each kind of happening says what comes of it.
* **`Course`**: a series of happenings, each of them allowed where it happens.
-/

namespace MentalPoker.Walkthrough

/-! ## Scenes -/

/-- What a user can do. -/
inductive Call where
  | start
  | begin (phase : PhaseStream) (now : Int)
  | reset
  | close

namespace Call

def input : Call → WalkthroughInput
  | start => .start
  | begin phase now => .begin phase now
  | reset => .reset
  | close => .close

/-- The calls after which all is forgotten. -/
def forgets : Call → Bool
  | reset | close => true
  | start | begin .. => false

end Call

/-- What happens to a walkthrough. A reply comes to a request, which is known by its number. -/
inductive Happening where
  | called (call : Call)
  | replied (request : Nat) (reply : Except CallFault DemoInfo)
  /-- The ledger has closed a stream. -/
  | ended (stream : Nat) (now : Int)
  /-- A stream has failed, and may be over with that. -/
  | failed (stream : Nat) (message : Text) (last : Bool)

def Happening.input : Happening → WalkthroughInput
  | called call => call.input
  | replied _ reply => .answered reply
  | ended stream now => .closed stream now
  | failed stream message _ => .failed stream message

/-- A walkthrough and its surroundings. -/
structure Scene where
  walkthrough : Walkthrough
  /-- How many requests were made so far. -/
  made : Nat
  /-- The requests that are not answered yet. -/
  awaited : List Nat
  /-- How many of the requests were made before the last reset. -/
  forgotten : Nat
  /-- How many resets came while a reply was awaited. -/
  interruptions : Nat
  /-- The streams that are open, with their addresses: they neither ended nor were
  disconnected. -/
  streams : Table Nat Text

namespace Scene

def opening : Scene := ⟨.fresh, 0, [], 0, 0, []⟩

/-- A reply comes only to a request that is not answered yet, and only an open stream ends or
fails. -/
def Possible (s : Scene) : Happening → Prop
  | .called _ => True
  | .replied request _ => request ∈ s.awaited
  | .ended stream _ => Table.has stream s.streams = true
  | .failed stream _ _ => Table.has stream s.streams = true

instance (s : Scene) (h : Happening) : Decidable (s.Possible h) :=
  match h with
  | .called _ => isTrue trivial
  | .replied request _ => inferInstanceAs (Decidable (request ∈ s.awaited))
  | .ended .. | .failed .. => inferInstanceAs (Decidable (_ = true))

/-- What a happening is for the surroundings, before the walkthrough reacts. -/
def arrive (s : Scene) : Happening → Scene
  | .called call =>
    if call.forgets then
      { s with
        forgotten := s.made
        interruptions := if s.awaited = [] then s.interruptions else s.interruptions + 1 }
    else s
  | .replied request _ => { s with awaited := s.awaited.erase request }
  | .ended stream _ => { s with streams := Table.erase stream s.streams }
  | .failed stream _ last =>
    if last then { s with streams := Table.erase stream s.streams } else s

/-- What an effect is for the surroundings. -/
def perform (s : Scene) : WalkthroughEffect → Scene
  | .request => { s with made := s.made + 1, awaited := s.awaited ++ [s.made] }
  | .connect stream url => { s with streams := s.streams ++ [(stream, url)] }
  | .disconnect stream => { s with streams := Table.erase stream s.streams }
  | .close _ => s

/-- The scene after a happening. -/
def happen (a : LedgerAddress) (s : Scene) (h : Happening) : Scene :=
  let (walkthrough, effects) := s.walkthrough.react a h.input
  effects.foldl perform { s.arrive h with walkthrough := walkthrough }

/-- The bookkeeping leaves the walkthrough to itself. -/
theorem walkthrough_happen (a : LedgerAddress) (s : Scene) (h : Happening) :
    (s.happen a h).walkthrough = (s.walkthrough.react a h.input).1 := by
  have hperform (effects : List WalkthroughEffect) (s : Scene) :
      (effects.foldl perform s).walkthrough = s.walkthrough := by
    induction effects generalizing s with
    | nil => rfl
    | cons e rest ih =>
      rw [List.foldl_cons, ih]
      cases e <;> rfl
  exact hperform _ _

/-! ## What comes of each happening -/

/-- The streams but one, if any. -/
def without (stream : Option Nat) (streams : Table Nat Text) : Table Nat Text :=
  stream.elim streams fun stream => Table.erase stream streams

variable (a : LedgerAddress) (s : Scene)

theorem happen_replied (request : Nat) (reply : Except CallFault DemoInfo) :
    s.happen a (.replied request reply)
      = { s with
          walkthrough := s.walkthrough.answered reply
          awaited := s.awaited.erase request } := rfl

theorem happen_ended (stream : Nat) (now : Int) :
    s.happen a (.ended stream now)
      = { s with
          walkthrough := s.walkthrough.closed stream now
          streams := Table.erase stream s.streams } := rfl

theorem happen_failed (stream : Nat) (message : Text) (last : Bool) :
    s.happen a (.failed stream message last)
      = { s with
          walkthrough.progress.error := some message
          streams := without (if last then some stream else none) s.streams } := by
  cases last <;> rfl

theorem happen_start_awaiting (h : s.walkthrough.starting = true) :
    s.happen a (.called .start) = s := by
  simp [happen, Happening.input, Call.input, react, start, h, arrive, Call.forgets]

theorem happen_start (h : s.walkthrough.starting = false) :
    s.happen a (.called .start)
      = { s with
          walkthrough.starting := true
          walkthrough.info := none
          walkthrough.progress.phase := .loading
          walkthrough.progress.error := none
          made := s.made + 1
          awaited := s.awaited ++ [s.made] } := by
  simp [happen, Happening.input, Call.input, react, start, h, arrive, Call.forgets, perform]

theorem happen_begin_refused {k : PhaseStream} {message : Text}
    (h : s.walkthrough.grant k = .error message) (now : Int) :
    s.happen a (.called (.begin k now))
      = { s with walkthrough.progress.error := some message } := by
  simp [happen, Happening.input, Call.input, react, begin, h, arrive, Call.forgets]

/-- The walkthrough when the stream of a phase was opened. -/
def beginning (w : Walkthrough) (k : PhaseStream) (now : Int) : Walkthrough :=
  { w.setHeld (some w.opened.length) k with
    progress := w.progress.opening k now
    opened := w.opened ++ [k] }

theorem happen_begin {k : PhaseStream} {demo : DemoIds} (h : s.walkthrough.grant k = .ok demo)
    (now : Int) :
    s.happen a (.called (.begin k now))
      = { s with
          walkthrough := beginning s.walkthrough k now
          streams := without (s.walkthrough.held k) s.streams
            ++ [(s.walkthrough.opened.length, k.url a demo)] } := by
  have hopened : (s.walkthrough.setHeld none k).opened = s.walkthrough.opened := by
    cases k <;> rfl
  have hprogress : (s.walkthrough.setHeld none k).progress = s.walkthrough.progress := by
    cases k <;> rfl
  have hheld : ((s.walkthrough.setHeld none k).setHeld (some s.walkthrough.opened.length) k)
      = s.walkthrough.setHeld (some s.walkthrough.opened.length) k := by
    cases k <;> rfl
  simp only [happen, Happening.input, Call.input, react, begin, h, release, hopened, hprogress,
    hheld, arrive, Call.forgets, Bool.false_eq_true, if_false, List.foldl_append]
  cases s.walkthrough.held k <;> rfl

/-- After a reset a walkthrough is fresh, but for the streams that it has opened. -/
theorem happen_forgets {call : Call} (h : call.forgets = true) :
    s.happen a (.called call)
      = { s with
          walkthrough := { fresh with opened := s.walkthrough.opened }
          forgotten := s.made
          interruptions := if s.awaited = [] then s.interruptions else s.interruptions + 1
          streams := without s.walkthrough.dealStream
            (without s.walkthrough.shuffleStream s.streams) } := by
  cases call with
  | reset =>
    simp only [happen, Happening.input, Call.input, react, reset, release, arrive, Call.forgets,
      if_true, List.foldl_append, setHeld, held]
    cases s.walkthrough.shuffleStream <;> cases s.walkthrough.dealStream <;> rfl
  | close =>
    simp only [happen, Happening.input, Call.input, react, close, reset, release, arrive,
      Call.forgets, if_true, List.foldl_append, setHeld, held]
    cases s.walkthrough.shuffleStream <;> cases s.walkthrough.dealStream <;> rfl
  | start => cases h
  | begin => cases h

/-- The scene after several happenings. -/
def play (a : LedgerAddress) (happenings : List Happening) : Scene :=
  happenings.foldl (happen a) opening

end Scene

/-! ## Courses -/

/-- A series of happenings that leads from one scene to another, each of them allowed where it
happens. -/
inductive Course (a : LedgerAddress) (allowed : Scene → Happening → Prop) :
    Scene → List Happening → Scene → Prop
  | nil (s : Scene) : Course a allowed s [] s
  | cons {s s' : Scene} {h : Happening} {rest : List Happening} : allowed s h →
      Course a allowed (s.happen a h) rest s' → Course a allowed s (h :: rest) s'

/-- What every happening keeps is so after any course. -/
theorem Course.keeps {a : LedgerAddress} {allowed : Scene → Happening → Prop}
    {holds : Scene → Prop} {s s' : Scene} {happenings : List Happening}
    (hstep : ∀ s h, allowed s h → holds s → holds (s.happen a h))
    (hcourse : Course a allowed s happenings s') (hs : holds s) : holds s' := by
  induction hcourse with
  | nil => exact hs
  | cons hallowed _ ih => exact ih (hstep _ _ hallowed hs)

/-! ## A ledger and a demo -/

def someLedger : LedgerAddress := .ofRoot (text "http://ledger")

def someDemo : DemoInfo where
  demoId := ⟨text "0b7c9a521d3e4f6a8b2c9e0d1f2a3b4c"⟩
  gameId := 11
  handId := 3
  viewerKey := text "0xbeef"
  snapshot := none

end MentalPoker.Walkthrough
