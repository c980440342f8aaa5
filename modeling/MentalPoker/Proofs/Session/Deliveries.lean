import MentalPoker.Proofs.Gap.Open
import MentalPoker.Proofs.Session.Hearing

/-!
# What inputs do to the gap buffer

An input does one of two things to the gap buffer. Some start the numbers over: a new hand, also one
that cannot be read, a feed that opens anew, and a reset. All others deliver what they bring, which
is nothing for most of them. So what is known of deliveries is known of whole runs, whatever comes
in them.

## The architecture

* **`SessionInput.startsOver`**: which inputs start the numbers over.
* **`react_restarted`**, **`react_delivered`**: the two things an input can do.
* **`react_ahead`**: what waits in the buffer of a session stays ahead of the next number.
-/

namespace MentalPoker

/-- The numbers of envelopes start again with the input. They do so, too, when the hand that is
announced cannot be read. -/
def SessionInput.startsOver (s : Session) : SessionInput → Bool
  | kindOnly kind => kind = .handCreated
  | i => i.restarts s

namespace Session

open SessionEffect (appliedIn)

/-- The buffer starts over, and nothing is applied. -/
structure Restarted (r : Session × List SessionEffect) : Prop where
  buffer : r.1.buffer = .start 0
  applied : appliedIn r.2 = []

/-- Deliveries went through the buffer of `s`, and what they released was applied. -/
structure Delivered (s : Session) (ds : List (GapBuffer.Delivery Finalized))
    (r : Session × List SessionEffect) : Prop where
  buffer : r.1.buffer = (s.buffer.deliverAll ds).1
  applied : appliedIn r.2 = (s.buffer.deliverAll ds).2.map Prod.snd

theorem SetsBack.restarted {f : Step} (hf : SetsBack f) (s : Session) : Restarted (f s) :=
  ⟨hf.buffer s, hf.applied s⟩

/-- What follows a restart quietly leaves it one. -/
theorem Restarted.thenDo {f g : Step} {s : Session} (h : Restarted (f s)) (hg : Quiet g) :
    Restarted (thenDo f g s) where
  buffer := by rw [thenDo_fst, (hg _).buffer, h.buffer]
  applied := by
    rw [thenDo_snd, SessionEffect.appliedIn_append, (hg _).applied, h.applied, List.append_nil]

theorem Untouched.delivered {s : Session} {r : Session × List SessionEffect} (h : Untouched s r) :
    Delivered s [] r := ⟨h.buffer, h.applied⟩

theorem Follows.delivered {deck : List Card} {s : Session}
    {ds : List (GapBuffer.Delivery Finalized)} {notices : List FeedEvent}
    {r : Session × List SessionEffect} (h : Follows deck s ds notices r) : Delivered s ds r :=
  ⟨h.buffer, h.applied⟩

/-! ## One input -/

/-- A hand that is announced outside the feed is an event but for the key, and no delivery looks at
that. -/
theorem beginHand_eq_event (deck : List Card) (e : FeedEvent) (key : Option Text) (s : Session) :
    ∃ context, beginHand deck e key s = event deck e { s with context := context } := by
  unfold beginHand
  split
  · next c cs => exact ⟨{ s.context with viewerKey := .str (c :: cs) }, rfl⟩
  · exact ⟨s.context, rfl⟩

/-- The announcement of a hand starts the numbers over. -/
theorem event_restarted (deck : List Card) {e : FeedEvent} (he : e.kind = .handCreated)
    (s : Session) : Restarted (event deck e s) := by
  cases e with
  | handCreated hand => exact (setsBack_handCreated deck hand).restarted s
  | _ => cases he

/-- **Inputs that start over** leave an empty buffer and apply nothing. -/
theorem react_restarted (settings : SessionSettings) {s : Session} {i : SessionInput}
    (h : i.startsOver s = true) : Restarted (react settings i s) := by
  cases i with
  | event e => exact event_restarted settings.deck (of_decide_eq_true h) s
  | beginHand e key =>
    obtain ⟨context, hevent⟩ := beginHand_eq_event settings.deck e key s
    rw [react, hevent]
    exact event_restarted settings.deck (of_decide_eq_true h) _
  | kindOnly kind =>
    obtain rfl : kind = .handCreated := of_decide_eq_true h
    exact ⟨(prepareHand_restarts s).1, (prepareHand_restarts s).2⟩
  | opened =>
    have hopened : s.opened = true := h
    have hafter : Quiet (thenDo (modify fun s => { s with opened := true, status := .connected })
        (dispatch (.setError none))) :=
      Quiet.thenDo (fun _ => ⟨rfl, rfl, rfl⟩) (.dispatch rfl)
    have hreset := (setsBack_resetPipeline.restarted s).thenDo hafter
    simpa only [react, opening, hopened, if_true, inOrder_three] using hreset
  | reset => exact setsBack_reset.restarted s
  | close =>
    have hclose : Quiet (if settings.hasTransport then emit .close else skip) := by
      split
      · exact .emit rfl
      · exact .skip
    exact (setsBack_reset.restarted s).thenDo hclose
  | _ => cases h

/-- An event that announces no hand goes on with the hand. -/
theorem event_delivered (settings : SessionSettings) {e : FeedEvent}
    (he : e.kind ≠ .handCreated) (s : Session) :
    Delivered s (SessionInput.deliveries s (.event e)) (event settings.deck e s) := by
  have hcontinues : SessionInput.continues s (.event e) = true := decide_eq_true he
  exact (react_follows settings hcontinues).delivered

/-- **Inputs that do not start over** deliver what they bring, and what that releases is applied. -/
theorem react_delivered (settings : SessionSettings) {s : Session} {i : SessionInput}
    (h : i.startsOver s = false) : Delivered s (i.deliveries s) (react settings i s) := by
  by_cases hi : i.continues s = true
  · exact (react_follows settings hi).delivered
  · cases i with
    | event e => exact absurd (decide_eq_true (of_decide_eq_false h)) hi
    | beginHand e key =>
      obtain ⟨context, hevent⟩ := beginHand_eq_event settings.deck e key s
      have hsame : SessionInput.deliveries { s with context := context } (.event e)
          = SessionInput.deliveries s (.beginHand e key) := by cases e <;> rfl
      rw [react, hevent, ← hsame]
      have hdelivered := event_delivered settings (of_decide_eq_false h)
        { s with context := context }
      exact ⟨hdelivered.buffer, hdelivered.applied⟩
    | kindOnly kind =>
      have hkind : kind ≠ .handCreated := of_decide_eq_false h
      have hquiet : Quiet (kindOnly kind) := by
        cases kind with
        | handCreated => exact absurd rfl hkind
        | _ => exact .narrated fun s => (Narrator.isAside_effectsOfKind s.context _).leavesNumber
      exact (hquiet s).delivered
    | opened =>
      have hopened : s.opened = false := h
      exact absurd (by rw [SessionInput.continues, hopened, Bool.not_false]) hi
    | reset | close => cases h
    | _ => exact absurd rfl hi

/-! ## What waits is ahead -/

/-- **One input** leaves waiting only what is ahead of the next number. -/
theorem react_ahead (settings : SessionSettings) {s : Session} (hs : s.buffer.Ahead)
    (i : SessionInput) : (react settings i s).1.buffer.Ahead := by
  cases h : i.startsOver s with
  | true =>
    rw [(react_restarted settings h).buffer]
    exact GapBuffer.ahead_start 0
  | false =>
    rw [(react_delivered settings h).buffer]
    exact hs.deliverAll _

end Session

end MentalPoker
