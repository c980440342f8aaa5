import MentalPoker.Envelope.HandMessage
import MentalPoker.Envelope.Row
import MentalPoker.Feed.Event
import MentalPoker.Proofs.Json.Limits

/-!
# What decoding comes to

Four decoders take payloads from outside: that of the feed, those of recorded envelopes and ledger
rows, and that of the entries of an answer. Receivers drop what does not decode, so a decoder should
come to a value or to a refusal. It does, whatever the payload holds, save where a text goes beyond
a limit of the reader. Such a text is not refused but stops whoever asked for it.

## The architecture

* **`Settles`**: a value or a refusal, unless reading hits a limit.
* **`settles_bind`**: it is enough that what follows the reading refuses and never stops.
* **`decoding_settles`**: the four decoders.
-/

namespace MentalPoker

namespace Payload

/-- The text that a payload holds, if it holds one. -/
def text? : Payload → Option Text
  | value _ => none
  | text t => some t
  | bytes b => ((Encoding.detect b).decode b).toOption

variable [Json.Room]

/-- Decoding the payload comes to a value or to a refusal within the limits of the reader. Beyond
them it stops, for the limit that reading hits. -/
structure Settles {α : Type} (p : Payload) (r : Decoded α) : Prop where
  within : (∀ l, p.read ≠ .error (.limit l)) →
    (∃ a, r = .ok a) ∨ ∃ fault, r = .error fault ∧ fault.failure? = none
  beyond : ∀ l, p.read = .error (.limit l) → r = .error (.limit l)

/-- A payload whose reading hits a limit holds a text that goes beyond it. -/
theorem exceeds_of_read {p : Payload} {l : Json.Limit} (h : p.read = .error (.limit l)) :
    ∃ t, p.text? = some t ∧ Json.Exceeds Json.Room.depth t l := by
  have hlimit {fault : Json.Fault} (hfault : DecodeFault.ofReader fault = .limit l) :
      fault = .limit l := by
    cases fault <;> cases hfault
    rfl
  cases p with
  | value v => cases h
  | text t =>
    cases hread : Json.ofText t with
    | ok v => rw [read, hread] at h; cases h
    | error fault =>
      rw [read, hread] at h
      rw [hlimit (Except.error.inj h)] at hread
      exact ⟨t, rfl, Json.exceeds_of_ofText hread⟩
  | bytes b =>
    cases hread : Json.ofBytes b with
    | ok v => rw [read, hread] at h; cases h
    | error fault =>
      rw [read, hread] at h
      rw [hlimit (Except.error.inj h)] at hread
      obtain ⟨t, hdecode, ht⟩ := Json.exceeds_of_ofBytes hread
      exact ⟨t, by rw [text?, hdecode]; rfl, ht⟩

/-- Loading takes only objects from what was read, and refuses all else. -/
theorem settles_load (p : Payload) : Settles p p.load := by
  unfold load
  cases hread : p.read with
  | error fault =>
    refine ⟨fun hwithin => .inr ⟨fault, rfl, ?_⟩, fun l hl => ?_⟩
    · cases fault with
      | limit l => exact absurd hread (hwithin l)
      | _ => rfl
    · rw [hread] at hl
      cases hl
      rfl
  | ok v =>
    refine ⟨fun _ => ?_, fun l hl => ?_⟩
    · cases v with
      | obj members => exact .inl ⟨members, rfl⟩
      | _ => exact .inr ⟨_, rfl, rfl⟩
    · rw [hread] at hl
      cases hl

/-- What follows the loading refuses at most. -/
theorem settles_bind {α : Type} (p : Payload) {g : Table Text Json → Decoded α}
    (hg : ∀ members fault, g members = .error fault → fault.failure? = none) :
    Settles p (p.load.bind g) := by
  have hload := settles_load p
  refine ⟨fun hwithin => ?_, fun l hl => ?_⟩
  · rcases hload.within hwithin with ⟨members, hmembers⟩ | ⟨fault, hfault, hrefused⟩
    · rw [hmembers]
      cases hvalue : g members with
      | ok a => exact .inl ⟨a, hvalue⟩
      | error fault => exact .inr ⟨fault, hvalue, hg members fault hvalue⟩
    · rw [hfault]
      exact .inr ⟨fault, rfl, hrefused⟩
  · rw [hload.beyond l hl]
    rfl

end Payload

/-- What does not fit a schema is dropped, and stops nobody. -/
theorem Schema.Checked.failure?_of_decoded {α : Type} {c : Schema.Checked α}
    {subject : List Schema.Issue → Text} {fault : DecodeFault}
    (h : c.decoded subject = .error fault) : fault.failure? = none := by
  cases c with
  | good a => cases h
  | bad issues =>
    cases h
    rfl

/-- A row whose columns contradict each other is refused, as is one that does not fit. -/
theorem Row.failure?_of_finalized {row : Row} {fault : DecodeFault}
    (h : row.finalized = .error fault) : fault.failure? = none := by
  unfold Row.finalized at h
  split at h
  · cases h
    rfl
  · exact Schema.Checked.failure?_of_decoded h

open Payload (Settles settles_bind)

section Decoders

variable [Json.Room]

theorem FeedEvent.settles_decode (name : Option Text) (p : Payload) :
    Settles p (FeedEvent.decode name p) := by
  have hparts : FeedEvent.decode name p = p.load.bind fun members =>
      (check (.obj (arrange name members))).decoded (subject (arrange name members)) := by
    unfold FeedEvent.decode
    cases p.load <;> rfl
  rw [hparts]
  exact settles_bind p fun _ _ => Schema.Checked.failure?_of_decoded

theorem Finalized.settles_decode (p : Payload) : Settles p (Finalized.decode p) := by
  have hparts : Finalized.decode p = p.load.bind fun members =>
      (ofLayout members).decoded fun _ => text "finalized envelope" := by
    unfold Finalized.decode
    cases p.load <;> rfl
  rw [hparts]
  exact settles_bind p fun _ _ => Schema.Checked.failure?_of_decoded

theorem HandMessage.settles_decode (gameId handId : Json) (p : Payload) :
    Settles p (HandMessage.decode gameId handId p) := by
  have hparts : HandMessage.decode gameId handId p = p.load.bind fun entry =>
      (Finalized.check (nested gameId handId entry)).decoded fun _ => text "hand message" := by
    unfold HandMessage.decode
    cases p.load <;> rfl
  rw [hparts]
  exact settles_bind p fun _ _ => Schema.Checked.failure?_of_decoded

/-- A row is checked twice: its columns, and then the envelope that they make. -/
theorem Row.settles_decode (p : Payload) : Settles p (Row.decode p) := by
  have hparts : Row.decode p = p.load.bind fun members =>
      ((ofMembers members).decoded fun _ => text "ledger row").bind Row.finalized := by
    unfold Row.decode
    cases p.load with
    | error fault => rfl
    | ok members =>
      show _ = ((ofMembers members).decoded fun _ => text "ledger row").bind Row.finalized
      dsimp only
      cases (ofMembers members).decoded fun _ => text "ledger row" <;> rfl
  rw [hparts]
  refine settles_bind p fun members fault h => ?_
  cases hrow : (ofMembers members).decoded fun _ => text "ledger row" with
  | error columns =>
    rw [hrow] at h
    cases h
    exact Schema.Checked.failure?_of_decoded hrow
  | ok row =>
    rw [hrow] at h
    exact Row.failure?_of_finalized h

end Decoders

/-- **What decoding comes to.** Whatever a payload holds and whatever room the reader has, each of
the four decoders comes to a value or to a refusal, unless reading it hits a limit. Then each of
them stops for that limit, and the payload holds a text that goes beyond it: an integer of more
digits than numerals may have stands in it, or more brackets are opened in it than values may be
nested deep. A payload that is a value comes from a read, which has kept to the limits: the texts of
its integers, which complaints and hexadecimal columns quote, are then never too long. -/
theorem decoding_settles [Json.Room] (name : Option Text) (gameId handId : Json) (p : Payload) :
    (Settles p (FeedEvent.decode name p) ∧ Settles p (Finalized.decode p)
        ∧ Settles p (Row.decode p) ∧ Settles p (HandMessage.decode gameId handId p))
      ∧ ∀ l, p.read = .error (.limit l) →
        ∃ t, p.text? = some t ∧ Json.Exceeds Json.Room.depth t l :=
  ⟨⟨FeedEvent.settles_decode name p, Finalized.settles_decode p, Row.settles_decode p,
    HandMessage.settles_decode gameId handId p⟩, fun _ => Payload.exceeds_of_read⟩

/-- The failure that stops whoever asked for a value. -/
def Decoded.failure? {α : Type} : Decoded α → Option Failure
  | .ok _ => none
  | .error fault => fault.failure?

/-- The end of a hand in a game whose id is written with so many ones. -/
def endOfHand (ones : Nat) : Text :=
  text "\x7b\"game_id\": " ++ List.replicate ones 0x31 ++ text ", \"hand_id\": 1\x7d"

/-- **A long integer is not refused.** The text keeps to the grammar, and with one digit less it
decodes. -/
theorem long_integers_are_not_refused :
    Decoded.failure? (FeedEvent.decode (some (text "hand_completed")) (.text (endOfHand 4301)))
        = some (.limit (.longInteger 4301))
      ∧ (FeedEvent.decode (some (text "hand_completed"))
          (.text (endOfHand 4300))).toOption.isSome = true := by
  constructor <;> decide +kernel

end MentalPoker
