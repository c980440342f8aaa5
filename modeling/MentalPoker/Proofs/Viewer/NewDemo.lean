import MentalPoker.Json.Writer
import MentalPoker.Proofs.Json.Limits
import MentalPoker.Proofs.Ledger.Announcement
import MentalPoker.Proofs.Session.Forgetting
import MentalPoker.Viewer.Api

/-!
# New demos

A call for a new demo resets the walkthrough and its session, asks the ledger, and announces the
hand of the demo to the session. It is meant to end with both or with neither. Two outcomes end in
between: a demo whose ids no hand can have is ready while its hand was never announced, and a reply
that stops the call leaves the walkthrough waiting for it.

## The architecture

* **`beginHand_begins`**: what the session shows of a hand that is announced to it.
* **`stopped_cases`**: which replies stop a call.
* **`createDemo_eq`**: the call from its parts, and from it the call for each kind of reply.
* **`announced_of_idsFit`**, **`made_of_not_idsFit`**, **`unmade_of_fault`**,
  **`waiting_of_failure`**: how it ends.
* **`new_demos_all_or_nothing`**: just when it ends with both or with neither.
-/

namespace MentalPoker

/-! ## A hand that begins -/

/-- The picture shows a hand that has just begun. -/
structure HandState.Begins (hand : HandCreated) (p : HandState) : Prop where
  phase : p.phase = .shuffling
  gameId : p.gameId = some hand.gameId
  handId : p.handId = some hand.handId
  playerCount : p.playerCount = hand.playerCount

namespace Narrator

theorem begins_handCreated (c : HandContext) (hand : HandCreated) (s : HandState) :
    (s.run (actionsOf (handCreated c hand))).Begins hand := by
  cases htotal : hand.shufflerCount <;>
    simp only [handCreated, contextOfHand, htotal] <;> exact ⟨rfl, rfl, rfl, rfl⟩

theorem viewerKey_handCreated (c : HandContext) (hand : HandCreated) (s : HandState) :
    (s.run (actionsOf (handCreated c hand))).viewerKey
      = if (contextOfHand c hand).viewerKey.truthy then (contextOfHand c hand).viewerKey
        else s.viewerKey := by
  cases htotal : hand.shufflerCount <;>
    simp only [handCreated, contextOfHand, htotal] <;> rfl

/-- A key that is known before a hand begins is the key that the picture shows. -/
theorem viewerKey_known {c : HandContext} (h : c.viewerKey.truthy = true) (hand : HandCreated)
    (s : HandState) : (s.run (actionsOf (handCreated c hand))).viewerKey = c.viewerKey := by
  have hkept : (contextOfHand c hand).viewerKey = c.viewerKey := if_pos h
  rw [viewerKey_handCreated, hkept, if_pos h]

end Narrator

namespace Session

/-- The picture of a hand that is announced to a session without a past. -/
theorem state_announced (deck : List Card) (hand : HandCreated) (c : HandContext)
    (listeners : List Nat) :
    (event deck (.handCreated hand)
        { fresh with context := c, listeners := listeners }).1.state
      = HandState.fresh.run (Narrator.actionsOf (Narrator.handCreated c hand)) :=
  congrArg Session.state (followAll_fst _ _)

/-- A hand that is announced to a session without a past begins, with the viewer's key if one comes
along. -/
theorem beginHand_begins (deck : List Card) (hand : HandCreated) (key : Text)
    (listeners : List Nat) :
    let t := (beginHand deck (.handCreated hand) (some key)
      { fresh with listeners := listeners }).1
    t.state.Begins hand ∧ (key ≠ [] → t.state.viewerKey = .str key) := by
  cases key with
  | nil =>
    have hstate := state_announced deck hand .fresh listeners
    refine ⟨?_, fun hkey => absurd rfl hkey⟩
    exact hstate ▸ Narrator.begins_handCreated .fresh hand .fresh
  | cons c cs =>
    have hstate : (beginHand deck (.handCreated hand) (some (c :: cs))
        { fresh with listeners := listeners }).1.state = _ :=
      state_announced deck hand { HandContext.fresh with viewerKey := .str (c :: cs) } listeners
    refine ⟨?_, fun _ => ?_⟩
    · rw [hstate]
      exact Narrator.begins_handCreated _ hand .fresh
    · rw [hstate]
      exact Narrator.viewerKey_known rfl hand .fresh

end Session

/-! ## Replies that stop a call -/

/-- Only a request that cannot be made stops a call, or an answer that is nested too deep. -/
theorem Ledger.stopped_cases [Json.Room] {request : Request} {reply : Reply} {failure : Failure}
    (h : Ledger.body request reply = .error (.failure failure)) :
    reply = .broken failure ∨ ∃ code bytes t, reply = .answered code bytes
      ∧ (Encoding.detect bytes).decode bytes = .ok t ∧ Json.Room.depth < Json.openings t := by
  cases reply with
  | failed reason => cases h
  | broken failure' =>
    cases h
    exact .inl rfl
  | answered code bytes =>
    right
    unfold Ledger.body at h
    dsimp only at h
    split at h
    · cases h
    · cases hread : Json.ofBytes bytes with
      | ok v =>
        rw [hread] at h
        cases h
      | error fault =>
        rw [hread] at h
        cases fault with
        | limit l =>
          obtain ⟨t, hdecode, hexceeds⟩ := Json.exceeds_of_ofBytes hread
          refine ⟨code, bytes, t, rfl, hdecode, ?_⟩
          cases l with
          -- a long integer only makes it no JSON
          | longInteger n => cases h
          | deepList => exact hexceeds
          | deepObject => exact hexceeds
        | _ => cases h

theorem DemoInfo.body_of_failure [Json.Room] {reply : Reply} {failure : Failure}
    (h : DemoInfo.ofReply reply = .error (.failure failure)) :
    Ledger.body DemoInfo.request reply = .error (.failure failure) := by
  unfold DemoInfo.ofReply at h
  split at h
  · next fault hbody =>
    cases h
    exact hbody
  · split at h <;> cases h

namespace Api

open Walkthrough (Progress)

section Calls

variable [Json.Room] (s : Settings) (reply : Reply) (v : Viewer)

/-! ## The reply -/

/-- The walkthrough of a viewer, which was reset and then asked for a demo. -/
def asked (v : Viewer) : Walkthrough :=
  { Walkthrough.fresh with
    starting := true
    opened := v.walkthrough.opened
    progress := { Progress.fresh with phase := .loading } }

/-- The viewer when the reply has come. -/
def answeredBy (reply : Reply) (v : Viewer) : Viewer :=
  { v with
    walkthrough := (asked v).answered (DemoInfo.ofReply reply)
    demo := { Session.fresh with listeners := v.demo.listeners } }

/-- The reactions up to the reply. -/
def ask : Viewer × List ViewerEffect :=
  v.run s.viewer [.walkthrough .reset, .demo .reset, .walkthrough .start,
    .walkthrough (.answered (DemoInfo.ofReply reply))]

theorem ask_fst : (ask s reply v).1 = answeredBy reply v :=
  congrArg (Viewer.mk v.live ((asked v).answered (DemoInfo.ofReply reply)))
    (Session.reset_fst v.demo)

/-- The call, put together from its parts. -/
theorem createDemo_eq :
    createDemo s reply v =
      match (ask s reply v).1.walkthrough.progress.error, (ask s reply v).1.walkthrough.info with
      | some message, _ => ((ask s reply v).1, (ask s reply v).2, .detail 502 message)
      | none, none => ((ask s reply v).1, (ask s reply v).2, .failure)
      | none, some info =>
        ((announce s info (ask s reply v).1).1,
          (ask s reply v).2 ++ (announce s info (ask s reply v).1).2.1,
          (announce s info (ask s reply v).1).2.2) :=
  rfl

variable {s reply v}

theorem createDemo_ok {info : DemoInfo} (h : DemoInfo.ofReply reply = .ok info) :
    createDemo s reply v =
      ((announce s info (answeredBy reply v)).1,
        (ask s reply v).2 ++ (announce s info (answeredBy reply v)).2.1,
        (announce s info (answeredBy reply v)).2.2) := by
  have herror : (answeredBy reply v).walkthrough.progress.error = none := by
    rw [answeredBy, h]
    rfl
  have hinfo : (answeredBy reply v).walkthrough.info = some info := by
    rw [answeredBy, h]
    rfl
  rw [createDemo_eq, ask_fst, herror, hinfo]

theorem createDemo_fault {fault : LedgerFault}
    (h : DemoInfo.ofReply reply = .error (.ledger fault)) :
    createDemo s reply v = (answeredBy reply v, (ask s reply v).2, .detail 502 fault.message) := by
  have herror : (answeredBy reply v).walkthrough.progress.error = some fault.message := by
    rw [answeredBy, h]
    rfl
  rw [createDemo_eq, ask_fst, herror]

theorem createDemo_failure {failure : Failure}
    (h : DemoInfo.ofReply reply = .error (.failure failure)) :
    createDemo s reply v = (answeredBy reply v, (ask s reply v).2, .failure) := by
  have herror : (answeredBy reply v).walkthrough.progress.error = none := by
    rw [answeredBy, h]
    rfl
  have hinfo : (answeredBy reply v).walkthrough.info = none := by
    rw [answeredBy, h]
    rfl
  rw [createDemo_eq, ask_fst, herror, hinfo]

/-! ## How the call ends -/

/-- The session of the walkthrough is as it was built, but for who listens. -/
def Cleared (v t : Viewer) : Prop :=
  t.demo = { Session.fresh with listeners := v.demo.listeners }

/-- The walkthrough is ready with the demo. -/
structure Made (info : DemoInfo) (t : Viewer) : Prop where
  progress : t.walkthrough.progress = .ready info.ids
  info : t.walkthrough.info = some info

/-- The session shows the hand of the demo, which has begun. -/
structure Announced (info : DemoInfo) (t : Viewer) : Prop where
  phase : t.demo.state.phase = .shuffling
  gameId : t.demo.state.gameId = some info.gameId
  handId : t.demo.state.handId = some info.handId
  players : 1 ≤ t.demo.state.playerCount ∧ t.demo.state.playerCount ≤ mostSeats
  viewerKey : info.viewerKey ≠ [] → t.demo.state.viewerKey = .str info.viewerKey

/-- No demo was made, and the user may ask again. -/
structure Unmade (t : Viewer) : Prop where
  phase : t.walkthrough.progress.phase = .idle
  demo : t.walkthrough.progress.demo = none

/-- The walkthrough shows that it waits for a reply that has come already. -/
structure Waiting (t : Viewer) : Prop where
  phase : t.walkthrough.progress.phase = .loading
  demo : t.walkthrough.progress.demo = none

/-- The call made a demo and announced its hand, or it did neither. -/
def AllOrNothing (reply : Reply) (v t : Viewer) : Prop :=
  (∃ info, DemoInfo.ofReply reply = .ok info ∧ Made info t ∧ Announced info t)
    ∨ Unmade t ∧ Cleared v t

theorem made_answeredBy {info : DemoInfo} (h : DemoInfo.ofReply reply = .ok info) :
    Made info (answeredBy reply v) := by
  rw [answeredBy, h]
  exact ⟨rfl, rfl⟩

/-- The ids fit: the hand is announced. -/
theorem announced_of_idsFit {info : DemoInfo} (h : info.IdsFit)
    (hreply : DemoInfo.ofReply reply = .ok info) :
    Made info (createDemo s reply v).1 ∧ Announced info (createDemo s reply v).1 := by
  have hannounce : announce s info (answeredBy reply v)
      = after s [.demo (.beginHand (.handCreated info.hand) (some info.viewerKey))] demoAnswer
        (answeredBy reply v) := by
    rw [announce, DemoInfo.toHandCreated_of_idsFit h]
  rw [createDemo_ok hreply, hannounce]
  have hmade := made_answeredBy (v := v) hreply
  obtain ⟨hbegins, hkey⟩ :=
    Session.beginHand_begins s.viewer.demo.deck info.hand info.viewerKey v.demo.listeners
  refine ⟨⟨hmade.progress, hmade.info⟩, hbegins.phase, ?_, ?_, ?_, hkey⟩
  · exact hbegins.gameId.trans (congrArg some (Int.toNat_of_nonneg h.1))
  · exact hbegins.handId.trans (congrArg some (Int.toNat_of_nonneg h.2))
  · have hcount := hbegins.playerCount
    have hfits := info.playerCount_fits
    refine hcount ▸ ⟨?_, ?_⟩
    · exact Int.ofNat_le.mpr hfits.1
    · exact Int.ofNat_le.mpr hfits.2

/-- The ids do not fit: the walkthrough is ready, but the hand is not announced. -/
theorem made_of_not_idsFit {info : DemoInfo} (h : ¬ info.IdsFit)
    (hreply : DemoInfo.ofReply reply = .ok info) :
    let r := createDemo s reply v
    Made info r.1 ∧ Cleared v r.1 ∧ r.2.2 = .failure := by
  have hannounce : announce s info (answeredBy reply v) = (answeredBy reply v, [], .failure) := by
    unfold announce
    split
    · rfl
    · next hand hgood => exact absurd (DemoInfo.idsFit_of_toHandCreated hgood) h
  rw [createDemo_ok hreply, hannounce]
  exact ⟨made_answeredBy hreply, rfl, rfl⟩

/-- A fault of the ledger: there is no demo. -/
theorem unmade_of_fault {fault : LedgerFault}
    (h : DemoInfo.ofReply reply = .error (.ledger fault)) :
    let r := createDemo s reply v
    Unmade r.1 ∧ Cleared v r.1 := by
  rw [createDemo_fault h, answeredBy, h]
  exact ⟨⟨rfl, rfl⟩, rfl⟩

/-- A failure: the walkthrough was never told. -/
theorem waiting_of_failure {failure : Failure}
    (h : DemoInfo.ofReply reply = .error (.failure failure)) :
    let r := createDemo s reply v
    Waiting r.1 ∧ Cleared v r.1 ∧ r.2.2 = .failure := by
  rw [createDemo_failure h, answeredBy, h]
  exact ⟨⟨rfl, rfl⟩, rfl, rfl⟩

end Calls

/-! ## All or nothing -/

theorem Cleared.not_announced {v t : Viewer} {info : DemoInfo} (h : Cleared v t) :
    ¬ Announced info t := by
  intro hannounced
  have hidle : t.demo.state.phase = .idle := by rw [h]; rfl
  cases hidle.symm.trans hannounced.phase

theorem Made.not_unmade {info : DemoInfo} {t : Viewer} (h : Made info t) : ¬ Unmade t := by
  intro hunmade
  cases (congrArg Progress.phase h.progress).symm.trans hunmade.phase

/-- **A demo is made and announced, or not made at all**, unless its ids are such as no hand has, or
a failure stops the call. In the first case the walkthrough is ready while its session is as it was
built; in the second one the walkthrough goes on waiting. And a failure comes of a request that
cannot be made, or of an answer that is nested deeper than the reader has room for. -/
theorem new_demos_all_or_nothing [Json.Room] (s : Settings) (now : Int) (reply : Reply)
    (v : Viewer) :
    let r := respond s now reply v .createDemo
    (AllOrNothing reply v r.1 ↔
        (∀ info, DemoInfo.ofReply reply = .ok info → info.IdsFit)
          ∧ ∀ failure, DemoInfo.ofReply reply ≠ .error (.failure failure))
      ∧ (∀ info, DemoInfo.ofReply reply = .ok info → ¬ info.IdsFit →
          Made info r.1 ∧ Cleared v r.1 ∧ r.2.2 = .failure)
      ∧ ∀ failure, DemoInfo.ofReply reply = .error (.failure failure) →
          Waiting r.1 ∧ Cleared v r.1 ∧ r.2.2 = .failure
            ∧ (reply = .broken failure ∨ ∃ code bytes t, reply = .answered code bytes
              ∧ (Encoding.detect bytes).decode bytes = .ok t
              ∧ Json.Room.depth < Json.openings t) := by
  intro r
  refine ⟨⟨fun h => ⟨fun info hreply => ?_, fun failure hreply => ?_⟩, fun ⟨hfits, hstops⟩ => ?_⟩,
    fun info hreply hfits => made_of_not_idsFit hfits hreply, fun failure hreply => ?_⟩
  · refine Decidable.byContradiction fun hfits => ?_
    obtain ⟨hmade, hcleared, _⟩ := made_of_not_idsFit (s := s) (v := v) hfits hreply
    rcases h with ⟨_, _, _, hannounced⟩ | ⟨hunmade, _⟩
    · exact hcleared.not_announced hannounced
    · exact hmade.not_unmade hunmade
  · obtain ⟨hwaiting, _⟩ := waiting_of_failure (s := s) (v := v) hreply
    rcases h with ⟨_, hgood, _⟩ | ⟨hunmade, _⟩
    · cases hreply.symm.trans hgood
    · cases hwaiting.phase.symm.trans hunmade.phase
  · cases hreply : DemoInfo.ofReply reply with
    | ok info => exact .inl ⟨info, hreply, announced_of_idsFit (hfits info hreply) hreply⟩
    | error fault =>
      cases fault with
      | ledger fault => exact .inr (unmade_of_fault hreply)
      | failure failure => exact absurd hreply (hstops failure)
  · obtain ⟨hwaiting, hcleared, hanswer⟩ := waiting_of_failure (s := s) (v := v) hreply
    exact ⟨hwaiting, hcleared, hanswer, Ledger.stopped_cases (DemoInfo.body_of_failure hreply)⟩

/-- What the ledger may answer: nothing forbids a negative id. -/
def strangeReply : Reply :=
  .answered 200 (Utf8.encode (Json.write (Json.object [
    ("demo_id", .lit "0b7c9a52-1d3e-4f6a-8b2c-9e0d1f2a3b4c"),
    ("game_id", .int (-1)),
    ("hand_id", .int 3),
    ("viewer_public_key", .lit "0xbeef")])))

/-- A demo with an id that no hand has is ready, while its session is as it was built. -/
theorem strange_demos_are_half_made :
    let r := respond ⟨⟨.ofRoot (text "http://ledger"), .usual⟩, .notConfigured⟩ 0 strangeReply
      .fresh .createDemo
    r.1.walkthrough.progress.phase = .ready
      ∧ r.1.walkthrough.progress.demo.map (·.gameId) = some (-1)
      ∧ r.1.demo.state = .fresh
      ∧ r.2.2 = .failure
      ∧ ¬ AllOrNothing strangeReply .fresh r.1 := by
  have hphase : (respond ⟨⟨.ofRoot (text "http://ledger"), .usual⟩, .notConfigured⟩ 0 strangeReply
      .fresh .createDemo).1.walkthrough.progress.phase = .ready := by decide +kernel
  have hstate : (respond ⟨⟨.ofRoot (text "http://ledger"), .usual⟩, .notConfigured⟩ 0 strangeReply
      .fresh .createDemo).1.demo.state = .fresh := by decide +kernel
  refine ⟨hphase, by decide +kernel, hstate, by decide +kernel, ?_⟩
  rintro (⟨info, _, _, hannounced⟩ | ⟨hunmade, _⟩)
  · cases (congrArg HandState.phase hstate).symm.trans hannounced.phase
  · cases hphase.symm.trans hunmade.phase

end Api

end MentalPoker
