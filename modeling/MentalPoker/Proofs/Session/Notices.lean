import MentalPoker.Proofs.Hand.Standing
import MentalPoker.Proofs.Session.Hearing

/-!
# Notices beside a gap

Envelopes wait in the gap buffer for their turn, but notices do not wait for envelopes: the narrator
hears of them at once. So a notice may be heard before the envelopes that it rests on, and a picture
takes note of it only if its hand has come to the stage that the notice belongs to.

## The crux

What the narrator heard over a run is known (`run_follows`), and it tells the picture in outline
(`Tale.stands_tellAll`). A notice that comes too early is lost for good.
-/

namespace MentalPoker

namespace Session

open SessionEffect (appliedIn)

/-! ## What is heard -/

/-- While a hand goes on no other is heard of. -/
theorem kind_of_mem_heard {settings : SessionSettings} {inputs : List SessionInput} {s : Session}
    (h : goesOn settings s inputs = true) :
    ∀ e ∈ heard settings s inputs, e.kind ≠ .handCreated := by
  induction inputs generalizing s with
  | nil => exact fun e he => nomatch he
  | cons i rest ih =>
    rw [goesOn, Bool.and_eq_true] at h
    rw [heard, List.forall_mem_append, List.forall_mem_append]
    refine ⟨⟨fun e he => ?_, fun e he => ?_⟩, ih h.2⟩
    · have hi := h.1
      cases i with
      | event e' =>
        cases e' with
        | handCreated => cases hi
        | gameEvent => cases he
        | _ =>
          rw [List.mem_singleton.mp he]
          simp [FeedEvent.kind]
      | _ => cases he
    · obtain ⟨f, _, rfl⟩ := List.mem_map.mp he
      simp [FeedEvent.kind]

/-- The narrator hears of every envelope that is released. -/
theorem mem_heard_of_applied {settings : SessionSettings} {inputs : List SessionInput}
    {s : Session} {f : Finalized} (h : f ∈ appliedIn (run settings inputs s).2) :
    .gameEvent f ∈ heard settings s inputs := by
  induction inputs generalizing s with
  | nil => cases h
  | cons i rest ih =>
    rw [run_cons, thenDo_snd, SessionEffect.appliedIn_append, List.mem_append] at h
    rw [heard, List.mem_append, List.mem_append]
    rcases h with hone | hlater
    · exact .inl (.inr (List.mem_map_of_mem hone))
    · exact .inr (ih hlater)

/-! ## What the picture shows -/

/-- The picture of a hand that goes on shows, in outline, what was heard of it. -/
theorem run_shows (settings : SessionSettings) (s : Session) (hand : HandCreated)
    {inputs : List SessionInput} (h : goesOn settings (begun settings hand s) inputs = true) :
    (run settings inputs (begun settings hand s)).1.state.Shows hand
      (heard settings (begun settings hand s) inputs) := by
  have hstands := Tale.stands_tellAll settings.deck s.tale hand (kind_of_mem_heard h)
  rw [← begun_tale, ← (run_follows settings h).2.2] at hstands
  exact hstands.picture.of_outlines ⟨rfl, rfl, rfl, fun _ => rfl⟩

/-- **Notices count from their stage on.** Take the run of one hand, and what the narrator heard of
it: notices when they came, envelopes when they were released. The hand is complete just when its
end was heard after the shuffle. Its cards lie on the table just when a blinding share was heard
before that end, as is so, once every envelope that came was released and one of them brought such a
share, unless the end was heard before the first of them. A card on the table can be read just when
a notice of it was heard since that first share, and one of the viewer's shows its face just when a
reveal of it was, and then that of the last. -/
theorem notices_count_from_their_stage_on (settings : SessionSettings) (s : Session)
    (hand : HandCreated) {inputs : List SessionInput}
    (h : goesOn settings (begun settings hand s) inputs = true) :
    let t := begun settings hand s
    let picture := (run settings (.event (.handCreated hand) :: inputs) s).1.state
    (picture.phase = .complete ↔ Completed hand (heard settings t inputs))
      ∧ (∀ slot, (Table.get? slot picture.cards).isSome = true
          ↔ slot ∈ dealOrder hand.playerCount ∧ Dealt hand (heard settings t inputs))
      ∧ ((∀ f ∈ received settings t inputs, f ∈ appliedIn (run settings inputs t).2) →
          (∃ f ∈ received settings t inputs, (FeedEvent.gameEvent f).isBlinding = true) →
          Dealt hand (heard settings t inputs)
            ∨ Completed hand ((heard settings t inputs).takeWhile fun e => !e.isBlinding))
      ∧ ∀ slot card, Table.get? slot picture.cards = some card →
          (card.decryptable = true
            ↔ ∃ e ∈ sinceDeal (heard settings t inputs), e.readies slot = true)
          ∧ (slot.seat = 0 →
              (card.revealed = true
                ↔ ∃ e ∈ sinceDeal (heard settings t inputs), (e.faceFor? slot).isSome = true)
              ∧ card.face = lastFace? slot (sinceDeal (heard settings t inputs))) := by
  intro t picture
  have hshows : picture.Shows hand (heard settings t inputs) := run_shows settings s hand h
  refine ⟨hshows.phase.complete_iff, fun slot => ?_, fun hreleased hcame => ?_,
    fun slot card hcard => ?_⟩
  · rw [← Option.isSome_map, ← HandState.marksAt]
    exact (hshows.marks slot).isSome_iff
  · obtain ⟨f, hf, hshare⟩ := hcame
    exact dealt_or_completed
      (List.any_eq_true.mpr ⟨_, mem_heard_of_applied (hreleased f hf), hshare⟩)
  · -- a card on the table bears the marks of what was heard since the deal
    have hmarks := hshows.marks slot
    rw [HandState.marksAt, hcard, Option.map_some] at hmarks
    have hcard := hmarks.eq_marksSince
    have hdecryptable := congrArg CardMarks.decryptable hcard
    have hrevealed := congrArg CardMarks.revealed hcard
    have hface := congrArg CardMarks.face hcard
    simp only [CardProgress.marks, marksSince] at hdecryptable hrevealed hface
    refine ⟨by rw [hdecryptable, List.any_eq_true], fun (hseat : slot.seat = viewerSeat) => ?_⟩
    rw [if_pos hseat] at hrevealed hface
    exact ⟨by rw [hrevealed, lastFace?_isSome], hface⟩

/-- The notices that a card of the viewer can be read, of its face, and of the end of the hand. -/
def noticesFor (index : Fin 2) : List SessionInput :=
  [.event (.cardDecryptable 1 7 0 index), .event (.holeCardDecrypted 1 7 0 index ⟨12, .spades⟩),
    .event (.handCompleted 1 7)]

/-- The notices of one card come while the share that begins the deal waits for another. -/
def earlyNotices : List SessionInput :=
  .event (.gameEvent (.ofTwo 1 (.shareAt 0))) :: noticesFor 0
    ++ [.event (.gameEvent (.ofTwo 0 (.shareAt 2)))]

/-- Then those of the other card come too. -/
def repeatedNotices : List SessionInput := earlyNotices ++ noticesFor 1

theorem notices_count_from_their_stage_on_repeated :
    goesOn .usual (begun .usual .ofTwo fresh) repeatedNotices = true
      ∧ ∀ slot card, Table.get? slot
          (run .usual (.event (.handCreated .ofTwo) :: repeatedNotices) fresh).1.state.cards
            = some card →
        (card.decryptable = true
          ↔ ∃ e ∈ sinceDeal (heard .usual (begun .usual .ofTwo fresh) repeatedNotices),
            e.readies slot = true) :=
  have hgoes : goesOn .usual (begun .usual .ofTwo fresh) repeatedNotices = true := by
    decide +kernel
  ⟨hgoes, fun slot card hcard =>
    ((notices_count_from_their_stage_on .usual fresh .ofTwo hgoes).2.2.2 slot card hcard).1⟩

/-- **Early notices are lost.** A hand of two goes on; all envelopes that came are released in the
end, and one of them brings a blinding share. Of the viewer's first card both notices came, and that
of the end of the hand, but behind a gap: the card lies on the table, cannot be read and shows no
face, and the hand is not complete. -/
theorem early_notices_are_lost :
    goesOn .usual (begun .usual .ofTwo fresh) earlyNotices = true
      ∧ (∀ f ∈ received .usual (begun .usual .ofTwo fresh) earlyNotices,
          f ∈ appliedIn (run .usual earlyNotices (begun .usual .ofTwo fresh)).2)
      ∧ (∃ f ∈ received .usual (begun .usual .ofTwo fresh) earlyNotices,
          (FeedEvent.gameEvent f).isBlinding = true)
      ∧ (.event (.cardDecryptable 1 7 0 0) ∈ earlyNotices
        ∧ .event (.holeCardDecrypted 1 7 0 0 ⟨12, .spades⟩) ∈ earlyNotices
        ∧ .event (.handCompleted 1 7) ∈ earlyNotices)
      ∧ (Table.get? ⟨0, 0⟩
          (run .usual (.event (.handCreated .ofTwo) :: earlyNotices) fresh).1.state.cards).map
            CardProgress.marks = some ⟨false, false, none⟩
      ∧ (run .usual (.event (.handCreated .ofTwo) :: earlyNotices) fresh).1.state.phase
          = .dealing :=
  ⟨by decide +kernel, by decide +kernel, by decide +kernel,
    by simp [earlyNotices, noticesFor], by decide +kernel, by decide +kernel⟩

end Session

end MentalPoker
