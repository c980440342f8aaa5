import MentalPoker.Json.Writer
import MentalPoker.Proofs.Gap.Closing
import MentalPoker.Proofs.Ledger.Answers
import MentalPoker.Proofs.Session.Rounds

/-!
# Gaps that a round of recovery fills

An envelope that arrives ahead of its turn starts a round of recovery for the numbers in front of
it. While the round is under way its hand goes on, and more may arrive. An answer that lists an
entry for every missing number closes the gap, whatever else it lists and whatever came meanwhile.

## The crux

Right after the arrival every number up to it is missing or came (`missing_or_has_arrive`). What
came is never taken back (`Has.deliverAll`), the round stays under way until its result comes
(`run_recovery`), and the result brings the rest (`Recovery.result_of_lists`). So at the end every
number up to the arrival came, and a settled buffer has moved past it (`lt_expected_of_has`).
-/

namespace MentalPoker

/-- While a hand goes on everything can be read. -/
theorem SessionInput.isReadable_of_continues {s : Session} {i : SessionInput}
    (h : i.continues s = true) : i.isReadable = true := by
  cases i with
  | kindOnly => cases h
  | _ => rfl

namespace Session

open SessionEffect (recoveriesIn)

theorem isReadable_of_goesOn {settings : SessionSettings} {inputs : List SessionInput} {s : Session}
    (h : goesOn settings s inputs = true) : ∀ i ∈ inputs, i.isReadable = true := by
  induction inputs generalizing s with
  | nil => exact fun i hi => nomatch hi
  | cons i rest ih =>
    rw [goesOn, Bool.and_eq_true] at h
    exact List.forall_mem_cons.mpr ⟨SessionInput.isReadable_of_continues h.1, ih h.2⟩

/-! ## Numbers that came -/

/-- While a hand goes on the buffer stays settled, and no number that came is taken back. -/
theorem react_has (settings : SessionSettings) {s : Session} (hs : s.buffer.Settled)
    {i : SessionInput} (h : i.continues s = true) :
    (react settings i s).1.buffer.Settled
      ∧ ∀ id, s.buffer.Has id → (react settings i s).1.buffer.Has id := by
  rw [(react_follows settings h).buffer]
  exact GapBuffer.Has.deliverAll hs _

theorem run_has (settings : SessionSettings) {s : Session} (hs : s.buffer.Settled)
    {inputs : List SessionInput} (h : goesOn settings s inputs = true) :
    (run settings inputs s).1.buffer.Settled
      ∧ ∀ id, s.buffer.Has id → (run settings inputs s).1.buffer.Has id := by
  rw [(run_follows settings h).1]
  exact GapBuffer.Has.deliverAll hs _

/-- After an arrival every number up to it came, or is missing in front of it. -/
theorem missing_or_has_react (settings : SessionSettings) {s : Session} (hs : s.buffer.Settled)
    (f : Finalized) {m : Int} (h : m ≤ f.seqId) :
    m ∈ (s.buffer.arrive f.seqId f).missing
      ∨ (react settings (.event (.gameEvent f)) s).1.buffer.Has m := by
  have hbuffer : (react settings (.event (.gameEvent f)) s).1.buffer
      = (s.buffer.deliver (.live f.seqId f)).1 := by
    rw [(react_follows settings (i := .event (.gameEvent f)) rfl).buffer]
    exact congrArg Prod.fst (GapBuffer.deliverAll_singleton _ _)
  rw [hbuffer]
  exact GapBuffer.missing_or_has_arrive hs f.seqId f h

/-- At the end of a round the envelopes that it brought came. -/
theorem has_recovered (settings : SessionSettings) {s : Session} (hs : s.buffer.Settled)
    (hround : s.recovery.isSome = true) {result : RecoveryResult} {f : Finalized}
    (h : f ∈ result.envelopes) :
    (react settings (.recovered (.ok result)) s).1.buffer.Has f.seqId := by
  have hitem : f.numbered
      ∈ (GapBuffer.Delivery.batch (result.envelopes.map Finalized.numbered)).items :=
    List.mem_map_of_mem h
  rw [(react_follows settings (i := .recovered (.ok result)) rfl).buffer,
    SessionInput.deliveries, if_pos hround, GapBuffer.deliverAll_singleton]
  exact GapBuffer.has_deliver_of_mem hs hitem

/-! ## Full answers -/

/-- The answer to a round lists every number that the round is about, in an entry that decodes. -/
def AnswersFully [Json.Room] (r : Recovery) (reply : Reply) : Prop :=
  ∃ entries, r.query.Lists reply entries
    ∧ ∀ m ∈ r.missing, ∃ entry ∈ entries, ∃ f,
        r.query.envelope? entry = some f ∧ (f.seqId : Int) = m

/-- A full answer brings every number that the round is about. -/
theorem AnswersFully.result [Json.Room] {r : Recovery} {reply : Reply} (h : AnswersFully r reply) :
    ∃ result, r.result reply = .ok result
      ∧ ∀ m ∈ r.missing, ∃ f ∈ result.envelopes, (f.seqId : Int) = m := by
  obtain ⟨entries, hlists, hall⟩ := h
  obtain ⟨envelopes, hresult, hmem⟩ := Recovery.result_of_lists hlists
  refine ⟨_, hresult, fun m hm => ?_⟩
  obtain ⟨entry, hentry, f, hf, hid⟩ := hall m hm
  exact ⟨f, (hmem f).mpr ⟨entry, hentry, hf⟩, hid⟩

/-- The gap closes, seen from the session in which the envelope arrives. -/
theorem lt_expected_of_answersFully [Json.Room] {settings : SessionSettings} {s : Session}
    (hs : s.buffer.Settled) {f : Finalized} {r : Recovery}
    (hr : roundFor f (s.buffer.arrive f.seqId f) s = some r) {meantime : List SessionInput}
    (hgoes : goesOn settings (react settings (.event (.gameEvent f)) s).1 meantime = true)
    (hrounds : ∀ i ∈ meantime, i.endsRound = false) {reply : Reply} (h : AnswersFully r reply) :
    (f.seqId : Int) < (run settings (.event (.gameEvent f) :: meantime
      ++ [.recovered (r.result reply)]) s).1.buffer.expected := by
  obtain ⟨result, hresult, hbrings⟩ := h.result
  obtain ⟨⟨_, hnone⟩, hround⟩ := roundFor_eq_some.mp hr
  -- the arrival
  obtain ⟨hsettled, -⟩ := react_has settings hs (i := .event (.gameEvent f)) rfl
  have hstarts : (react settings (.event (.gameEvent f)) s).1.recovery = some r := by
    have hrecovery := (recoveriesIn_envelope settings.deck f s).2
    rwa [hnone, hr, Option.none_or] at hrecovery
  have hfront := fun m => missing_or_has_react settings hs f (m := m)
  rw [List.cons_append, run_cons, thenDo_fst]
  generalize (react settings (.event (.gameEvent f)) s).1 = t at hsettled hstarts hfront hgoes ⊢
  -- the meantime takes nothing back, and leaves the round under way
  obtain ⟨hsettled', hkeeps⟩ := run_has settings hsettled hgoes
  have hstays := run_recovery settings hstarts hgoes hrounds
  rw [run_append, thenDo_fst, hresult]
  generalize (run settings meantime t).1 = u at hsettled' hkeeps hstays ⊢
  -- the result brings the rest
  obtain ⟨hsettled'', hkeeps'⟩ := react_has settings hsettled' (i := .recovered (.ok result)) rfl
  refine GapBuffer.lt_expected_of_has hsettled'' fun m hm => ?_
  rcases hfront m hm with hgap | hcame
  · obtain ⟨g, hg, rfl⟩ := hbrings m (by rwa [hround])
    exact has_recovered settings hsettled' (by rw [hstays, Option.isSome_some]) hg
  · exact hkeeps' m (hkeeps m hcame)

/-- **A full answer closes the gap.** Take any session, and a live envelope that starts a round of
recovery in it. The round is the only one that starts; it is for the numbers up to the envelope
that neither were released nor wait, at the address of the envelope, and makes one request, whose
range spans them all. And when its answer lists every one of these numbers, among whatever else and
whatever comes in the meantime while the hand goes on, then at the end of the round the buffer has
moved past the envelope, and an envelope of every number up to it was applied. -/
theorem full_answer_closes_gap [Json.Room] (settings : SessionSettings) {before : List SessionInput}
    (hbefore : ∀ i ∈ before, i.isReadable = true) (f : Finalized) {r : Recovery}
    (h : .recover r
      ∈ (react settings (.event (.gameEvent f)) (run settings before fresh).1).2) :
    let s := (run settings before fresh).1
    let t := (react settings (.event (.gameEvent f)) s).1
    recoveriesIn (react settings (.event (.gameEvent f)) s).2 = [r]
      ∧ (r.gameId = f.envelope.gameId ∧ r.handId = f.envelope.handId)
      ∧ (∀ m, m ∈ r.missing
          ↔ s.buffer.expected ≤ m ∧ m < f.seqId ∧ Table.get? m s.buffer.pending = none)
      ∧ (∃ low high, r.request? = some ⟨text "GET",
            text "/games/" ++ Text.ofInt r.gameId ++ text "/hands/" ++ Text.ofInt r.handId
              ++ text "/messages",
            [(text "from_sequence", Text.ofInt low), (text "to_sequence", Text.ofInt high)]⟩
          ∧ ∀ m ∈ r.missing, low ≤ m ∧ m ≤ high)
      ∧ ∀ meantime reply, goesOn settings t meantime = true →
          (∀ i ∈ meantime, i.endsRound = false) → AnswersFully r reply →
          let inputs :=
            before ++ (.event (.gameEvent f) :: meantime ++ [.recovered (r.result reply)])
          (f.seqId : Int) < (run settings inputs fresh).1.buffer.expected
            ∧ ∀ k ≤ f.seqId, ∃ g ∈ appliedSinceRestart settings fresh [] inputs, g.seqId = k := by
  intro s t
  have hs : s.buffer.Settled := (run_inStep settings hbefore inStep_fresh).settled
  have hstarts : recoveriesIn (react settings (.event (.gameEvent f)) s).2
      = (roundFor f (s.buffer.arrive f.seqId f) s).toList :=
    (recoveriesIn_envelope settings.deck f s).1
  have hr : roundFor f (s.buffer.arrive f.seqId f) s = some r := by
    have hmem := SessionEffect.mem_recoveriesIn.mpr h
    rwa [hstarts, Option.mem_toList] at hmem
  obtain ⟨⟨hgap, _⟩, hround⟩ := roundFor_eq_some.mp hr
  have hmissing : r.missing ≠ [] := by
    rw [hround]
    simpa [GapBuffer.Arrival.hasGap] using hgap
  refine ⟨by rw [hstarts, hr, Option.toList_some], ⟨by rw [hround], by rw [hround]⟩, fun m => ?_,
    Recovery.request?_covers hmissing, fun meantime reply hgoes hrounds hanswer => ?_⟩
  · rw [hround]
    exact GapBuffer.mem_missing_arrive
  · intro inputs
    have hlt : (f.seqId : Int) < (run settings inputs fresh).1.buffer.expected := by
      rw [run_append, thenDo_fst]
      exact lt_expected_of_answersFully hs hr hgoes hrounds hanswer
    refine ⟨hlt, fun k hk => ?_⟩
    have hreadable : ∀ i ∈ inputs, i.isReadable = true := by
      have hmeantime := isReadable_of_goesOn hgoes
      simp only [inputs, List.forall_mem_append, List.forall_mem_cons]
      exact ⟨hbefore, ⟨rfl, hmeantime⟩, rfl, fun i hi => nomatch hi⟩
    -- what was applied carries the numbers up to the next one, each of them
    have hids := (run_inStep settings hreadable inStep_fresh).ids
    have hmem : (k : Int) ∈ (appliedSinceRestart settings fresh [] inputs).map
        fun g => (g.seqId : Int) := by
      rw [hids, GapBuffer.mem_between]
      omega
    obtain ⟨g, hg, hid⟩ := List.mem_map.mp hmem
    exact ⟨g, hg, by omega⟩

/-- A hand of which one envelope was applied. -/
def aheadBefore : List SessionInput :=
  [.start, .opened, .event (.handCreated .ofTwo), .event (.gameEvent (.ofTwo 0 (.shareAt 0)))]

/-- The next one to arrive is number 3. -/
def aheadEnvelope : Finalized := .ofTwo 3 (.shareAt 3)

/-- The round that it starts. -/
def aheadRound : Recovery := ⟨1, 7, [1, 2]⟩

/-- While the round is under way one of the missing envelopes comes, and one far ahead. -/
def aheadMeantime : List SessionInput :=
  [.event (.gameEvent (.ofTwo 2 (.shareAt 1))), .event (.cardDecryptable 1 7 0 0),
    .event (.gameEvent (.ofTwo 9 (.shareAt 3)))]

/-- Entries in no order: one that nobody asked for, one that does not decode, and the missing ones
in two forms, one of them twice. -/
def aheadEntries : List Json :=
  [(Finalized.ofTwo 3 (.shareAt 3)).toWire, Json.object [],
    HandMessage.ofFinalized false (.ofTwo 2 (.shareAt 1)),
    HandMessage.ofFinalized true (.ofTwo 1 (.shareAt 2)),
    (Finalized.ofTwo 2 (.shareAt 1)).toWire]

def aheadReply : Reply :=
  .answered 200 (Utf8.encode (Json.write (Json.object [("messages", Json.arr aheadEntries)])))

theorem full_answer_closes_gap_two_missing :
    (∀ i ∈ aheadBefore, i.isReadable = true)
      ∧ .recover aheadRound
        ∈ (react .usual (.event (.gameEvent aheadEnvelope)) (run .usual aheadBefore fresh).1).2
      ∧ goesOn .usual
        (react .usual (.event (.gameEvent aheadEnvelope)) (run .usual aheadBefore fresh).1).1
        aheadMeantime = true
      ∧ (∀ i ∈ aheadMeantime, i.endsRound = false)
      ∧ AnswersFully aheadRound aheadReply
      ∧ 3 < (run .usual (aheadBefore ++ (.event (.gameEvent aheadEnvelope) :: aheadMeantime
        ++ [.recovered (aheadRound.result aheadReply)])) fresh).1.buffer.expected :=
  have hbefore : ∀ i ∈ aheadBefore, i.isReadable = true := by decide
  have hround : .recover aheadRound
      ∈ (react .usual (.event (.gameEvent aheadEnvelope)) (run .usual aheadBefore fresh).1).2 := by
    rw [← SessionEffect.mem_recoveriesIn]
    decide +kernel
  have hgoes : goesOn .usual
      (react .usual (.event (.gameEvent aheadEnvelope)) (run .usual aheadBefore fresh).1).1
      aheadMeantime = true := by
    decide +kernel
  have hrounds : ∀ i ∈ aheadMeantime, i.endsRound = false := by decide
  have hanswer : AnswersFully aheadRound aheadReply := by
    have hbody : Json.ofBytes
        (Utf8.encode (Json.write (Json.object [("messages", Json.arr aheadEntries)])))
          = .ok (Json.object [("messages", Json.arr aheadEntries)]) := by
      decide +kernel
    have hlisted : ∀ m ∈ aheadRound.missing, ∃ entry ∈ aheadEntries,
        ((aheadRound.query.envelope? entry).map fun f => (f.seqId : Int)) = some m := by
      decide +kernel
    have hanswered : Ledger.body aheadRound.query.request aheadReply
        = .ok (.obj [(text "messages", .arr aheadEntries)]) := by
      rw [aheadReply, Ledger.body, hbody]
      rfl
    refine ⟨aheadEntries, ⟨⟨_, hanswered, .messages rfl⟩, by decide +kernel⟩, fun m hm => ?_⟩
    obtain ⟨entry, hentry, hid⟩ := hlisted m hm
    obtain ⟨f, hf, hid⟩ := Option.map_eq_some_iff.mp hid
    exact ⟨entry, hentry, f, hf, hid⟩
  have hclosed := full_answer_closes_gap .usual hbefore aheadEnvelope hround
  ⟨hbefore, hround, hgoes, hrounds, hanswer,
    (hclosed.2.2.2.2 aheadMeantime aheadReply hgoes hrounds hanswer).1⟩

end Session

end MentalPoker
