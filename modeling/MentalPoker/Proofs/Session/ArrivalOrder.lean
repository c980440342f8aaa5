import MentalPoker.Proofs.Gap.Closing
import MentalPoker.Proofs.Session.Hearing

/-!
# The order of arrival

The envelopes of a hand may come in any order and any number of times, live or from rounds of
recovery, with rounds in between that fail or bring only a part. Once all of them came, none of
that shows any more: neither in the gap buffer, nor in what the narrator remembers, nor in the
picture but for its error line.

## The crux

Rounds and stalls run beside the hand, so the buffer of a run is that of its deliveries and the
tale is that of the envelopes that were released (`run_follows`). A complete series is released as
it is (`GapBuffer.deliverAll_of_complete`), so both are given by the envelopes alone:
`Brings.outcome`.
-/

namespace MentalPoker

namespace Session

open SessionEffect (appliedIn)

/-- Some inputs bring the envelopes of a hand, each at least once, and nothing else of the feed. -/
structure Brings (settings : SessionSettings) (s : Session) (content : List Finalized)
    (inputs : List SessionInput) : Prop where
  goesOn : goesOn settings s inputs = true
  silent : ∀ i ∈ inputs, i.notices = []
  all : ∀ f ∈ content, f ∈ received settings s inputs
  only : ∀ f ∈ received settings s inputs, f ∈ content

/-- **What a complete hand comes to**, given by its envelopes alone. -/
theorem Brings.outcome {settings : SessionSettings} {s : Session} {content : List Finalized}
    {inputs : List SessionInput} (h : Brings settings s content inputs)
    (hcontent : content.map Finalized.seqId = List.range content.length)
    (hs : s.buffer = .start 0) :
    (run settings inputs s).1.buffer = .start content.length
      ∧ (run settings inputs s).1.tale
        = s.tale.tellAll settings.deck (content.map .gameEvent) := by
  obtain ⟨hbuffer, happlied, htale⟩ := run_follows settings h.goesOn
  have hids : (content.map Finalized.numbered).map Prod.fst
      = GapBuffer.between 0 content.length := by
    have hnumbers := congrArg (List.map fun k : Nat => (k : Int)) hcontent
    rw [List.map_map] at hnumbers ⊢
    refine hnumbers.trans ?_
    simp [GapBuffer.between]
  have hcame : ∀ item, item ∈ GapBuffer.history (deliveries settings s inputs)
      ↔ item ∈ content.map Finalized.numbered := by
    intro item
    rw [mem_history_deliveries, List.mem_map]
    exact exists_congr fun f => and_congr_left fun _ => ⟨h.only f, h.all f⟩
  -- so the buffer releases the envelopes in their order, and the narrator hears just these
  have hdeliver := GapBuffer.deliverAll_of_complete (by omega) hids hcame
  rw [hs, hdeliver] at hbuffer happlied
  refine ⟨hbuffer, ?_⟩
  rw [htale, heard_of_silent settings h.silent, happlied, List.map_map, List.map_map]
  rfl

/-- **The order of arrival is immaterial.** From one session two runs take the announcement of a
hand, and then its envelopes in any order, any number of times each, live or from rounds of
recovery. Once all of them came in both, the gap buffers and the contexts are equal, and so are the
pictures but for the error line. -/
theorem arrival_order_is_immaterial (settings : SessionSettings) (s : Session)
    (hand : HandCreated) {content : List Finalized}
    (hcontent : content.map Finalized.seqId = List.range content.length)
    {inputs inputs' : List SessionInput}
    (h : Brings settings (begun settings hand s) content inputs)
    (h' : Brings settings (begun settings hand s) content inputs') :
    let one := (run settings (.event (.handCreated hand) :: inputs) s).1
    let other := (run settings (.event (.handCreated hand) :: inputs') s).1
    one.buffer = other.buffer ∧ one.context = other.context
      ∧ one.state.withoutError = other.state.withoutError := by
  obtain ⟨hbuffer, htale⟩ := h.outcome hcontent (begun_buffer settings hand s)
  obtain ⟨hbuffer', htale'⟩ := h'.outcome hcontent (begun_buffer settings hand s)
  have hstart (inputs : List SessionInput) :
      (run settings (.event (.handCreated hand) :: inputs) s).1
        = (run settings inputs (begun settings hand s)).1 := by
    rw [run_cons, thenDo_fst, begun]
  have hsame := htale.trans htale'.symm
  simp only [hstart]
  refine ⟨hbuffer.trans hbuffer'.symm, ?_, ?_⟩
  · exact congrArg Tale.context hsame
  · exact congrArg Tale.picture hsame

/-- Three envelopes of a hand: the share that begins the deal, and one for each other card that gets
one. -/
def threeShares : List Finalized :=
  [.ofTwo 0 (.shareAt 0), .ofTwo 1 (.shareAt 2), .ofTwo 2 (.shareAt 1)]

/-- The last envelope comes first, one round fails, and one brings what is missing and more. -/
def scatteredRun : List SessionInput :=
  [.event (.gameEvent (.ofTwo 2 (.shareAt 1))), .recovered (.error .notEnumerable),
    .event (.gameEvent (.ofTwo 0 (.shareAt 0))), .failed [],
    .event (.gameEvent (.ofTwo 2 (.shareAt 1))),
    .recovered (.ok ⟨[1], [.ofTwo 0 (.shareAt 0), .ofTwo 1 (.shareAt 2)], none⟩)]

/-- The envelopes come in their order, one of them twice. -/
def orderlyRun : List SessionInput :=
  [.event (.gameEvent (.ofTwo 0 (.shareAt 0))), .event (.gameEvent (.ofTwo 1 (.shareAt 2))),
    .event (.gameEvent (.ofTwo 1 (.shareAt 2))), .event (.gameEvent (.ofTwo 2 (.shareAt 1)))]

theorem arrival_order_is_immaterial_three_shares :
    threeShares.map Finalized.seqId = List.range threeShares.length
      ∧ Brings .usual (begun .usual .ofTwo fresh) threeShares scatteredRun
      ∧ Brings .usual (begun .usual .ofTwo fresh) threeShares orderlyRun
      ∧ (run .usual (.event (.handCreated .ofTwo) :: scatteredRun) fresh).1.state.withoutError
        = (run .usual (.event (.handCreated .ofTwo) :: orderlyRun) fresh).1.state.withoutError :=
  have hcontent : threeShares.map Finalized.seqId = List.range threeShares.length := by decide
  have hscattered : Brings .usual (begun .usual .ofTwo fresh) threeShares scatteredRun :=
    ⟨by decide +kernel, by simp [scatteredRun, SessionInput.notices], by decide +kernel,
      by decide +kernel⟩
  have horderly : Brings .usual (begun .usual .ofTwo fresh) threeShares orderlyRun :=
    ⟨by decide +kernel, by simp [orderlyRun, SessionInput.notices], by decide +kernel,
      by decide +kernel⟩
  ⟨hcontent, hscattered, horderly,
    (arrival_order_is_immaterial .usual fresh .ofTwo hcontent hscattered horderly).2.2⟩

end Session

end MentalPoker
