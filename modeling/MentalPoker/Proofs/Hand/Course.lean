import Mathlib.Data.List.TakeWhile
import MentalPoker.Feed.Event
import MentalPoker.Proofs.Hand.Outline

/-!
# The course of a hand

What was heard of a hand since it was announced decides how its picture stands, in outline. Two
stages matter. The shuffle is over when the announced number of shuffles was heard, or the first
blinding share; the end of the hand is taken note of from then on. And the cards come onto the
table with the first blinding share, unless the hand has ended; notices of single cards are taken
note of from then on. What is heard before its stage is lost.

## The architecture

* **`CameWhile`**: an event came while a condition held of what came before it.
* **`shuffleOver`**, **`Completed`**, **`Dealt`**, **`sinceDeal`**: the stages.
* **`PhaseAfter`**, **`MarksAfter`**: the phase and the marks that belong to them, with a lemma for
  each way in which one more event moves them.
-/

namespace MentalPoker

/-! ## What is heard -/

namespace FeedEvent

def isShuffle : FeedEvent → Bool
  | gameEvent f => match f.message with
    | .shuffle .. => true
    | _ => false
  | _ => false

def isBlinding : FeedEvent → Bool
  | gameEvent f => match f.message with
    | .blinding _ => true
    | _ => false
  | _ => false

/-- The notice that the card at a slot can be read. -/
def readies (slot : Slot) : FeedEvent → Bool
  | cardDecryptable _ _ seat index => (⟨seat.val, index.val⟩ : Slot) = slot
  | _ => false

/-- The face that a notice brings for the card at a slot. -/
def faceFor? (slot : Slot) : FeedEvent → Option Card
  | holeCardDecrypted _ _ seat index card =>
    if (⟨seat.val, index.val⟩ : Slot) = slot then some card else none
  | _ => none

end FeedEvent

/-- An event of a kind came while a condition held of what came before it. -/
def CameWhile (P : List FeedEvent → Prop) (Q : FeedEvent → Prop) (heard : List FeedEvent) : Prop :=
  ∃ before e after, heard = before ++ e :: after ∧ P before ∧ Q e

theorem cameWhile_concat {P : List FeedEvent → Prop} {Q : FeedEvent → Prop}
    {heard : List FeedEvent} {e : FeedEvent} :
    CameWhile P Q (heard ++ [e]) ↔ CameWhile P Q heard ∨ (P heard ∧ Q e) := by
  constructor
  · rintro ⟨before, e', after, heq, hP, hQ⟩
    rcases List.eq_nil_or_concat after with rfl | ⟨after, last, rfl⟩
    · -- the event is the last one
      obtain ⟨rfl, hlast⟩ := List.append_inj' heq rfl
      cases hlast
      exact .inr ⟨hP, hQ⟩
    · have hsplit : heard ++ [e] = (before ++ e' :: after) ++ [last] := by
        rw [heq, List.append_assoc, List.cons_append, List.concat_eq_append]
      exact .inl ⟨before, e', after, (List.append_inj' hsplit rfl).1, hP, hQ⟩
  · rintro (⟨before, e', after, rfl, hP, hQ⟩ | ⟨hP, hQ⟩)
    · exact ⟨before, e', after ++ [e], by simp, hP, hQ⟩
    · exact ⟨heard, e, [], rfl, hP, hQ⟩

theorem not_cameWhile_nil {P : List FeedEvent → Prop} {Q : FeedEvent → Prop} :
    ¬ CameWhile P Q [] := by
  rintro ⟨before, e, after, heq, _⟩
  cases before <;> cases heq

/-! ## Stages -/

/-- The shuffle is over: the deal began, or as many shuffles were heard as were announced. -/
def shuffleOver (hand : HandCreated) (heard : List FeedEvent) : Bool :=
  heard.any FeedEvent.isBlinding
    || hand.shufflerCount.any fun total => total ≤ heard.countP FeedEvent.isShuffle

/-- The end of the hand was heard after the shuffle. -/
def Completed (hand : HandCreated) : List FeedEvent → Prop :=
  CameWhile (fun before => shuffleOver hand before = true) fun e => e.kind = .handCompleted

/-- The cards lie on the table: a blinding share was heard before the end of the hand. -/
def Dealt (hand : HandCreated) : List FeedEvent → Prop :=
  CameWhile (fun before => ¬ Completed hand before) fun e => e.isBlinding = true

/-- What was heard from the first blinding share on. -/
def sinceDeal (heard : List FeedEvent) : List FeedEvent := heard.dropWhile fun e => !e.isBlinding

/-- The face that the last of some notices brings for the card at a slot. -/
def lastFace? (slot : Slot) (events : List FeedEvent) : Option Card :=
  (events.filterMap (FeedEvent.faceFor? slot)).getLast?

/-- The marks that some events leave on the card at a slot. Faces show at the viewer's seat. -/
def marksSince (slot : Slot) (events : List FeedEvent) : CardMarks :=
  let face := if slot.seat = viewerSeat then lastFace? slot events else none
  ⟨events.any (FeedEvent.readies slot), face.isSome, face⟩

section Stages

variable {hand : HandCreated} {heard : List FeedEvent} {e : FeedEvent}

theorem shuffleOver_nil (hand : HandCreated) : shuffleOver hand [] = false := by
  have hpos := hand.shufflers_pos
  cases htotal : hand.shufflerCount with
  | none => simp [shuffleOver, htotal]
  | some total =>
    have := hpos total (by rw [htotal]; rfl)
    simp [shuffleOver, htotal]
    omega

/-- What is neither a shuffle nor a blinding share does not end the shuffle. -/
theorem shuffleOver_concat_of_aside (hshuffle : e.isShuffle = false)
    (hblinding : e.isBlinding = false) :
    shuffleOver hand (heard ++ [e]) = shuffleOver hand heard := by
  simp [shuffleOver, hshuffle, hblinding]

theorem shuffleOver_concat_of_isShuffle (hshuffle : e.isShuffle = true)
    (hblinding : e.isBlinding = false) :
    shuffleOver hand (heard ++ [e]) = (shuffleOver hand heard
      || hand.shufflerCount.any fun total => total ≤ heard.countP FeedEvent.isShuffle + 1) := by
  simp only [shuffleOver, List.any_append, List.countP_append, List.any_cons, hblinding,
    List.any_nil, Bool.or_false, List.countP_singleton, hshuffle, if_true]
  cases hand.shufflerCount with
  | none => simp
  | some total =>
    -- a count that was reached before is still reached
    rw [Option.any_some, Option.any_some, Bool.or_assoc, ← Bool.decide_or]
    refine congrArg _ (decide_eq_decide.mpr ?_)
    omega

theorem shuffleOver_concat_of_isBlinding (h : e.isBlinding = true) :
    shuffleOver hand (heard ++ [e]) = true := by
  simp [shuffleOver, h]

theorem shuffleOver_of_any (h : heard.any FeedEvent.isBlinding = true) :
    shuffleOver hand heard = true := by
  rw [shuffleOver, h, Bool.true_or]

theorem Completed.append (h : Completed hand heard) (more : List FeedEvent) :
    Completed hand (heard ++ more) := by
  obtain ⟨before, e, after, rfl, hover, he⟩ := h
  exact ⟨before, e, after ++ more, by simp, hover, he⟩

/-- Before the end of the hand the cards lie on the table as soon as there was a blinding share. -/
theorem dealt_of_not_completed (hblinding : heard.any FeedEvent.isBlinding = true)
    (h : ¬ Completed hand heard) : Dealt hand heard := by
  obtain ⟨e, he, hshare⟩ := List.any_eq_true.mp hblinding
  obtain ⟨before, after, rfl⟩ := List.append_of_mem he
  exact ⟨before, e, after, rfl, fun hbefore => h (hbefore.append _), hshare⟩

/-- When there was a blinding share, the cards lie on the table or the hand ended before it. -/
theorem dealt_or_completed (h : heard.any FeedEvent.isBlinding = true) :
    Dealt hand heard ∨ Completed hand (heard.takeWhile fun e => !e.isBlinding) := by
  have hsplit : (heard.takeWhile fun e => !e.isBlinding) ++ heard.dropWhile (fun e => !e.isBlinding)
      = heard := List.takeWhile_append_dropWhile
  cases hrest : heard.dropWhile fun e => !e.isBlinding with
  | nil =>
    -- then nothing was a blinding share
    obtain ⟨e, he, hshare⟩ := List.any_eq_true.mp h
    have hnone := List.dropWhile_eq_nil_iff.mp hrest e he
    rw [hshare] at hnone
    cases hnone
  | cons first rest =>
    have hfirst : first.isBlinding = true := by
      have hstops := List.head?_dropWhile_not (fun e => !FeedEvent.isBlinding e) heard
      simpa [hrest] using hstops
    by_cases hended : Completed hand (heard.takeWhile fun e => !e.isBlinding)
    · exact .inr hended
    · exact .inl ⟨_, first, rest, by rw [← hrest, hsplit], hended, hfirst⟩

theorem Dealt.any_isBlinding (h : Dealt hand heard) : heard.any FeedEvent.isBlinding = true := by
  obtain ⟨before, e, after, rfl, _, he⟩ := h
  simp [he]

theorem not_dealt_of_any_eq_false (h : heard.any FeedEvent.isBlinding = false) :
    ¬ Dealt hand heard := by
  intro hdealt
  rw [hdealt.any_isBlinding] at h
  cases h

theorem sinceDeal_concat_of_any (h : heard.any FeedEvent.isBlinding = true) (e : FeedEvent) :
    sinceDeal (heard ++ [e]) = sinceDeal heard ++ [e] := by
  have hne : (sinceDeal heard).isEmpty = false := by
    obtain ⟨b, hb, hshare⟩ := List.any_eq_true.mp h
    rw [List.isEmpty_eq_false_iff, Ne, sinceDeal, List.dropWhile_eq_nil_iff]
    intro hall
    have := hall b hb
    rw [hshare] at this
    cases this
  rw [sinceDeal, List.dropWhile_append, ← sinceDeal, hne]
  rfl

theorem sinceDeal_concat_of_not_any (h : heard.any FeedEvent.isBlinding = false)
    (he : e.isBlinding = true) : sinceDeal (heard ++ [e]) = [e] := by
  have hnil : sinceDeal heard = [] := by
    rw [sinceDeal, List.dropWhile_eq_nil_iff]
    intro b hb
    have hnone := List.any_eq_false.mp h b hb
    simpa using hnone
  rw [sinceDeal, List.dropWhile_append, ← sinceDeal, hnil]
  simp [he]

end Stages

/-! ## Phases and marks -/

/-- The phase of a hand of which some events were heard. -/
def PhaseAfter (hand : HandCreated) (heard : List FeedEvent) (phase : HandPhase) : Prop :=
  (Completed hand heard ∧ phase = .complete)
    ∨ (¬ Completed hand heard
      ∧ phase = if shuffleOver hand heard then .dealing else .shuffling)

/-- The card at a slot lies on the table. -/
def OnTable (hand : HandCreated) (heard : List FeedEvent) (slot : Slot) : Prop :=
  slot ∈ dealOrder hand.playerCount ∧ Dealt hand heard

/-- The marks at a slot, of a hand of which some events were heard. -/
def MarksAfter (hand : HandCreated) (heard : List FeedEvent) (slot : Slot)
    (marks : Option CardMarks) : Prop :=
  (OnTable hand heard slot ∧ marks = some (marksSince slot (sinceDeal heard)))
    ∨ (¬ OnTable hand heard slot ∧ marks = none)

section Shows

variable {hand : HandCreated} {heard : List FeedEvent} {e : FeedEvent}

theorem completed_concat :
    Completed hand (heard ++ [e])
      ↔ Completed hand heard ∨ (shuffleOver hand heard = true ∧ e.kind = .handCompleted) :=
  cameWhile_concat

theorem completed_concat_of_ne (h : e.kind ≠ .handCompleted) :
    Completed hand (heard ++ [e]) ↔ Completed hand heard := by
  rw [completed_concat, or_iff_left fun hend => h hend.2]

theorem dealt_concat :
    Dealt hand (heard ++ [e])
      ↔ Dealt hand heard ∨ (¬ Completed hand heard ∧ e.isBlinding = true) :=
  cameWhile_concat

theorem dealt_concat_of_not_isBlinding (h : e.isBlinding = false) :
    Dealt hand (heard ++ [e]) ↔ Dealt hand heard := by
  rw [dealt_concat, or_iff_left fun hend => by rw [h] at hend; cases hend.2]

/-- The cards come onto the table once. -/
theorem dealt_concat_of_any (h : heard.any FeedEvent.isBlinding = true) :
    Dealt hand (heard ++ [e]) ↔ Dealt hand heard := by
  rw [dealt_concat, or_iff_left_of_imp fun hend => dealt_of_not_completed h hend.1]

/-! ### Phases -/

theorem PhaseAfter.complete_iff {phase : HandPhase} (h : PhaseAfter hand heard phase) :
    phase = .complete ↔ Completed hand heard := by
  rcases h with ⟨hcompleted, rfl⟩ | ⟨hgoes, rfl⟩
  · exact iff_of_true rfl hcompleted
  · refine iff_of_false ?_ hgoes
    cases shuffleOver hand heard <;> simp

theorem PhaseAfter.ne_shuffling {phase : HandPhase} (h : PhaseAfter hand heard phase)
    (hover : shuffleOver hand heard = true) : phase ≠ .shuffling := by
  rcases h with ⟨_, rfl⟩ | ⟨_, rfl⟩
  · simp
  · simp [hover]

/-- Only shuffles, blinding shares and the end of the hand move the phase. -/
theorem PhaseAfter.aside {phase : HandPhase} (h : PhaseAfter hand heard phase)
    (hshuffle : e.isShuffle = false) (hblinding : e.isBlinding = false)
    (hend : e.kind ≠ .handCompleted) : PhaseAfter hand (heard ++ [e]) phase := by
  rw [PhaseAfter, completed_concat_of_ne hend, shuffleOver_concat_of_aside hshuffle hblinding]
  exact h

/-- The hand ends when the shuffle is over. -/
theorem PhaseAfter.handCompleted {phase : HandPhase} (h : PhaseAfter hand heard phase)
    (hend : e.kind = .handCompleted) :
    PhaseAfter hand (heard ++ [e]) (if phase = .dealing then .complete else phase) := by
  rw [PhaseAfter, completed_concat, and_iff_left hend]
  rcases h with ⟨hcompleted, rfl⟩ | ⟨hgoes, rfl⟩
  · exact .inl ⟨.inl hcompleted, rfl⟩
  · cases hover : shuffleOver hand heard with
    | true => exact .inl ⟨.inr rfl, rfl⟩
    | false =>
      have hend : shuffleOver hand (heard ++ [e]) = false := by
        cases e with
        | handCompleted => rw [shuffleOver_concat_of_aside rfl rfl, hover]
        | _ => cases hend
      refine .inr ⟨?_, ?_⟩
      · simp [hgoes]
      · rw [hend]
        rfl

/-- The shuffle ends, or goes on, in a hand that goes on. -/
theorem PhaseAfter.advance {phase : HandPhase} (h : PhaseAfter hand heard phase)
    (hend : e.kind ≠ .handCompleted) (ends : Bool)
    (hover : shuffleOver hand (heard ++ [e]) = (shuffleOver hand heard || ends)) :
    PhaseAfter hand (heard ++ [e])
      (if ends = true ∧ phase = .shuffling then .dealing else phase) := by
  rw [PhaseAfter, completed_concat_of_ne hend, hover]
  rcases h with ⟨hcompleted, rfl⟩ | ⟨hgoes, rfl⟩
  · exact .inl ⟨hcompleted, by simp⟩
  · refine .inr ⟨hgoes, ?_⟩
    cases shuffleOver hand heard <;> cases ends <;> rfl

/-! ### Marks -/

theorem MarksAfter.isSome_iff {slot : Slot} {marks : Option CardMarks}
    (h : MarksAfter hand heard slot marks) : marks.isSome = true ↔ OnTable hand heard slot := by
  rcases h with ⟨htable, rfl⟩ | ⟨htable, rfl⟩
  · exact iff_of_true rfl htable
  · exact iff_of_false Bool.false_ne_true htable

theorem MarksAfter.eq_marksSince {slot : Slot} {marks : CardMarks}
    (h : MarksAfter hand heard slot (some marks)) :
    marks = marksSince slot (sinceDeal heard) := by
  rcases h with ⟨_, hmarks⟩ | ⟨_, hmarks⟩
  · exact Option.some.inj hmarks
  · cases hmarks

theorem MarksAfter.eq_none {slot : Slot} {marks : Option CardMarks}
    (h : MarksAfter hand heard slot marks) (hdealt : ¬ Dealt hand heard) : marks = none := by
  rcases h with ⟨htable, _⟩ | ⟨_, hnone⟩
  · exact absurd htable.2 hdealt
  · exact hnone

/-- An event that brings no cards onto the table works on those that lie there. -/
theorem MarksAfter.concat {slot : Slot} {marks : Option CardMarks}
    (h : MarksAfter hand heard slot marks) (hdealt : Dealt hand (heard ++ [e]) ↔ Dealt hand heard)
    {f : CardMarks → CardMarks}
    (hf : ∀ events, marksSince slot (events ++ [e]) = f (marksSince slot events)) :
    MarksAfter hand (heard ++ [e]) slot (marks.map f) := by
  rw [MarksAfter, OnTable, hdealt]
  rcases h with ⟨htable, rfl⟩ | ⟨htable, rfl⟩
  · refine .inl ⟨htable, ?_⟩
    rw [sinceDeal_concat_of_any htable.2.any_isBlinding, hf, Option.map_some]
  · exact .inr ⟨htable, rfl⟩

/-- A last face exists when there is one at all. -/
theorem lastFace?_isSome {slot : Slot} {events : List FeedEvent} :
    (lastFace? slot events).isSome = true ↔ ∃ e ∈ events, (e.faceFor? slot).isSome = true := by
  rw [lastFace?, List.getLast?_isSome, Ne, List.filterMap_eq_nil_iff]
  simp only [not_forall, Option.ne_none_iff_isSome, exists_prop]

theorem lastFace?_concat (slot : Slot) (events : List FeedEvent) (e : FeedEvent) :
    lastFace? slot (events ++ [e]) = (e.faceFor? slot).or (lastFace? slot events) := by
  rw [lastFace?, List.filterMap_append, List.getLast?_append]
  cases hface : e.faceFor? slot <;> simp [hface, lastFace?]

/-- What is no notice of a card leaves no marks. -/
theorem marksSince_concat_of_aside {slot : Slot} (hreadies : e.readies slot = false)
    (hface : e.faceFor? slot = none) (events : List FeedEvent) :
    marksSince slot (events ++ [e]) = marksSince slot events := by
  simp [marksSince, lastFace?_concat, hreadies, hface]

/-- The cards come onto the table without marks. -/
theorem marksSince_sinceDeal_first {slot : Slot} (hfirst : heard.any FeedEvent.isBlinding = false)
    (hblinding : e.isBlinding = true) (hreadies : e.readies slot = false)
    (hface : e.faceFor? slot = none) : marksSince slot (sinceDeal (heard ++ [e])) = .none := by
  rw [sinceDeal_concat_of_not_any hfirst hblinding, ← List.nil_append [e],
    marksSince_concat_of_aside hreadies hface]
  simp [marksSince, lastFace?, CardMarks.none]

theorem marksSince_concat_cardDecryptable (slot : Slot) (events : List FeedEvent)
    (gameId handId : Nat) (seat : Fin 256) (index : Fin 2) :
    marksSince slot (events ++ [.cardDecryptable gameId handId seat index])
      = (marksSince slot events).after viewerSeat slot
        (.cardDecryptable ⟨seat.val, index.val⟩) := by
  by_cases hslot : (⟨seat.val, index.val⟩ : Slot) = slot <;>
    simp [marksSince, lastFace?_concat, FeedEvent.faceFor?, FeedEvent.readies, CardMarks.after,
      hslot]

/-- A face is kept at the viewer's seat only. -/
theorem marksSince_concat_holeCardDecrypted (slot : Slot) (events : List FeedEvent)
    (gameId handId : Nat) (seat : Fin 256) (index : Fin 2) (card : Card) :
    marksSince slot (events ++ [.holeCardDecrypted gameId handId seat index card])
      = (marksSince slot events).after viewerSeat slot
        (.cardRevealed ⟨seat.val, index.val⟩ card) := by
  by_cases hslot : (⟨seat.val, index.val⟩ : Slot) = slot <;>
    by_cases hseat : slot.seat = viewerSeat <;>
      simp [marksSince, lastFace?_concat, FeedEvent.faceFor?, FeedEvent.readies, CardMarks.after,
        hslot, hseat]

end Shows

end MentalPoker
