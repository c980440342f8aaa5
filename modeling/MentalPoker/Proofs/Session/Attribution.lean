import MentalPoker.Proofs.Hand.Receipts
import MentalPoker.Proofs.Session.Onlooker

/-!
# Where the shares of a card come from

The cards of a hand come onto the table while an envelope is applied. From this envelope on, each
card holds just the shares of the envelopes that were applied for its position in the deck: under
the key of each contributor the share of his last such envelope. A share for a position beyond the
table is held nowhere.

## The crux

A record is kept of the envelopes applied since there are cards. An envelope is put down when it is
applied, before anything is said of it; a deal that it brings begins the record with it, and what it
adds to the record it adds to the card of its position (`HandState.sharesAt_envelope`). All other
words leave the table and the record alone.

## The architecture

* **`dealRecorder`**, **`appliedSinceDeal`**: the envelopes applied since the cards were dealt.
* **`Onlooker.View.seen_hearsAll`**: the record after some words, in terms of the picture alone.
* **`Onlooker.View.Attributed`**: the table and the record agree. `Attributed.keeps` is for words
  that leave the table alone, `Attributed.applied` for an envelope.
* **`Session.shares_are_attributed`**: any run.
-/

namespace MentalPoker

/-! ## Envelopes applied since the deal -/

/-- The envelope that is applied, and those applied since the cards came onto the table, if there
are cards. -/
structure DealRecord where
  current : Option Finalized
  since : Option (List Finalized)

/-- Somebody who writes down the envelopes of a deal. He begins with the one that brought the
cards. -/
def dealRecorder : Onlooker DealRecord where
  changed r s := { r with
    since := if s.cards.isEmpty then none else some (r.since.getD r.current.toList) }
  applied r f := ⟨some f, r.since.map (· ++ [f])⟩
  cue r _ := r

/-- The envelopes applied since the cards that lie on the table came there, with the one that
brought them. -/
def appliedSinceDeal (effects : List SessionEffect) : List Finalized :=
  (dealRecorder.seesAll ⟨none, none⟩ effects).since.getD []

/-! ## What is written down -/

namespace Onlooker.View

/-- There are cards just when the record has a deal. -/
def Dated (v : View DealRecord) : Prop := v.picture.cards = [] ↔ v.seen.since = none

variable {v : View DealRecord}

/-- What the record has of a deal when a picture comes up. -/
def dealSince (r : DealRecord) (s : HandState) : Option (List Finalized) :=
  if s.cards.isEmpty then none else some (r.since.getD r.current.toList)

theorem dealSince_eq_none_iff (r : DealRecord) (s : HandState) :
    dealSince r s = none ↔ s.cards = [] := by
  unfold dealSince
  cases hcards : s.cards <;> simp

/-- A picture that comes up again leaves the record as it is. -/
theorem Dated.dealSince_eq (h : v.Dated) : dealSince v.seen v.picture = v.seen.since := by
  cases hsince : v.seen.since with
  | none => exact (dealSince_eq_none_iff v.seen v.picture).mpr (h.mpr hsince)
  | some applied =>
    have hcards : v.picture.cards.isEmpty ≠ true := fun hempty => by
      rw [h.mp (List.isEmpty_iff.mp hempty)] at hsince
      cases hsince
    rw [dealSince, if_neg hcards, hsince, Option.getD_some]

/-- A picture that comes up in between does not matter, unless cards were cleared away. -/
theorem dealSince_dealSince {r : DealRecord} {s : HandState} (h : s.cards = [] → r.since = none)
    (t : HandState) : dealSince ⟨r.current, dealSince r s⟩ t = dealSince r t := by
  have hsame : (dealSince r s).getD r.current.toList = r.since.getD r.current.toList := by
    by_cases hbare : s.cards = []
    · rw [(dealSince_eq_none_iff r s).mpr hbare, h hbare]
    · rw [dealSince, if_neg fun hempty => hbare (List.isEmpty_iff.mp hempty), Option.getD_some]
  simp only [dealSince.eq_def _ t, hsame]

/-- Where cards lie when an envelope was applied, it is the last of the record. -/
theorem dealSince_applied (r : DealRecord) (f : Finalized) {s : HandState} (h : s.cards ≠ []) :
    dealSince (dealRecorder.applied r f) s = some (r.since.getD [] ++ [f]) := by
  rw [dealSince, if_neg fun hempty => h (List.isEmpty_iff.mp hempty)]
  cases hsince : r.since <;> simp [dealRecorder, hsince]

theorem seen_hears_dispatch (h : v.Dated) (a : Action) :
    (dealRecorder.hears v (.dispatch a)).seen
      = ⟨v.seen.current, dealSince v.seen (v.picture.step a)⟩ := by
  rw [hears, HandState.step]
  cases v.picture.step? a with
  | some s => rfl
  | none =>
    show v.seen = ⟨v.seen.current, dealSince v.seen v.picture⟩
    rw [h.dealSince_eq]

theorem picture_hears_dispatch (v : View DealRecord) (a : Action) :
    (dealRecorder.hears v (.dispatch a)).picture = v.picture.step a :=
  (hearsAll_context_picture dealRecorder v [.dispatch a]).2

theorem Dated.hears (h : v.Dated) (e : Narrator.Effect) : (dealRecorder.hears v e).Dated := by
  cases e with
  | remember | cue => exact h
  | dispatch a =>
    rw [Dated, seen_hears_dispatch h, picture_hears_dispatch]
    exact (dealSince_eq_none_iff v.seen _).symm

theorem Dated.hearsAll (h : v.Dated) (effects : List Narrator.Effect) :
    (dealRecorder.hearsAll v effects).Dated := by
  induction effects generalizing v with
  | nil => exact h
  | cons e effects ih => exact ih (h.hears e)

/-- **The record after some words** in the middle of a hand. Induction along them: cards that came
up stay. -/
theorem seen_hearsAll (h : v.Dated) {effects : List Narrator.Effect}
    (hhand : ∀ a ∈ Narrator.actionsOf effects, a.beginsHand = false) :
    (dealRecorder.hearsAll v effects).seen
      = ⟨v.seen.current, dealSince v.seen (v.picture.run (Narrator.actionsOf effects))⟩ := by
  induction effects generalizing v with
  | nil =>
    show v.seen = ⟨v.seen.current, dealSince v.seen v.picture⟩
    rw [h.dealSince_eq]
  | cons e effects ih =>
    cases e with
    | remember | cue => exact ih (v := dealRecorder.hears v _) h hhand
    | dispatch a =>
      obtain ⟨ha, hrest⟩ := List.forall_mem_cons.mp hhand
      have hlater := ih (h.hears (.dispatch a)) hrest
      have honly : ∀ b ∈ [a], b.beginsHand = false := by simpa using ha
      have hbetween : (v.picture.step a).cards = [] → v.seen.since = none := fun hbare =>
        h.mp (HandState.cards_eq_nil_of_run honly hbare)
      rw [seen_hears_dispatch h, picture_hears_dispatch, dealSince_dealSince hbetween] at hlater
      exact hlater

/-- The table and the record agree: a deal in the record begins with a blinding share, and each card
of the table holds the shares of the record. -/
structure Attributed (v : View DealRecord) : Prop where
  dated : v.Dated
  laid : v.picture.Laid
  players : v.picture.playerCount = v.context.playerCount
  begins : ∀ applied, v.seen.since = some applied →
    ∃ f rest, applied = f :: rest ∧ (FeedEvent.gameEvent f).isBlinding = true
  shares : ∀ slot ∈ dealOrder v.picture.playerCount, ∀ kind,
    v.picture.sharesAt kind slot = shareTable kind slot (v.seen.since.getD [])

/-- Words that leave the table alone. -/
theorem Attributed.keeps (h : v.Attributed) (effects : List Narrator.Effect)
    (hactions : ∀ a ∈ Narrator.actionsOf effects, a.keepsTable = true)
    (hcontext : (Narrator.contextAfter v.context effects).playerCount = v.context.playerCount) :
    (dealRecorder.hearsAll v effects).Attributed := by
  have hslots : ∀ a ∈ Narrator.actionsOf effects, a.keepsSlots = true := fun a ha =>
    Action.keepsSlots_of_keepsTable (hactions a ha)
  have hhand : ∀ a ∈ Narrator.actionsOf effects, a.beginsHand = false := fun a ha =>
    Action.beginsHand_of_keepsSlots (hslots a ha)
  obtain ⟨hafter, hpicture⟩ := hearsAll_context_picture dealRecorder v effects
  have hcards := HandState.cards_eq_nil_of_keys (HandState.keys_run hslots v.picture)
  have hseen : (dealRecorder.hearsAll v effects).seen = v.seen := by
    rw [seen_hearsAll h.dated hhand]
    have hsince : dealSince v.seen (v.picture.run (Narrator.actionsOf effects))
        = v.seen.since := by
      rw [← h.dated.dealSince_eq]
      unfold dealSince
      simp only [List.isEmpty_iff, hcards]
    rw [hsince]
  have hcount := HandState.run_playerCount hhand v.picture
  refine ⟨h.dated.hearsAll effects, ?_, ?_, ?_, ?_⟩
  · rw [hpicture]
    exact HandState.run_keeps (fun _ a hs => hs.step a) h.laid _
  · rw [hpicture, hafter, hcount, hcontext]
    exact h.players
  · rw [hseen]
    exact h.begins
  · intro slot hslot kind
    rw [hpicture, hcount] at hslot
    rw [hpicture, hseen, HandState.sharesAt_run hhand fun a ha =>
      Action.shareAt?_of_keepsTable (hactions a ha) kind slot]
    exact h.shares slot hslot kind

/-- **An envelope**: what it adds to the record it adds to the card of its position. -/
theorem Attributed.applied (h : v.Attributed) (deck : List Card) (f : Finalized) :
    (dealRecorder.hearsAll { v with seen := dealRecorder.applied v.seen f }
      (Narrator.envelope deck v.context f)).Attributed := by
  have hdated : Dated { v with seen := dealRecorder.applied v.seen f } :=
    h.dated.trans Option.map_eq_none_iff.symm
  have hhand := Narrator.beginsHand_envelope deck v.context f
  have hseen := seen_hearsAll hdated hhand
  obtain ⟨hafter, hpicture⟩ := hearsAll_context_picture dealRecorder
    { v with seen := dealRecorder.applied v.seen f } (Narrator.envelope deck v.context f)
  have hcount := HandState.run_playerCount hhand v.picture
  refine ⟨hdated.hearsAll _, ?_, ?_, fun applied happlied => ?_, fun slot hslot kind => ?_⟩
  · rw [hpicture]
    exact HandState.run_keeps (fun _ a hs => hs.step a) h.laid _
  · -- the count of players stays on both sides
    have hsame : (Narrator.contextAfter v.context
        (Narrator.envelope deck v.context f)).playerCount = v.context.playerCount :=
      Narrator.contextAfter_effects_playerCount deck v.context (e := .gameEvent f) nofun
    rw [hpicture, hafter, hcount, hsame]
    exact h.players
  · rw [hseen] at happlied
    have hcards : (v.picture.run
        (Narrator.actionsOf (Narrator.envelope deck v.context f))).cards ≠ [] := fun hbare => by
      rw [(dealSince_eq_none_iff _ _).mpr hbare] at happlied
      cases happlied
    rw [dealSince_applied v.seen f hcards, Option.some.injEq] at happlied
    cases hold : v.seen.since with
    | none =>
      rw [hold] at happlied
      exact ⟨f, [], happlied.symm, HandState.isBlinding_of_cards (h.dated.mpr hold) hcards⟩
    | some old =>
      obtain ⟨first, rest, rfl, hblinding⟩ := h.begins old hold
      rw [hold] at happlied
      exact ⟨first, rest ++ [f], happlied.symm, hblinding⟩
  · rw [hpicture, hcount] at hslot
    rw [hpicture, hseen]
    by_cases hbare : (v.picture.run
        (Narrator.actionsOf (Narrator.envelope deck v.context f))).cards = []
    · rw [(dealSince_eq_none_iff _ _).mpr hbare, HandState.sharesAt_of_bare hbare]
      rfl
    · rw [dealSince_applied v.seen f hbare, Option.getD_some, shareTable_concat,
        HandState.sharesAt_envelope h.laid h.players deck f hslot kind hbare,
        h.shares slot hslot kind]

theorem Attributed.told (h : v.Attributed) (deck : List Card) {e : FeedEvent}
    (he : e.kind ≠ .gameEvent) :
    (dealRecorder.hearsAll v (Narrator.effects deck v.context e)).Attributed := by
  by_cases hhand : e.kind = .handCreated
  · cases e with
    | handCreated hand =>
      obtain ⟨hafter, hpicture⟩ := hearsAll_context_picture dealRecorder v
        (Narrator.effects deck v.context (.handCreated hand))
      obtain ⟨hbare, hcount⟩ := v.picture.run_handCreated v.context hand
      have hdated := h.dated.hearsAll (Narrator.effects deck v.context (.handCreated hand))
      have hcontext : Narrator.contextAfter v.context
          (Narrator.effects deck v.context (.handCreated hand))
          = Narrator.contextOfHand v.context hand :=
        Tale.tell_handCreated_context deck ⟨v.context, v.picture⟩ hand
      have hcards : (dealRecorder.hearsAll v
          (Narrator.effects deck v.context (.handCreated hand))).picture.cards = [] := by
        rw [hpicture]
        exact hbare
      have hsince := hdated.mp hcards
      refine ⟨hdated, ?_, ?_, fun applied happlied => ?_, fun slot _ kind => ?_⟩
      · rw [hpicture]
        exact HandState.run_keeps (fun _ a hs => hs.step a) h.laid _
      · rw [hpicture, hafter, hcontext]
        exact hcount
      · rw [hsince] at happlied
        cases happlied
      · rw [hsince, HandState.sharesAt_of_bare hcards]
        rfl
    | _ => cases hhand
  · exact h.keeps _ (Narrator.keepsTable_effects deck v.context hhand he)
      (Narrator.contextAfter_effects_playerCount deck v.context hhand)

theorem attributed_fresh (seen : DealRecord) :
    Attributed ⟨dealRecorder.changed seen .fresh, .fresh, .fresh⟩ where
  dated := ⟨fun _ => rfl, fun _ => rfl⟩
  laid := HandState.laid_fresh
  players := rfl
  begins _ h := nomatch h
  shares _ _ _ := rfl

theorem sound_attributed : dealRecorder.Sound Attributed where
  error v error h := h.keeps [.dispatch (.setError error)] (by simp [Action.keepsTable]) rfl
  key _ _ h := ⟨h.dated, h.laid, h.players, h.begins, h.shares⟩
  restart v _ := attributed_fresh v.seen
  told deck _ _ he h := h.told deck he
  applied deck _ f h := h.applied deck f

end Onlooker.View

namespace SessionEffect

/-- What the record has of a deal is the end of what was applied. Induction along the effects. -/
theorem since_suffix_appliedIn (effects : List SessionEffect) {r : DealRecord}
    {before : List Finalized} (hcurrent : r.current = before.getLast?)
    (hsince : ∀ applied, r.since = some applied → applied <:+ before) :
    ∀ applied, (dealRecorder.seesAll r effects).since = some applied →
      applied <:+ before ++ appliedIn effects := by
  induction effects generalizing r before with
  | nil =>
    rw [appliedIn_nil, List.append_nil]
    exact hsince
  | cons e effects ih =>
    cases e with
    | applied f =>
      have hmore : before ++ appliedIn (.applied f :: effects)
          = (before ++ [f]) ++ appliedIn effects := by
        rw [List.append_assoc]
        rfl
      rw [hmore]
      refine ih (r := ⟨some f, r.since.map (· ++ [f])⟩) (by simp) fun applied happlied => ?_
      obtain ⟨old, hold, rfl⟩ := Option.map_eq_some_iff.mp happlied
      obtain ⟨earlier, rfl⟩ := hsince old hold
      exact ⟨earlier, (List.append_assoc _ _ _).symm⟩
    | changed s =>
      refine ih (r := dealRecorder.changed r s) hcurrent fun applied happlied => ?_
      have hlast : r.since.getD r.current.toList <:+ before := by
        cases hold : r.since with
        | some old => exact hsince old hold
        | none =>
          rw [hcurrent, Option.getD_none]
          cases hend : before.getLast? with
          | none => exact List.nil_suffix
          | some f => exact ⟨before.dropLast, List.dropLast_append_getLast? f hend⟩
      simp only [dealRecorder] at happlied
      split at happlied
      · cases happlied
      · exact Option.some.inj happlied ▸ hlast
    | told | cue | connect | disconnect | close | recover => exact ih hcurrent hsince

/-- The envelopes of the record are the last that were applied. -/
theorem appliedSinceDeal_suffix (effects : List SessionEffect) :
    appliedSinceDeal effects <:+ appliedIn effects := by
  unfold appliedSinceDeal
  cases hsince : (dealRecorder.seesAll ⟨none, none⟩ effects).since with
  | none => exact List.nil_suffix
  | some applied =>
    have hnone : ∀ old, (none : Option (List Finalized)) = some old → old <:+ [] := nofun
    exact since_suffix_appliedIn effects rfl hnone applied hsince

end SessionEffect

namespace Onlooker.View

variable {v : View DealRecord}

theorem Attributed.exists_blinding (h : v.Attributed) (hcards : v.picture.cards ≠ []) :
    ∃ f rest, v.seen.since.getD [] = f :: rest ∧ (FeedEvent.gameEvent f).isBlinding = true := by
  cases hsince : v.seen.since with
  | none => exact absurd (h.dated.mpr hsince) hcards
  | some applied => exact h.begins applied hsince

/-- The cards lie at the slots of the table. -/
theorem Attributed.slot_mem_dealOrder (h : v.Attributed) {slot : Slot} {card : CardProgress}
    (hcard : Table.get? slot v.picture.cards = some card) :
    slot ∈ dealOrder v.picture.playerCount := by
  have hkey : slot ∈ Table.keys v.picture.cards :=
    List.mem_map_of_mem (Table.mem_of_get?_eq_some hcard)
  rcases h.laid.slots with ⟨hnone, -⟩ | ⟨hall, -⟩
  · exact absurd (hnone ▸ hkey) List.not_mem_nil
  · exact hall ▸ hkey

/-- Each card has its position in the deck among those of the table. -/
theorem Attributed.position_lt (h : v.Attributed) {slot : Slot} {card : CardProgress}
    (hcard : Table.get? slot v.picture.cards = some card) :
    2 * slot.seat + slot.index < 2 * v.picture.playerCount := by
  obtain ⟨_, hseat, hindex⟩ := mem_dealOrder.mp (h.slot_mem_dealOrder hcard)
  omega

theorem Attributed.sharesOf_eq (h : v.Attributed) {slot : Slot} {card : CardProgress}
    (hcard : Table.get? slot v.picture.cards = some card) (kind : ShareKind) :
    HandState.sharesOf kind card = shareTable kind slot (v.seen.since.getD []) := by
  rw [← HandState.sharesAt_of_get? hcard]
  exact h.shares slot (h.slot_mem_dealOrder hcard) kind

end Onlooker.View

namespace Session

theorem attributed_run (settings : SessionSettings) (inputs : List SessionInput) :
    ((run settings inputs fresh).1.view (dealRecorder.seesAll ⟨none, none⟩
      (run settings inputs fresh).2)).Attributed :=
  Onlooker.View.sound_attributed.run settings inputs fresh ⟨none, none⟩
    (Onlooker.View.attributed_fresh ⟨none, none⟩)

/-- **Whose shares a card holds.** After any inputs, let `applied` be the envelopes applied since
the cards on the table came there; they are the last that were applied, and when there are cards,
the first of them is the blinding share that brought them. Each card lies at a seat of the table.
Its table of shares of a kind has each contributor once, and holds for each the share of the last of
these envelopes that he made for the position of the card in the deck. A share for a position beyond
the table is held by no card. -/
theorem shares_are_attributed (settings : SessionSettings) (inputs : List SessionInput) :
    let s := (run settings inputs fresh).1
    let applied := appliedSinceDeal (run settings inputs fresh).2
    Function.Injective Origin.key
      ∧ applied <:+ SessionEffect.appliedIn (run settings inputs fresh).2
      ∧ (s.state.cards ≠ [] →
        ∃ f rest, applied = f :: rest ∧ (FeedEvent.gameEvent f).isBlinding = true)
      ∧ (∀ slot card, Table.get? slot s.state.cards = some card →
        (0 ≤ slot.seat ∧ slot.seat < s.state.playerCount ∧ (slot.index = 0 ∨ slot.index = 1))
        ∧ ∀ kind,
          (Table.keys (HandState.sharesOf kind card)).Nodup
          ∧ (∀ key ∈ Table.keys (HandState.sharesOf kind card),
            ∃ origin : Origin, key = origin.key)
          ∧ ∀ origin : Origin, Table.get? origin.key (HandState.sharesOf kind card)
            = lastShare? kind slot origin applied)
      ∧ ∀ (f : Finalized) kind share, f.message.share? kind = some share →
        2 * s.state.playerCount ≤ share.position.val →
        Table.get? (Slot.ofPosition share.position.val) s.state.cards = none
        ∧ ∀ slot card, Table.get? slot s.state.cards = some card →
          f.shareFor? kind slot = none := by
  intro s applied
  have hattributed := attributed_run settings inputs
  refine ⟨Origin.key_injective, SessionEffect.appliedSinceDeal_suffix _,
    hattributed.exists_blinding, fun slot card hcard => ?_, fun f kind share hshare hbeyond => ?_⟩
  · refine ⟨mem_dealOrder.mp (hattributed.slot_mem_dealOrder hcard), fun kind => ?_⟩
    have htable : HandState.sharesOf kind card = shareTable kind slot applied :=
      hattributed.sharesOf_eq hcard kind
    rw [htable]
    refine ⟨Table.nodup_keys_ofList _, fun key hkey => ?_, fun origin =>
      get?_shareTable kind slot origin applied⟩
    obtain ⟨entry, hentry, rfl⟩ := Table.exists_of_mem_keys_ofList hkey
    obtain ⟨given, _, rfl⟩ := List.mem_map.mp hentry
    exact ⟨given.1, rfl⟩
  · -- the positions of the cards come before
    have hfar {slot : Slot} {card : CardProgress}
        (hcard : Table.get? slot s.state.cards = some card) :
        (share.position.val : Int) ≠ 2 * slot.seat + slot.index := by
      have hposition : 2 * slot.seat + slot.index < 2 * s.state.playerCount :=
        hattributed.position_lt hcard
      omega
    refine ⟨?_, fun slot card hcard => ?_⟩
    · cases hcard : Table.get? (Slot.ofPosition share.position.val) s.state.cards with
      | none => rfl
      | some card =>
        have hposition := Int.mul_fdiv_add_fmod (share.position.val : Int) 2
        exact absurd hposition.symm (hfar hcard)
    · rw [Finalized.shareFor?, hshare]
      exact if_neg (hfar hcard)

/-- Two shares of nobody in particular for one card: the later one is held. -/
example :
    let s := (run .usual [.event (.handCreated .ofTwo),
      .event (.gameEvent (.ofTwo 0 (.shareAt 2))),
      .event (.gameEvent (.ofTwo 1 (.blinding ⟨2, ⟨[0x31], by decide⟩, ⟨[0x30], by decide⟩⟩)))]
      fresh).1
    s.state.sharesAt .blinding ⟨1, 0⟩ = [(Origin.nobody.key, [0x31])] := by
  decide +kernel

end Session

end MentalPoker
