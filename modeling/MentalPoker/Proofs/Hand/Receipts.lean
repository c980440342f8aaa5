import MentalPoker.Proofs.Hand.Shares
import MentalPoker.Proofs.Hand.Turns

/-!
# What an envelope writes on the cards

An envelope brings at most one share, to the card of one position in the deck, and a blinding share
may have the cards dealt first. The deal writes no share and takes none away, so what an envelope
writes is the same whether the cards came with it or lay there before.

## The architecture

* **`Finalized.shareFor?`**, **`lastShare?`**, **`shareTable`**: what envelopes bring to a slot.
* **`Action.keepsSlots`**, **`Action.keepsTable`**: actions that leave the cards where they lie, and
  those that leave their shares alone, too.
* **`Narrator.otherActions`**, **`Narrator.shareActions`**: an envelope in two parts.
* **`HandState.sharesAt_envelope`**: the two parts together.
-/

namespace MentalPoker

/-! ## Shares and contributors -/

/-- The share of a kind in a message. -/
def Message.share? : ShareKind → Message → Option Share
  | .blinding, .blinding s | .unblinding, .partialUnblinding s => some s
  | _, _ => none

/-- The share of a kind that an envelope brings to the card at a slot, with whom it comes from. The
deck gives two positions to each seat. -/
def Finalized.shareFor? (kind : ShareKind) (slot : Slot) (f : Finalized) : Option (Origin × Text) :=
  match f.message.share? kind with
  | some s =>
    if (s.position.val : Int) = 2 * slot.seat + slot.index then
      some (f.envelope.actor.origin, s.share.text)
    else none
  | none => none

/-- The last share of a kind that a contributor gave to the card at a slot. -/
def lastShare? (kind : ShareKind) (slot : Slot) (origin : Origin) (applied : List Finalized) :
    Option Text :=
  (((applied.filterMap (Finalized.shareFor? kind slot)).filter fun e => e.1 = origin).getLast?).map
    Prod.snd

/-- The shares that envelopes bring to the card at a slot, each under the key of its contributor. -/
def shareTable (kind : ShareKind) (slot : Slot) (applied : List Finalized) : Table Text Text :=
  Table.ofList ((applied.filterMap (Finalized.shareFor? kind slot)).map fun e => (e.1.key, e.2))

theorem shareTable_concat (kind : ShareKind) (slot : Slot) (applied : List Finalized)
    (f : Finalized) :
    shareTable kind slot (applied ++ [f]) =
      match f.shareFor? kind slot with
      | none => shareTable kind slot applied
      | some e => Table.insert e.1.key e.2 (shareTable kind slot applied) := by
  unfold shareTable
  rw [List.filterMap_append]
  cases hshare : f.shareFor? kind slot with
  | none => simp [hshare]
  | some e =>
    have hlast : [f].filterMap (Finalized.shareFor? kind slot) = [e] := by simp [hshare]
    rw [hlast, List.map_append]
    exact Table.ofList_concat _ _

/-- **The table in terms of contributors**, whose keys tell them apart. -/
theorem get?_shareTable (kind : ShareKind) (slot : Slot) (origin : Origin)
    (applied : List Finalized) :
    Table.get? origin.key (shareTable kind slot applied) = lastShare? kind slot origin applied := by
  unfold shareTable lastShare?
  rw [Table.get?_ofList, List.filter_map, List.getLast?_map, Option.map_map]
  have hkeys : ((fun e : Text × Text => decide (e.1 = origin.key))
      ∘ fun e : Origin × Text => (e.1.key, e.2)) = fun e => decide (e.1 = origin) := by
    funext e
    simp [Origin.key_injective.eq_iff]
  rw [hkeys]
  rfl

/-! ## What leaves the table alone -/

/-- The action neither clears nor sets the table, and brings no share. -/
def Action.keepsTable : Action → Bool
  | initGame .. | startDealing _ | shareReceived .. => false
  | _ => true

/-- The action neither clears nor sets the table. -/
def Action.keepsSlots : Action → Bool
  | initGame .. | startDealing _ => false
  | _ => true

theorem Action.keepsSlots_of_keepsTable {a : Action} (h : a.keepsTable = true) :
    a.keepsSlots = true := by
  cases a <;> first | rfl | cases h

theorem Action.beginsHand_of_keepsSlots {a : Action} (h : a.keepsSlots = true) :
    a.beginsHand = false := by
  cases a <;> first | rfl | cases h

theorem Action.shareAt?_of_keepsTable {a : Action} (h : a.keepsTable = true) (kind : ShareKind)
    (slot : Slot) : a.shareAt? kind slot = none := by
  cases a <;> first | rfl | cases h

namespace HandState

variable {s : HandState} {actions : List Action}

theorem keys_run (h : ∀ a ∈ actions, a.keepsSlots = true) (s : HandState) :
    Table.keys (s.run actions).cards = Table.keys s.cards := by
  induction actions generalizing s with
  | nil => rfl
  | cons a actions ih =>
    obtain ⟨ha, hrest⟩ := List.forall_mem_cons.mp h
    rw [run_cons, ih hrest]
    have hlayout := congrArg Prod.fst (s.step_layout a)
    cases a <;> first | exact hlayout | cases ha

theorem cards_eq_nil_of_keys {t : HandState} (h : Table.keys t.cards = Table.keys s.cards) :
    t.cards = [] ↔ s.cards = [] := by
  rw [← List.map_eq_nil_iff (f := Prod.fst), ← List.map_eq_nil_iff (f := Prod.fst) (l := s.cards)]
  exact iff_of_eq (congrArg (· = []) h)

theorem run_playerCount (h : ∀ a ∈ actions, a.beginsHand = false) (s : HandState) :
    (s.run actions).playerCount = s.playerCount := by
  induction actions generalizing s with
  | nil => rfl
  | cons a actions ih =>
    obtain ⟨ha, hrest⟩ := List.forall_mem_cons.mp h
    rw [run_cons, ih hrest]
    have htable := congrArg Prod.fst (s.step_table a)
    cases a <;> first | exact htable | cases ha

/-- Cards are not taken from the table in the middle of a hand. -/
theorem cards_eq_nil_of_run (h : ∀ a ∈ actions, a.beginsHand = false)
    (hbare : (s.run actions).cards = []) : s.cards = [] := by
  induction actions generalizing s with
  | nil => exact hbare
  | cons a actions ih =>
    obtain ⟨ha, hrest⟩ := List.forall_mem_cons.mp h
    have hnext : (s.step a).cards = [] := ih hrest hbare
    have hlayout := congrArg Prod.fst (s.step_layout a)
    have hkeys : Table.keys (s.step a).cards = [] := by rw [hnext]; rfl
    rw [hkeys] at hlayout
    rw [← List.map_eq_nil_iff (f := Prod.fst)]
    cases a with
    | initGame => cases ha
    | startDealing deck =>
      simp only at hlayout
      split at hlayout
      · next hempty => rw [List.isEmpty_iff.mp hempty.1]; rfl
      · exact hlayout.symm
    | _ => exact hlayout.symm

/-- Shares for a card that lies on the table are written down one after another. -/
theorem sharesAt_run_of_has {slot : Slot} (h : ∀ a ∈ actions, a.keepsSlots = true)
    (hhas : slot ∈ Table.keys s.cards) (kind : ShareKind) :
    (s.run actions).sharesAt kind slot
      = (actions.filterMap (Action.shareAt? kind slot)).foldl
        (fun t e => Table.insert e.1 e.2 t) (s.sharesAt kind slot) := by
  induction actions generalizing s with
  | nil => rfl
  | cons a actions ih =>
    obtain ⟨ha, hrest⟩ := List.forall_mem_cons.mp h
    have honly : ∀ b ∈ [a], b.keepsSlots = true := by simpa using ha
    have hkeys : Table.keys (s.step a).cards = Table.keys s.cards := keys_run honly s
    have hlies : Table.has slot s.cards = true := by
      rw [Table.has, Option.isSome_iff_ne_none]
      exact fun hnone => Table.get?_eq_none_iff.mp hnone hhas
    have hstep := sharesAt_step s (Action.beginsHand_of_keepsSlots ha) kind slot
    rw [run_cons, ih hrest (hkeys ▸ hhas), hstep, List.filterMap_cons]
    cases a.shareAt? kind slot with
    | none => rfl
    | some e =>
      simp only [hlies, if_true]
      rfl

end HandState

/-! ## What an envelope does to the table -/

namespace Narrator

theorem keepsTable_shuffled (c : HandContext) :
    ∀ a ∈ actionsOf (shuffled c), a.keepsTable = true := by
  cases htotal : c.shuffleTotal with
  | none =>
    simp only [shuffled, htotal]
    split <;> simp [Action.keepsTable]
  | some total =>
    simp only [shuffled, htotal]
    split <;> simp [Action.keepsTable]

theorem keepsSlots_shareReceived (c : HandContext) (kind : ShareKind) (actor : Actor) (s : Share) :
    ∀ a ∈ actionsOf (shareReceived c kind actor s), a.keepsSlots = true := by
  unfold shareReceived
  cases shareTarget? c s.position <;> simp [Action.keepsSlots]

/-- A share comes under the key of its contributor, to the card of its position. -/
theorem filterMap_shareAt?_shareReceived {c : HandContext} {slot : Slot}
    (hslot : slot ∈ dealOrder c.playerCount) (kind kind' : ShareKind) (actor : Actor) (s : Share) :
    (actionsOf (shareReceived c kind' actor s)).filterMap (Action.shareAt? kind slot)
      = if kind' = kind ∧ (s.position.val : Int) = 2 * slot.seat + slot.index then
          [(actor.origin.key, s.share.text)]
        else [] := by
  obtain ⟨hlow, hhigh, hindex⟩ := mem_dealOrder.mp hslot
  have hplace : Slot.ofPosition s.position.val = slot
      ↔ (s.position.val : Int) = 2 * slot.seat + slot.index := Slot.ofPosition_eq_iff hindex
  have hkey (r : ShareReceipt) (hr : r.contributor = some actor.contributor) :
      HandState.contributorOf r = actor.origin.key := by
    rw [HandState.contributorOf, hr, actor.contributor_eq]
    obtain ⟨x, xs, hcons⟩ := List.exists_cons_of_ne_nil actor.origin.key_ne_nil
    rw [hcons]
    rfl
  have hshare (r : ShareReceipt) (hr : r.share = some s.share.text) :
      HandState.shareOf kind' r = s.share.text := by
    rw [HandState.shareOf, hr]
    obtain ⟨x, xs, hcons⟩ := List.exists_cons_of_ne_nil s.share.text_ne_nil
    rw [hcons]
    rfl
  unfold shareReceived shareTarget?
  simp only
  by_cases htable : (Slot.ofPosition s.position.val).seat < c.playerCount
  · rw [if_pos htable]
    show ([Action.shareReceived kind' _].filterMap (Action.shareAt? kind slot)) = _
    by_cases hboth : kind' = kind ∧ (s.position.val : Int) = 2 * slot.seat + slot.index
    · rw [List.filterMap_cons, Action.shareAt?, if_pos ⟨hboth.1, hplace.mpr hboth.2⟩, if_pos hboth]
      simp only [hkey, hshare, List.filterMap_nil]
    · have hneither : ¬ (kind' = kind ∧ Slot.ofPosition s.position.val = slot) := fun h =>
        hboth ⟨h.1, hplace.mp h.2⟩
      rw [List.filterMap_cons, Action.shareAt?, if_neg hneither, if_neg hboth]
      rfl
  · -- the share is for no card of the table
    have hother : ¬ (s.position.val : Int) = 2 * slot.seat + slot.index := by
      intro heq
      rw [hplace.mpr heq] at htable
      exact htable hhigh
    rw [if_neg htable, if_neg fun hboth => hother hboth.2]
    rfl

/-- The share that an envelope brings, as it is said. -/
def shareActions (c : HandContext) (f : Finalized) : List Action :=
  match f.message with
  | .blinding s => actionsOf (shareReceived c .blinding f.envelope.actor s)
  | .partialUnblinding s => actionsOf (shareReceived c .unblinding f.envelope.actor s)
  | _ => []

/-- All that is said of an envelope before its share. -/
def otherActions (deck : List Card) (c : HandContext) (f : Finalized) : List Action :=
  .eventProcessed f.seqId ::
    match f.message with
    | .shuffle .. => actionsOf (shuffled c)
    | .blinding _ => if c.dealingStarted then [] else actionsOf (dealingStarted deck c)
    | _ => []

theorem actionsOf_envelope (deck : List Card) (c : HandContext) (f : Finalized) :
    actionsOf (envelope deck c f) = otherActions deck c f ++ shareActions c f := by
  unfold envelope otherActions shareActions
  rw [actionsOf_dispatch]
  cases f.message with
  | shuffle => exact (List.append_nil _).symm
  | blinding s =>
    simp only [actionsOf_append, List.cons_append]
    cases c.dealingStarted <;> rfl
  | partialUnblinding s => rfl
  | bet | showdown => rfl

theorem keepsSlots_shareActions (c : HandContext) (f : Finalized) :
    ∀ a ∈ shareActions c f, a.keepsSlots = true := by
  unfold shareActions
  cases f.message with
  | blinding s => exact keepsSlots_shareReceived c .blinding _ s
  | partialUnblinding s => exact keepsSlots_shareReceived c .unblinding _ s
  | shuffle | bet | showdown => simp

theorem filterMap_shareAt?_shareActions {c : HandContext} {slot : Slot}
    (hslot : slot ∈ dealOrder c.playerCount) (kind : ShareKind) (f : Finalized) :
    (shareActions c f).filterMap (Action.shareAt? kind slot)
      = ((f.shareFor? kind slot).map fun e => (e.1.key, e.2)).toList := by
  unfold shareActions Finalized.shareFor?
  cases f.message with
  | blinding s =>
    simp only [filterMap_shareAt?_shareReceived hslot]
    cases kind with
    | blinding =>
      simp only [Message.share?, true_and]
      split <;> rfl
    | unblinding => rfl
  | partialUnblinding s =>
    simp only [filterMap_shareAt?_shareReceived hslot]
    cases kind with
    | blinding => rfl
    | unblinding =>
      simp only [Message.share?, true_and]
      split <;> rfl
  | shuffle | bet | showdown => cases kind <;> rfl

/-- Of what is said before the share, only the deal changes the table, and it brings no share. -/
theorem otherActions_cases (deck : List Card) (c : HandContext) (f : Finalized) :
    ∀ a ∈ otherActions deck c f, a.keepsTable = true
      ∨ (a = .startDealing deck ∧ (FeedEvent.gameEvent f).isBlinding = true) := by
  unfold otherActions
  refine List.forall_mem_cons.mpr ⟨.inl rfl, ?_⟩
  cases hmessage : f.message with
  | shuffle => exact fun a ha => .inl (keepsTable_shuffled c a ha)
  | blinding s =>
    have hblinding : (FeedEvent.gameEvent f).isBlinding = true := by
      simp [FeedEvent.isBlinding, hmessage]
    simp only [actionsOf_dealingStarted]
    cases c.dealingStarted <;> cases c.shuffleCompleted <;> simp [Action.keepsTable, hblinding]
  | partialUnblinding s => simp
  | bet | showdown => simp

theorem beginsHand_otherActions (deck : List Card) (c : HandContext) (f : Finalized) :
    ∀ a ∈ otherActions deck c f, a.beginsHand = false := by
  intro a ha
  rcases otherActions_cases deck c f a ha with hkeeps | ⟨rfl, -⟩
  · exact Action.beginsHand_of_keepsSlots (Action.keepsSlots_of_keepsTable hkeeps)
  · rfl

theorem shareAt?_otherActions (deck : List Card) (c : HandContext) (f : Finalized)
    (kind : ShareKind) (slot : Slot) :
    ∀ a ∈ otherActions deck c f, a.shareAt? kind slot = none := by
  intro a ha
  rcases otherActions_cases deck c f a ha with hkeeps | ⟨rfl, -⟩
  · exact Action.shareAt?_of_keepsTable hkeeps kind slot
  · rfl

theorem beginsHand_envelope (deck : List Card) (c : HandContext) (f : Finalized) :
    ∀ a ∈ actionsOf (envelope deck c f), a.beginsHand = false := by
  rw [actionsOf_envelope]
  exact List.forall_mem_append.mpr ⟨beginsHand_otherActions deck c f, fun a ha =>
    Action.beginsHand_of_keepsSlots (keepsSlots_shareActions c f a ha)⟩

end Narrator

namespace HandState

variable {s : HandState} {c : HandContext}

/-- **The shares after an envelope**, when there are cards on the table by then. -/
theorem sharesAt_envelope (hlaid : s.Laid) (hplayers : s.playerCount = c.playerCount)
    (deck : List Card) (f : Finalized) {slot : Slot} (hslot : slot ∈ dealOrder s.playerCount)
    (kind : ShareKind)
    (hcards : (s.run (Narrator.actionsOf (Narrator.envelope deck c f))).cards ≠ []) :
    (s.run (Narrator.actionsOf (Narrator.envelope deck c f))).sharesAt kind slot =
      match f.shareFor? kind slot with
      | none => s.sharesAt kind slot
      | some e => Table.insert e.1.key e.2 (s.sharesAt kind slot) := by
  rw [Narrator.actionsOf_envelope, run_append] at hcards ⊢
  have hsame := sharesAt_run (Narrator.beginsHand_otherActions deck c f)
    (Narrator.shareAt?_otherActions deck c f kind slot) s
  have hcount := run_playerCount (Narrator.beginsHand_otherActions deck c f) s
  have hlater : (s.run (Narrator.otherActions deck c f)).Laid :=
    run_keeps (fun _ a h => h.step a) hlaid _
  generalize s.run (Narrator.otherActions deck c f) = t at hsame hcount hlater hcards
  have hslots := Narrator.keepsSlots_shareActions c f
  -- the cards lay there before the share came, and all slots of the table are among them
  have hlies : slot ∈ Table.keys t.cards := by
    have hthere : t.cards ≠ [] := fun hbare =>
      hcards ((cards_eq_nil_of_keys (keys_run hslots t)).mpr hbare)
    rcases hlater.slots with ⟨hnone, -⟩ | ⟨hall, -⟩
    · exact absurd (List.map_eq_nil_iff.mp hnone) hthere
    · rw [hall, hcount]
      exact hslot
  rw [sharesAt_run_of_has hslots hlies, hsame,
    Narrator.filterMap_shareAt?_shareActions (hplayers ▸ hslot)]
  cases f.shareFor? kind slot <;> rfl

end HandState

/-! ## The count of players -/

namespace Narrator

/-- Only a new hand changes the count of players. -/
theorem contextAfter_effects_playerCount (deck : List Card) (c : HandContext) {e : FeedEvent}
    (he : e.kind ≠ .handCreated) :
    (contextAfter c (effects deck c e)).playerCount = c.playerCount := by
  cases e with
  | handCreated => exact absurd rfl he
  | playerCreated gameId seat displayName publicKey =>
    simp only [effects, playerCreated]
    split <;> rfl
  | communityDecrypted | cardDecryptable | holeCardDecrypted | handCompleted => rfl
  | gameEvent f =>
    simp only [effects, envelope, contextAfter_dispatch]
    cases f.message with
    | shuffle =>
      obtain ⟨reported, hafter⟩ := contextAfter_shuffled c
      simp only [hafter]
    | blinding s =>
      simp only [contextAfter_append, contextAfter_shareReceived]
      split
      · rfl
      · rw [contextAfter_dealingStarted]
    | partialUnblinding s => simp only [contextAfter_shareReceived]
    | bet | showdown => rfl

/-- A notice leaves the table alone. -/
theorem keepsTable_effects (deck : List Card) (c : HandContext) {e : FeedEvent}
    (hhand : e.kind ≠ .handCreated) (hgame : e.kind ≠ .gameEvent) :
    ∀ a ∈ actionsOf (effects deck c e), a.keepsTable = true := by
  cases e with
  | handCreated => exact absurd rfl hhand
  | gameEvent => exact absurd rfl hgame
  | playerCreated gameId seat displayName publicKey =>
    simp only [effects, playerCreated]
    split <;> simp [say, Action.keepsTable]
  | communityDecrypted | cardDecryptable | holeCardDecrypted | handCompleted =>
    simp [effects, communityDecrypted, cardDecryptable, holeCardDecrypted, handCompleted, say,
      Action.keepsTable]

end Narrator

/-- A new hand is one of its count of players, with a bare table. -/
theorem HandState.run_handCreated (s : HandState) (c : HandContext) (hand : HandCreated) :
    (s.run (Narrator.actionsOf (Narrator.handCreated c hand))).cards = []
      ∧ (s.run (Narrator.actionsOf (Narrator.handCreated c hand))).playerCount
        = hand.playerCount := by
  rw [Narrator.actionsOf_handCreated, List.cons_append, run_cons]
  have hrest : ∀ a ∈ (.startShuffle :: (hand.shufflerCount.map fun (total : Nat) =>
      Action.shuffleProgress 0 total).toList)
      ++ [.updateStatus (text "Hand started - shuffling deck...")], a.keepsSlots = true := by
    cases hand.shufflerCount <;> simp [Action.keepsSlots]
  refine ⟨?_, ?_⟩
  · rw [cards_eq_nil_of_keys (keys_run hrest _)]
    rfl
  · rw [run_playerCount fun a ha => Action.beginsHand_of_keepsSlots (hrest a ha)]
    rfl

/-- Cards come onto a bare table only with a blinding share. -/
theorem HandState.isBlinding_of_cards {s : HandState} (hbare : s.cards = []) {deck : List Card}
    {c : HandContext} {f : Finalized}
    (hcards : (s.run (Narrator.actionsOf (Narrator.envelope deck c f))).cards ≠ []) :
    (FeedEvent.gameEvent f).isBlinding = true := by
  by_contra hother
  have hslots : ∀ a ∈ Narrator.actionsOf (Narrator.envelope deck c f), a.keepsSlots = true := by
    rw [Narrator.actionsOf_envelope]
    refine List.forall_mem_append.mpr ⟨fun a ha => ?_, Narrator.keepsSlots_shareActions c f⟩
    rcases Narrator.otherActions_cases deck c f a ha with hkeeps | ⟨-, hblinding⟩
    · exact Action.keepsSlots_of_keepsTable hkeeps
    · exact absurd hblinding hother
  exact hcards ((cards_eq_nil_of_keys (keys_run hslots s)).mpr hbare)

end MentalPoker
