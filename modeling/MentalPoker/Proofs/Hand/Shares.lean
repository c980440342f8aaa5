import MentalPoker.Envelope.Actor
import MentalPoker.Envelope.Hex
import MentalPoker.Proofs.Hand.Growth
import MentalPoker.Proofs.Hand.Layout

/-!
# Whose shares a card holds

A card keeps the shares of each kind in a table, under a key of whoever contributed them. The keys
tell all contributors apart: the seats of players, the ids of shufflers, and nobody in particular.
An action writes at most one share, to one card, and only if that card lies on the table.

## The architecture

* **`Origin`**, **`Actor.contributor_eq`**: who can contribute, and `Origin.key_injective`.
* **`Table.get?_ofList`**: of the entries with one key the last counts.
* **`HandState.sharesAt`**: the shares at a slot; `sharesAt_step` is one action. The deal itself
  changes them nowhere, since there are none where it brings a card.
-/

namespace MentalPoker

/-! ## Numerals -/

namespace Text

/-- The numeral tells the number. -/
theorem ofNat_injective : Function.Injective ofNat := by
  intro m n h
  have hdigits : Nat.toDigits 10 m = Nat.toDigits 10 n :=
    List.map_injective_iff.mpr (fun _ _ => Char.toNat_inj.mp) h
  rw [← Nat.ofDigitChars_ten_toDigits (n := m), hdigits, Nat.ofDigitChars_ten_toDigits]

/-- No numeral of a natural number begins with a minus sign. -/
theorem ofNat_ne_minus (m : Nat) (t : Text) : ofNat m ≠ 0x2d :: t := by
  intro h
  have hmem : 0x2d ∈ ofNat m := by
    rw [h]
    exact List.mem_cons_self
  obtain ⟨c, hc, hminus⟩ := List.mem_map.mp hmem
  have hdigit := Nat.isDigit_of_mem_toDigits (by decide) (by decide) hc
  have hchar : c = '-' := Char.toNat_inj.mp hminus
  rw [hchar] at hdigit
  revert hdigit
  decide

theorem ofInt_injective : Function.Injective ofInt := by
  intro a b h
  cases a with
  | ofNat m =>
    cases b with
    | ofNat n => exact congrArg Int.ofNat (ofNat_injective h)
    | negSucc n => exact absurd h (ofNat_ne_minus m _)
  | negSucc m =>
    cases b with
    | ofNat n => exact absurd h.symm (ofNat_ne_minus n _)
    | negSucc n =>
      have hnext : m + 1 = n + 1 := ofNat_injective (List.cons.inj h).2
      exact congrArg Int.negSucc (Nat.succ.inj hnext)

end Text

/-! ## Contributors -/

/-- Who contributes a share: a player at a seat, a shuffler, or nobody in particular. -/
inductive Origin where
  | seat (seat : Fin 256)
  | shuffler (id : Int)
  | nobody
  deriving DecidableEq

namespace Origin

/-- The key under which the shares of a contributor are kept. -/
def key : Origin → Text
  | seat s => text "seat:" ++ Text.ofNat s.val
  | shuffler id => text "shuffler:" ++ Text.ofInt id
  | nobody => text "none"

/-- **The keys tell contributors apart**, also a player and a shuffler with one number. -/
theorem key_injective : Function.Injective key := by
  -- keys of different kinds differ in their first or second letter
  intro a b h
  cases a with
  | seat s =>
    cases b with
    | seat t =>
      have hnumeral := List.append_cancel_left h
      exact congrArg seat (Fin.ext (Text.ofNat_injective hnumeral))
    | shuffler id => exact absurd (List.cons.inj (List.cons.inj h).2).1 (by decide)
    | nobody => exact absurd (List.cons.inj h).1 (by decide)
  | shuffler id =>
    cases b with
    | seat t => exact absurd (List.cons.inj (List.cons.inj h).2).1 (by decide)
    | shuffler id' =>
      have hnumeral := List.append_cancel_left h
      exact congrArg shuffler (Text.ofInt_injective hnumeral)
    | nobody => exact absurd (List.cons.inj h).1 (by decide)
  | nobody =>
    cases b with
    | seat t => exact absurd (List.cons.inj h).1 (by decide)
    | shuffler id => exact absurd (List.cons.inj h).1 (by decide)
    | nobody => rfl

theorem key_ne_nil (o : Origin) : o.key ≠ [] := by
  cases o <;> exact List.cons_ne_nil _ _

end Origin

/-- Who an actor is to a card. -/
def Actor.origin (a : Actor) : Origin :=
  match a.kind with
  | .player => a.seatId.elim .nobody .seat
  | .shuffler => a.shufflerId.elim .nobody .shuffler
  | .none => .nobody

/-- The shares of an actor are kept under the key of who he is: a player has a seat and a shuffler
has an id. -/
theorem Actor.contributor_eq (a : Actor) : a.contributor = a.origin.key := by
  have hcomplete := a.complete
  unfold contributor origin
  cases hkind : a.kind with
  | none => rfl
  | player =>
    cases hseat : a.seatId with
    | some s => rfl
    | none => simp [hkind, hseat, complaint?] at hcomplete
  | shuffler =>
    cases hid : a.shufflerId with
    | some id => rfl
    | none => simp [hkind, hid, complaint?] at hcomplete

theorem Hex.text_ne_nil (h : Hex) : h.text ≠ [] := by
  intro hnil
  have hvalid := h.valid
  rw [hnil] at hvalid
  exact absurd hvalid (by decide)

/-! ## Tables of entries -/

namespace Table

variable {κ : Type u} {α : Type v} [DecidableEq κ]

theorem ofList_concat (entries : List (κ × α)) (entry : κ × α) :
    ofList (entries ++ [entry]) = insert entry.1 entry.2 (ofList entries) :=
  List.foldl_concat _ _ _ _

/-- **Of the entries with one key the last counts.** -/
theorem get?_ofList (k : κ) (entries : List (κ × α)) :
    get? k (ofList entries) = ((entries.filter fun e => e.1 = k).getLast?).map Prod.snd := by
  induction entries using List.reverseRecOn with
  | nil => rfl
  | append_singleton entries entry ih =>
    rw [ofList_concat, get?_insert, List.filter_append]
    by_cases hk : k = entry.1
    · have hlast : [entry].filter (fun e => e.1 = k) = [entry] := by simp [hk]
      rw [if_pos hk, hlast, List.getLast?_concat]
      rfl
    · have hnone : [entry].filter (fun e => e.1 = k) = [] := by simp [Ne.symm hk]
      rw [if_neg hk, hnone, List.append_nil, ih]

/-- Every key stands once. -/
theorem nodup_keys_ofList (entries : List (κ × α)) : (keys (ofList entries)).Nodup := by
  induction entries using List.reverseRecOn with
  | nil => exact List.nodup_nil
  | append_singleton entries entry ih =>
    rw [ofList_concat]
    exact nodup_keys_insert _ _ ih

/-- The keys are those of the entries. -/
theorem mem_keys_ofList {k : κ} {entries : List (κ × α)} :
    k ∈ keys (ofList entries) ↔ k ∈ entries.map Prod.fst := by
  induction entries using List.reverseRecOn with
  | nil => rfl
  | append_singleton entries entry ih =>
    rw [ofList_concat, keys_insert, List.map_append, List.mem_append, List.map_singleton,
      List.mem_singleton, ← ih]
    -- a key that is there already is not written again
    split
    · next hthere => exact ⟨.inl, fun h => h.elim id fun hk => hk ▸ hthere⟩
    · rw [List.mem_append, List.mem_singleton]

/-- Every key is that of an entry. -/
theorem exists_of_mem_keys_ofList {k : κ} {entries : List (κ × α)}
    (h : k ∈ keys (ofList entries)) : ∃ entry ∈ entries, entry.1 = k :=
  List.mem_map.mp (mem_keys_ofList.mp h)

end Table

/-! ## Shares at a slot -/

/-- The share that an action brings to a slot, with the key that it is kept under. -/
def Action.shareAt? (kind : ShareKind) (slot : Slot) : Action → Option (Text × Text)
  | shareReceived k r =>
    if k = kind ∧ r.slot = slot then
      some (HandState.contributorOf r, HandState.shareOf k r)
    else none
  | _ => none

/-- A share is written under its key, and nothing else changes the shares of a card. -/
theorem Action.sharesOf_onCard (kind : ShareKind) (viewer : Int) (slot : Slot)
    (card : CardProgress) (a : Action) :
    HandState.sharesOf kind (a.onCard viewer slot card)
      = match a.shareAt? kind slot with
        | none => HandState.sharesOf kind card
        | some e => Table.insert e.1 e.2 (HandState.sharesOf kind card) := by
  by_cases ha : a.target? = some slot
  · rw [onCard_of_target?_eq ha]
    cases a with
    | shareReceived k r =>
      have hslot : r.slot = slot := Option.some.inj ha
      cases k <;> cases kind <;> simp [mark, shareAt?, hslot, HandState.addShare,
        HandState.sharesOf]
    | cardRevealed k face =>
      simp only [mark, shareAt?]
      split <;> cases kind <;> rfl
    | _ => cases kind <;> rfl
  · rw [onCard_of_target?_ne ha]
    cases a with
    | shareReceived k r =>
      have hslot : r.slot ≠ slot := fun h => ha (congrArg some h)
      simp [shareAt?, hslot]
    | _ => rfl

namespace HandState

/-- The shares of a kind that the card at a slot holds; none if no card lies there. -/
def sharesAt (s : HandState) (kind : ShareKind) (slot : Slot) : Table Text Text :=
  ((Table.get? slot s.cards).map (sharesOf kind)).getD []

theorem sharesAt_of_get? {s : HandState} {slot : Slot} {card : CardProgress}
    (h : Table.get? slot s.cards = some card) (kind : ShareKind) :
    s.sharesAt kind slot = sharesOf kind card := by
  rw [sharesAt, h]
  rfl

theorem sharesAt_of_bare {s : HandState} (h : s.cards = []) (kind : ShareKind) (slot : Slot) :
    s.sharesAt kind slot = [] := by
  rw [sharesAt, h]
  rfl

/-- **The shares after any action** but a new hand: a share is written if a card lies at
its slot. -/
theorem sharesAt_step (s : HandState) {a : Action} (ha : a.beginsHand = false) (kind : ShareKind)
    (slot : Slot) :
    (s.step a).sharesAt kind slot =
      match a.shareAt? kind slot with
      | none => s.sharesAt kind slot
      | some e =>
        if Table.has slot s.cards then Table.insert e.1 e.2 (s.sharesAt kind slot)
        else s.sharesAt kind slot := by
  have hworked {a : Action} (hget : Table.get? slot (s.step a).cards
      = (Table.get? slot s.cards).map fun card => a.onCard s.viewerSeat slot card) :
      (s.step a).sharesAt kind slot =
        match a.shareAt? kind slot with
        | none => s.sharesAt kind slot
        | some e =>
          if Table.has slot s.cards then Table.insert e.1 e.2 (s.sharesAt kind slot)
          else s.sharesAt kind slot := by
    rw [sharesAt, hget, sharesAt, Table.has]
    cases Table.get? slot s.cards with
    | none => cases a.shareAt? kind slot <;> rfl
    | some card =>
      simp only [Option.map_some, Option.getD_some, Option.isSome_some, if_true]
      exact a.sharesOf_onCard kind s.viewerSeat slot card
  have hget := get?_cards_step s a slot
  cases a with
  | initGame => cases ha
  | startDealing deck =>
    simp only at hget
    split at hget
    · next hbare =>
      -- there was no card, and the cards that come hold no shares
      have hbefore : s.sharesAt kind slot = [] :=
        sharesAt_of_bare (List.isEmpty_iff.mp hbare.1) kind slot
      show (s.step (.startDealing deck)).sharesAt kind slot = s.sharesAt kind slot
      rw [hbefore, sharesAt, hget, get?_seededCards]
      split
      · cases kind <;> rfl
      · rfl
    · show (s.step (.startDealing deck)).sharesAt kind slot = s.sharesAt kind slot
      rw [sharesAt, hget, sharesAt]
  | _ => exact hworked hget

/-- Actions that neither begin a hand nor bring a share to the slot. Induction along them. -/
theorem sharesAt_run {actions : List Action} {kind : ShareKind} {slot : Slot}
    (hhand : ∀ a ∈ actions, a.beginsHand = false)
    (hshare : ∀ a ∈ actions, a.shareAt? kind slot = none) (s : HandState) :
    (s.run actions).sharesAt kind slot = s.sharesAt kind slot := by
  induction actions generalizing s with
  | nil => rfl
  | cons a actions ih =>
    obtain ⟨hfirst, hhand⟩ := List.forall_mem_cons.mp hhand
    obtain ⟨hnone, hshare⟩ := List.forall_mem_cons.mp hshare
    rw [run_cons, ih hhand hshare, sharesAt_step s hfirst, hnone]

end HandState

end MentalPoker
