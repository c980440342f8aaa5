import MentalPoker.Proofs.Walkthrough.Scene

/-!
# Streams that are held

A walkthrough keeps the stream that it opened last for the shuffle, and the one for the deal. These
two places are overwritten when a phase is asked for again, and emptied by a reset and by any end of
a stream of the kind. A stream that dropped out of its place while it is open could never be
disconnected again. None does: what is open is held.

## The architecture

* **`streams_cases`**: what a happening does to the open streams.
* **`Scene.Held`**: the invariant, kept by every happening that is possible. It does not need the
  user to keep to any order.
* **`Scene.Distinct`**, **`Scene.Since`**: a stream is open once, and under a number of its own; so
  at most one of each kind is open (`Scene.Tidy.length_ofKind_le`).
-/

namespace MentalPoker.Walkthrough

open Scene

variable {a : LedgerAddress} {s : Scene} {h : Happening}

/-! ## The open streams -/

theorem mem_without {stream : Option Nat} {streams : Table Nat Text} {entry : Nat × Text} :
    entry ∈ without stream streams ↔ entry ∈ streams ∧ stream ≠ some entry.1 := by
  cases stream with
  | none => simp [without]
  | some k =>
    have hne : k ≠ entry.1 ↔ entry.1 ≠ k := ne_comm
    simp [without, Table.erase, hne]

theorem without_sublist (stream : Option Nat) (streams : Table Nat Text) :
    (without stream streams).Sublist streams := by
  cases stream with
  | none => exact List.Sublist.refl _
  | some k => exact List.filter_sublist

theorem held_setHeld (w : Walkthrough) (stream : Option Nat) (k k' : PhaseStream) :
    (w.setHeld stream k).held k' = if k' = k then stream else w.held k' := by
  cases k <;> cases k' <;> rfl

theorem opened_setHeld (w : Walkthrough) (stream : Option Nat) (k : PhaseStream) :
    (w.setHeld stream k).opened = w.opened := by
  cases k <;> rfl

/-- The stream that was opened is held for its phase, and the other phase keeps its own. -/
theorem held_beginning (w : Walkthrough) (k k' : PhaseStream) (now : Int) :
    (beginning w k now).held k' = if k' = k then some w.opened.length else w.held k' :=
  held_setHeld w _ k k'

theorem answered_streams (w : Walkthrough) (reply : Except CallFault DemoInfo) :
    (w.answered reply).opened = w.opened ∧ (w.answered reply).held = w.held := by
  cases reply with
  | ok info => exact ⟨rfl, rfl⟩
  | error fault => cases fault <;> exact ⟨rfl, rfl⟩

theorem opened_closed (w : Walkthrough) (stream : Nat) (now : Int) :
    (w.closed stream now).opened = w.opened := by
  unfold closed
  split
  · rfl
  · exact opened_setHeld w none _

/-- The end of a stream empties the place of its kind. -/
theorem held_closed {w : Walkthrough} {stream : Nat} {k : PhaseStream}
    (hopened : w.opened[stream]? = some k) (now : Int) (k' : PhaseStream) :
    (w.closed stream now).held k' = if k' = k then none else w.held k' := by
  simp only [closed, hopened]
  exact held_setHeld w none k k'

/-- What a happening does to the open streams: a stream may be opened, and others may be over. -/
theorem streams_cases (a : LedgerAddress) (s : Scene) (h : Happening) :
    ((s.happen a h).walkthrough.opened = s.walkthrough.opened
        ∧ (s.happen a h).streams.Sublist s.streams)
      ∨ ∃ k url, (s.happen a h).walkthrough.opened = s.walkthrough.opened ++ [k]
        ∧ (s.happen a h).streams
          = without (s.walkthrough.held k) s.streams ++ [(s.walkthrough.opened.length, url)] := by
  cases h with
  | called call =>
    have hforgets (hcall : call.forgets = true) :
        (s.happen a (.called call)).walkthrough.opened = s.walkthrough.opened
          ∧ (s.happen a (.called call)).streams.Sublist s.streams := by
      rw [happen_forgets a s hcall]
      exact ⟨rfl, (without_sublist _ _).trans (without_sublist _ _)⟩
    cases call with
    | start =>
      cases hstarting : s.walkthrough.starting with
      | true =>
        rw [happen_start_awaiting a s hstarting]
        exact .inl ⟨rfl, List.Sublist.refl _⟩
      | false =>
        rw [happen_start a s hstarting]
        exact .inl ⟨rfl, List.Sublist.refl _⟩
    | begin k now =>
      cases hgrant : s.walkthrough.grant k with
      | error message =>
        rw [happen_begin_refused a s hgrant]
        exact .inl ⟨rfl, List.Sublist.refl _⟩
      | ok demo =>
        rw [happen_begin a s hgrant]
        exact .inr ⟨k, k.url a demo, rfl, rfl⟩
    | reset => exact .inl (hforgets rfl)
    | close => exact .inl (hforgets rfl)
  | replied request reply =>
    rw [happen_replied]
    exact .inl ⟨(answered_streams _ reply).1, List.Sublist.refl _⟩
  | ended stream now =>
    rw [happen_ended]
    exact .inl ⟨opened_closed _ stream now, List.filter_sublist⟩
  | failed stream message last =>
    rw [happen_failed]
    exact .inl ⟨rfl, without_sublist _ _⟩

/-! ## Open streams are held -/

/-- Every open stream is the one that is held for its phase. -/
def Scene.Held (s : Scene) : Prop :=
  ∀ stream ∈ s.streams, ∃ k, s.walkthrough.opened[stream.1]? = some k
    ∧ s.walkthrough.held k = some stream.1

namespace Scene.Held

/-- Some of the streams, and no change to the places. -/
theorem of_same {s' : Scene} (hs : s.Held) (hstreams : s'.streams ⊆ s.streams)
    (hopened : s'.walkthrough.opened = s.walkthrough.opened)
    (hheld : s'.walkthrough.held = s.walkthrough.held) : s'.Held := by
  intro stream hstream
  obtain ⟨k, hk, hplace⟩ := hs stream (hstreams hstream)
  exact ⟨k, by rw [hopened, hk], by rw [hheld, hplace]⟩

/-- The stream that is opened takes the place of its phase, and what was there is disconnected. -/
theorem begin {k : PhaseStream} {demo : DemoIds} (hs : s.Held)
    (hgrant : s.walkthrough.grant k = .ok demo) (now : Int) :
    (s.happen a (.called (.begin k now))).Held := by
  rw [happen_begin a s hgrant]
  intro stream hstream
  rcases List.mem_append.mp hstream with hkept | hnew
  · obtain ⟨hopen, hother⟩ := mem_without.mp hkept
    obtain ⟨k', hk', hplace⟩ := hs stream hopen
    have hne : k' ≠ k := by
      rintro rfl
      exact hother hplace
    refine ⟨k', ?_, by rw [held_beginning, if_neg hne, hplace]⟩
    exact (List.getElem?_append_left (List.getElem?_eq_some_iff.mp hk').1).trans hk'
  · rw [List.mem_singleton.mp hnew]
    exact ⟨k, List.getElem?_concat_length, by rw [held_beginning, if_pos rfl]⟩

/-- A stream that ends was the one in its place, so no other is left without. -/
theorem ended {stream : Nat} {now : Int} (hs : s.Held)
    (hpossible : s.Possible (.ended stream now)) : (s.happen a (.ended stream now)).Held := by
  obtain ⟨url, hurl⟩ := Option.isSome_iff_exists.mp hpossible
  obtain ⟨k, hk, hplace⟩ := hs _ (Table.mem_of_get?_eq_some hurl)
  rw [happen_ended]
  intro other hother
  have hleft : other ∈ without (some stream) s.streams := hother
  obtain ⟨hopen, hne⟩ := mem_without.mp hleft
  obtain ⟨k', hk', hplace'⟩ := hs other hopen
  have hkind : k' ≠ k := by
    rintro rfl
    exact hne (hplace.symm.trans hplace')
  exact ⟨k', by rw [opened_closed, hk'], by rw [held_closed hk, if_neg hkind, hplace']⟩

/-- After a reset no stream is open. -/
theorem streams_forgets {call : Call} (hs : s.Held) (h : call.forgets = true) :
    (s.happen a (.called call)).streams = [] := by
  rw [happen_forgets a s h]
  refine List.eq_nil_iff_forall_not_mem.mpr fun stream hstream => ?_
  obtain ⟨hstream, hdeal⟩ := mem_without.mp hstream
  obtain ⟨hstream, hshuffle⟩ := mem_without.mp hstream
  obtain ⟨k, -, hplace⟩ := hs stream hstream
  cases k with
  | shuffle => exact hshuffle hplace
  | deal => exact hdeal hplace

theorem happen (hpossible : s.Possible h) (hs : s.Held) : (s.happen a h).Held := by
  have hforgets {call : Call} (hcall : call.forgets = true) :
      (s.happen a (.called call)).Held := by
    intro stream hstream
    rw [hs.streams_forgets hcall] at hstream
    cases hstream
  cases h with
  | called call =>
    cases call with
    | start =>
      cases hstarting : s.walkthrough.starting with
      | true =>
        rw [happen_start_awaiting a s hstarting]
        exact hs
      | false =>
        rw [happen_start a s hstarting]
        exact hs.of_same (List.Subset.refl _) rfl rfl
    | begin k now =>
      cases hgrant : s.walkthrough.grant k with
      | error message =>
        rw [happen_begin_refused a s hgrant]
        exact hs.of_same (List.Subset.refl _) rfl rfl
      | ok demo => exact hs.begin hgrant now
    | reset => exact hforgets rfl
    | close => exact hforgets rfl
  | replied request reply =>
    obtain ⟨hopened, hheld⟩ := answered_streams s.walkthrough reply
    exact hs.of_same (List.Subset.refl _) hopened hheld
  | ended stream now => exact hs.ended hpossible
  | failed stream message last =>
    rw [happen_failed]
    exact hs.of_same (without_sublist _ _).subset rfl rfl

end Scene.Held

/-! ## Streams are told apart by their numbers -/

/-- No stream is open twice. -/
def Scene.Distinct (s : Scene) : Prop := (s.streams.map Prod.fst).Nodup

/-- A stream that is opened has a number that no open stream has. -/
theorem Scene.Distinct.happen (hheld : s.Held) (hs : s.Distinct) : (s.happen a h).Distinct := by
  unfold Scene.Distinct
  rcases streams_cases a s h with ⟨_, hsublist⟩ | ⟨k, url, _, hstreams⟩
  · exact hs.sublist (hsublist.map Prod.fst)
  · rw [hstreams, List.map_append]
    refine List.nodup_append.mpr ⟨hs.sublist ((without_sublist _ _).map Prod.fst),
      List.pairwise_singleton _ _, fun number hold new hnew => ?_⟩
    obtain ⟨stream, hstream, rfl⟩ := List.mem_map.mp hold
    obtain rfl : new = s.walkthrough.opened.length := List.mem_singleton.mp hnew
    obtain ⟨k', hk', _⟩ := hheld stream (mem_without.mp hstream).1
    have hlt := (List.getElem?_eq_some_iff.mp hk').1
    omega

/-- Open streams are held, and no stream is open twice. -/
structure Scene.Tidy (s : Scene) : Prop where
  held : s.Held
  distinct : s.Distinct

theorem Scene.tidy_opening : opening.Tidy := ⟨nofun, List.nodup_nil⟩

theorem Scene.Tidy.happen (hs : s.Tidy) (hpossible : s.Possible h) : (s.happen a h).Tidy :=
  ⟨hs.held.happen hpossible, hs.distinct.happen hs.held⟩

/-- The open streams of a kind. -/
def Scene.ofKind (s : Scene) (k : PhaseStream) : Table Nat Text :=
  s.streams.filter fun stream => s.walkthrough.opened[stream.1]? = some k

/-- At most one stream of a kind is open, for all of them are in one place. -/
theorem Scene.Tidy.length_ofKind_le (hs : s.Tidy) (k : PhaseStream) :
    (s.ofKind k).length ≤ 1 := by
  have hplace : ∀ stream ∈ s.ofKind k, s.walkthrough.held k = some stream.1 := by
    intro stream hstream
    obtain ⟨hopen, hkind⟩ := List.mem_filter.mp hstream
    obtain ⟨k', hk', hplace⟩ := hs.held stream hopen
    obtain rfl : k' = k := Option.some.inj (hk'.symm.trans (of_decide_eq_true hkind))
    exact hplace
  have hdistinct : ((s.ofKind k).map Prod.fst).Nodup :=
    hs.distinct.sublist (List.filter_sublist.map _)
  match hstreams : s.ofKind k with
  | [] => exact Nat.zero_le 1
  | [_] => exact Nat.le_refl 1
  | first :: second :: rest =>
    rw [hstreams] at hplace hdistinct
    have hfirst := hplace first List.mem_cons_self
    have hsecond := hplace second (List.mem_cons_of_mem _ List.mem_cons_self)
    have hsame : first.1 = second.1 := Option.some.inj (hfirst.symm.trans hsecond)
    exact absurd (hsame ▸ List.mem_cons_self) (List.nodup_cons.mp hdistinct).1

/-- Every open stream was opened since a certain number of them was opened. -/
structure Scene.Since (first : Nat) (s : Scene) : Prop where
  le : first ≤ s.walkthrough.opened.length
  streams : ∀ stream ∈ s.streams, first ≤ stream.1

theorem Scene.Since.happen {first : Nat} (hs : s.Since first) : (s.happen a h).Since first := by
  rcases streams_cases a s h with ⟨hopened, hsublist⟩ | ⟨k, url, hopened, hstreams⟩
  · exact ⟨hopened ▸ hs.le, fun stream hstream => hs.streams stream (hsublist.subset hstream)⟩
  · constructor
    · rw [hopened, List.length_append]
      exact Nat.le_add_right_of_le hs.le
    · intro stream hstream
      rw [hstreams] at hstream
      rcases List.mem_append.mp hstream with hkept | hnew
      · exact hs.streams stream (mem_without.mp hkept).1
      · rw [List.mem_singleton.mp hnew]
        exact hs.le

end MentalPoker.Walkthrough
