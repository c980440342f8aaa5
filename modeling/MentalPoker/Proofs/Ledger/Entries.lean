import Mathlib.Data.List.Nodup
import MentalPoker.Json.Writer
import MentalPoker.Proofs.Envelope.Paths
import MentalPoker.Proofs.Feed.Spelling
import MentalPoker.Proofs.Ledger.Answers

/-!
# What becomes of the entries of an answer

An answer lists entries of several forms, good ones and bad ones in any mix. What a query makes of
them depends on the good ones only, and on their order only where two of them carry one number: the
envelopes of the good entries are sorted by their numbers, and the sort is stable.

## The architecture

* **`StableOrder`**: a list of envelopes in the order of their numbers; `stableOrder_sorted` is where
  the sort is looked into, and nowhere else.
* **`StableOrder.eq_of_perm`**: with distinct numbers the order leaves no choice.
* **`filterMap_envelope?`**: the bad entries leave no trace.
-/

namespace MentalPoker

namespace MessageQuery

/-! ## The order of the numbers -/

/-- The second list holds the envelopes of the first in the order of their numbers, and those with
one number in the order that they had. -/
structure StableOrder (fs gs : List Finalized) : Prop where
  perm : gs.Perm fs
  ordered : gs.Pairwise fun f g => f.seqId ≤ g.seqId
  stable : ∀ n, gs.filter (fun f => f.seqId = n) = fs.filter fun f => f.seqId = n

theorem stableOrder_sorted (fs : List Finalized) : StableOrder fs (sorted fs) := by
  have htrans : ∀ f g h : Finalized, decide (f.seqId ≤ g.seqId) = true →
      decide (g.seqId ≤ h.seqId) = true → decide (f.seqId ≤ h.seqId) = true := by
    intro f g h hfg hgh
    rw [decide_eq_true_eq] at hfg hgh ⊢
    omega
  have htotal : ∀ f g : Finalized,
      (decide (f.seqId ≤ g.seqId) || decide (g.seqId ≤ f.seqId)) = true := by
    intro f g
    rw [Bool.or_eq_true, decide_eq_true_eq, decide_eq_true_eq]
    omega
  have hperm : (sorted fs).Perm fs := List.mergeSort_perm fs _
  refine ⟨hperm, ?_, fun n => ?_⟩
  · have hsorted := List.pairwise_mergeSort htrans htotal fs
    exact hsorted.imp fun hle => of_decide_eq_true hle
  · -- the envelopes with one number are a sorted part of the list, so they stay as they are
    have hequal : (fs.filter fun f => f.seqId = n).Pairwise
        fun f g => decide (f.seqId ≤ g.seqId) = true := by
      refine List.pairwise_of_forall_mem_list fun f hf g hg => ?_
      have hfn : f.seqId = n := of_decide_eq_true (List.mem_filter.mp hf).2
      have hgn : g.seqId = n := of_decide_eq_true (List.mem_filter.mp hg).2
      rw [decide_eq_true_eq]
      omega
    have hpart : (fs.filter fun f => f.seqId = n).Sublist (sorted fs) :=
      List.sublist_mergeSort htrans htotal hequal List.filter_sublist
    have hfiltered := hpart.filter fun f => f.seqId = n
    simp only [List.filter_filter, Bool.and_self] at hfiltered
    exact (hfiltered.eq_of_length ((hperm.filter _).length_eq.symm)).symm

/-- With distinct numbers there is one order. -/
theorem StableOrder.eq_of_perm {fs gs fs' gs' : List Finalized} (h : StableOrder fs gs)
    (h' : StableOrder fs' gs') (hperm : fs'.Perm fs) (hdistinct : (fs.map Finalized.seqId).Nodup) :
    gs' = gs := by
  have hsame : gs'.Perm gs := h'.perm.trans (hperm.trans h.perm.symm)
  refine hsame.eq_of_pairwise ?_ h'.ordered h.ordered
  intro f g hf hg hfg hgf
  have hf' : f ∈ fs := h.perm.mem_iff.mp (hsame.mem_iff.mp hf)
  have hg' : g ∈ fs := h.perm.mem_iff.mp hg
  exact List.inj_on_of_nodup_map hdistinct hf' hg' (Nat.le_antisymm hfg hgf)

/-! ## Good entries -/

/-- The entry decodes. -/
def decodes [Json.Room] (q : MessageQuery) (entry : Json) : Bool := (q.envelope? entry).isSome

/-- The envelopes of the entries are those of the good ones. -/
theorem filterMap_envelope? [Json.Room] (q : MessageQuery) (entries : List Json) :
    (entries.filter q.decodes).filterMap q.envelope? = entries.filterMap q.envelope? := by
  rw [List.filterMap_filter]
  refine List.filterMap_congr fun entry _ => ?_
  cases hentry : q.envelope? entry with
  | none => rw [ite_self]
  | some f =>
    have hgood : q.decodes entry = true := by rw [decodes, hentry, Option.isSome_some]
    rw [if_pos hgood]

/-- **Exactly the good entries are kept.** An answer that lists objects, be they flat, nested or
flattened, brings the envelopes of those that decode, each once, stably sorted by their numbers.
Answers that list the same good entries with other bad ones in between bring the same, and so do
answers that list the entries in another order, when no two of the envelopes have one number. -/
theorem good_entries_are_kept [Json.Room] {q : MessageQuery} {reply : Reply} {entries : List Json}
    (h : q.Lists reply entries) :
    ∃ envelopes, q.ofReply reply = .ok envelopes
      ∧ StableOrder (entries.filterMap q.envelope?) envelopes
      ∧ ∀ reply' entries', q.Lists reply' entries' →
          (entries'.filter q.decodes = entries.filter q.decodes →
            q.ofReply reply' = .ok envelopes)
          ∧ (entries'.Perm entries →
            ((entries.filterMap q.envelope?).map Finalized.seqId).Nodup →
            q.ofReply reply' = .ok envelopes) := by
  have horder := stableOrder_sorted (entries.filterMap q.envelope?)
  refine ⟨_, ofReply_of_lists h, horder, fun reply' entries' h' => ⟨fun hgood => ?_, ?_⟩⟩
  · rw [ofReply_of_lists h', ← q.filterMap_envelope? entries', hgood, q.filterMap_envelope?]
  · intro hperm hdistinct
    have horder' := stableOrder_sorted (entries'.filterMap q.envelope?)
    rw [ofReply_of_lists h', horder.eq_of_perm horder' (hperm.filterMap q.envelope?) hdistinct]

/-! ## A mixed answer -/

namespace Mixed

def query : MessageQuery := .covering 1 7 [31, 33] none

/-- A flat entry, a flattened one and a nested one, the last two with one number. -/
def good : List Json :=
  [HandMessage.ofFinalized false { refusedRaise with seqId := 33 }, RiverRaise.payload true,
    refusedRaise.toWire]

/-- The same entries with bad ones in between: a flat one without a nonce, and one of no form. -/
def mixed : List Json :=
  [HandMessage.ofFinalized false { refusedRaise with seqId := 33 },
    Json.object [("sequence", .int 32), ("payload", .null)], RiverRaise.payload true,
    Json.object [("garbage", .bool true)], refusedRaise.toWire]

/-- An object that lists entries as its events. -/
def body (entries : List Json) : Json :=
  Json.object [("messages", .null), ("events", .arr entries)]

def answer (entries : List Json) : Reply :=
  .answered 200 (Utf8.encode (Json.write (body entries)))

theorem lists [Json.Room] {entries : List Json}
    (hread : Json.ofBytes (Utf8.encode (Json.write (body entries))) = .ok (body entries))
    (hobjects : ∀ entry ∈ entries, entry.members?.isSome = true) :
    query.Lists (answer entries) entries := by
  have hbody : Ledger.body query.request (answer entries) = .ok (body entries) := by
    rw [answer, Ledger.body, hread]
    rfl
  exact ⟨⟨_, hbody, .events rfl rfl⟩, hobjects⟩

theorem lists_good : query.Lists (answer good) good :=
  lists (by decide +kernel) (by decide +kernel)

theorem lists_mixed : query.Lists (answer mixed) mixed :=
  lists (by decide +kernel) (by decide +kernel)

end Mixed

/-- The bad entries change nothing, and the two envelopes with one number keep their order. -/
theorem good_entries_are_kept_mixed :
    Mixed.query.Lists (Mixed.answer Mixed.mixed) Mixed.mixed
      ∧ Mixed.query.Lists (Mixed.answer Mixed.good) Mixed.good
      ∧ ∃ envelopes, Mixed.query.ofReply (Mixed.answer Mixed.mixed) = .ok envelopes
        ∧ Mixed.query.ofReply (Mixed.answer Mixed.good) = .ok envelopes
        ∧ envelopes.length = 3
        ∧ (envelopes.filter fun f => f.seqId = 31).map (fun f => f.status.ok) = [true, false] := by
  obtain ⟨envelopes, hmixed, horder, hothers⟩ := good_entries_are_kept Mixed.lists_mixed
  have hsame : Mixed.good.filter Mixed.query.decodes
      = Mixed.mixed.filter Mixed.query.decodes := by
    decide +kernel
  have hlength : (Mixed.mixed.filterMap Mixed.query.envelope?).length = 3 := by decide +kernel
  have hequal : ((Mixed.mixed.filterMap Mixed.query.envelope?).filter fun f => f.seqId = 31).map
      (fun f => f.status.ok) = [true, false] := by
    decide +kernel
  refine ⟨Mixed.lists_mixed, Mixed.lists_good, envelopes, hmixed,
    (hothers _ _ Mixed.lists_good).1 hsame, ?_, ?_⟩
  · rw [horder.perm.length_eq, hlength]
  · rw [horder.stable, hequal]

end MessageQuery

end MentalPoker
