import MentalPoker.Proofs.Envelope.Refusals
import MentalPoker.Recovery

/-!
# Rounds of recovery and the answers to them

A round asks for one range of numbers, from its least to its greatest, and takes what comes in
whatever state it is. An answer may bring its entries in any order, some of them twice, some that
nobody asked for, and some that do not decode: as long as each entry is an object, all that decode
are taken and the others are dropped.

## The architecture

* **`request?_covers`**: the one request of a round spans all its numbers.
* **`decodeAll_cons_of_limit`**, **`decodeAll_cons_of_readable`**: what one entry does to the
  decoding of a list, and by induction what all of them do. Objects never stop it.
* **`MessageQuery.Lists`**: what counts as an answer that lists entries.
* **`result_of_lists`**: what a round makes of such an answer.
-/

namespace MentalPoker

/-! ## What a round asks for -/

namespace Recovery

theorem mem_requested {r : Recovery} {id : Int} : id ∈ r.requested ↔ id ∈ r.missing := by
  rw [requested, List.mem_mergeSort, List.mem_eraseDups]

theorem requested_ne_nil {r : Recovery} (h : r.missing ≠ []) : r.requested ≠ [] := by
  obtain ⟨id, hid⟩ := List.exists_mem_of_ne_nil _ h
  exact List.ne_nil_of_mem (mem_requested.mpr hid)

/-- **One request** spans all the numbers of a round. -/
theorem request?_covers {r : Recovery} (h : r.missing ≠ []) :
    ∃ low high, r.request? = some ⟨text "GET",
        text "/games/" ++ Text.ofInt r.gameId ++ text "/hands/" ++ Text.ofInt r.handId
          ++ text "/messages",
        [(text "from_sequence", Text.ofInt low), (text "to_sequence", Text.ofInt high)]⟩
      ∧ ∀ id ∈ r.missing, low ≤ id ∧ id ≤ high := by
  have hne := requested_ne_nil h
  obtain ⟨low, hlow⟩ := Option.isSome_iff_exists.mp (List.isSome_min?_of_ne_nil hne)
  obtain ⟨high, hhigh⟩ := Option.isSome_iff_exists.mp (List.isSome_max?_of_ne_nil hne)
  refine ⟨low, high, ?_, fun id hid => ?_⟩
  · have hsome : r.requested.isEmpty = false := by simpa using hne
    have hrange : MessageQuery.rangeOf r.requested none
        = [(text "from_sequence", Text.ofInt low), (text "to_sequence", Text.ofInt high)] := by
      simp only [MessageQuery.rangeOf, hlow, hhigh]
    rw [request?, hsome, query, MessageQuery.covering, hrange]
    rfl
  · have hmem := mem_requested.mpr hid
    exact ⟨(List.min?_eq_some_iff.mp hlow).2 id hmem, (List.max?_eq_some_iff.mp hhigh).2 id hmem⟩

end Recovery

/-! ## Entries -/

/-- The limit that a text hits when it is read. -/
def Json.limit? [Json.Room] : Json → Option Json.Limit
  | .str t =>
    match Json.ofText t with
    | .error (.limit l) => some l
    | _ => none
  | _ => none

theorem Json.limit?_eq_some_iff [Json.Room] {v : Json} {l : Json.Limit} :
    v.limit? = some l ↔ ∃ t, v = .str t ∧ Json.ofText t = .error (.limit l) := by
  constructor
  · intro h
    unfold Json.limit? at h
    split at h
    · next t =>
      split at h
      · next l' hread =>
        cases h
        exact ⟨t, rfl, hread⟩
      · cases h
    · cases h
  · rintro ⟨t, rfl, hread⟩
    rw [Json.limit?, hread]

/-- Only a text hits a limit when it is read as a payload. -/
theorem Payload.read_ofJson_limit_iff [Json.Room] {v : Json} {l : Json.Limit} :
    (Payload.ofJson v).read = .error (.limit l) ↔ v.limit? = some l := by
  cases v with
  | str t =>
    show (Json.ofText t).mapError DecodeFault.ofReader = .error (.limit l)
      ↔ Json.limit? (.str t) = some l
    rw [Json.limit?]
    cases Json.ofText t with
    | ok v => exact iff_of_false nofun nofun
    | error fault =>
      cases fault with
      | limit l' =>
        show Except.error (DecodeFault.limit l') = .error (.limit l) ↔ some l' = some l
        rw [Except.error.injEq, DecodeFault.limit.injEq, Option.some.injEq]
      | _ => exact iff_of_false nofun nofun
  | _ => exact iff_of_false nofun nofun

theorem HandMessage.settles_decodeEntry [Json.Room] (gameId handId entry : Json) :
    Payload.Settles (.ofJson entry) (HandMessage.decodeEntry gameId handId entry) := by
  unfold HandMessage.decodeEntry
  split
  · exact HandMessage.settles_decode gameId handId _
  · exact Finalized.settles_decode _

namespace MessageQuery

/-- The envelope of an entry, if it decodes. -/
def envelope? [Json.Room] (q : MessageQuery) (entry : Json) : Option Finalized :=
  (HandMessage.decodeEntry (.int q.gameId) (.int q.handId) entry).toOption

/-- **One entry**: a text beyond a limit stops the decoding. -/
theorem decodeAll_cons_of_limit [Json.Room] (q : MessageQuery) {entry : Json} {l : Json.Limit}
    (h : entry.limit? = some l) (rest : List Json) :
    q.decodeAll (entry :: rest) = .error (.limit l) := by
  have hsettles := HandMessage.settles_decodeEntry (.int q.gameId) (.int q.handId) entry
  rw [decodeAll, hsettles.beyond l (Payload.read_ofJson_limit_iff.mpr h)]
  rfl

/-- All else is taken or dropped. -/
theorem decodeAll_cons_of_readable [Json.Room] (q : MessageQuery) {entry : Json}
    (h : entry.limit? = none) (rest : List Json) :
    q.decodeAll (entry :: rest) = (q.decodeAll rest).map ((q.envelope? entry).toList ++ ·) := by
  have hsettles := HandMessage.settles_decodeEntry (.int q.gameId) (.int q.handId) entry
  have hwithin (l : Json.Limit) : (Payload.ofJson entry).read ≠ .error (.limit l) := by
    rw [Ne, Payload.read_ofJson_limit_iff, h]
    exact nofun
  rw [decodeAll, envelope?]
  rcases hsettles.within hwithin with ⟨f, hf⟩ | ⟨fault, hfault, hdropped⟩
  · rw [hf]
    rfl
  · simp only [hfault, hdropped]
    cases q.decodeAll rest <;> rfl

/-- The first text beyond a limit counts. -/
theorem decodeAll_of_limit [Json.Room] (q : MessageQuery) {entries : List Json} {l : Json.Limit}
    (h : entries.findSome? Json.limit? = some l) : q.decodeAll entries = .error (.limit l) := by
  induction entries with
  | nil => cases h
  | cons entry rest ih =>
    cases hentry : entry.limit? with
    | some l' =>
      rw [List.findSome?_cons_of_isSome (by rw [hentry]; rfl), hentry] at h
      rw [q.decodeAll_cons_of_limit hentry, Option.some.inj h]
    | none =>
      rw [List.findSome?_cons_of_isNone (by rw [hentry]; rfl)] at h
      rw [q.decodeAll_cons_of_readable hentry, ih h]
      rfl

theorem decodeAll_of_readable [Json.Room] (q : MessageQuery) {entries : List Json}
    (h : entries.findSome? Json.limit? = none) :
    q.decodeAll entries = .ok (entries.filterMap q.envelope?) := by
  induction entries with
  | nil => rfl
  | cons entry rest ih =>
    obtain ⟨hentry, hrest⟩ := List.forall_mem_cons.mp (List.findSome?_eq_none_iff.mp h)
    rw [q.decodeAll_cons_of_readable hentry, ih (List.findSome?_eq_none_iff.mpr hrest)]
    show Except.ok ((q.envelope? entry).toList ++ rest.filterMap q.envelope?) = _
    cases henvelope : q.envelope? entry with
    | none => rw [List.filterMap_cons_none henvelope]; rfl
    | some f => rw [List.filterMap_cons_some henvelope]; rfl

/-- **Objects never stop the decoding.** Those that decode are taken, in order. -/
theorem decodeAll_of_objects [Json.Room] (q : MessageQuery) {entries : List Json}
    (h : ∀ entry ∈ entries, entry.members?.isSome = true) :
    q.decodeAll entries = .ok (entries.filterMap q.envelope?) := by
  refine q.decodeAll_of_readable (List.findSome?_eq_none_iff.mpr fun entry hentry => ?_)
  have hobject := h entry hentry
  cases entry with
  | obj fields => rfl
  | _ => cases hobject

/-! ## Answers -/

/-- The members of an answer hold a list of entries: as its messages, or else as its events. -/
inductive Holds (members : Table Text Json) (entries : List Json) : Prop where
  | messages (h : Table.get? (text "messages") members = some (.arr entries))
  | events (hnone : Json.member "messages" (.obj members) = .null)
      (h : Table.get? (text "events") members = some (.arr entries))

theorem Holds.entries? {members : Table Text Json} {entries : List Json}
    (h : Holds members entries) : entries? members = some entries := by
  cases h with
  | messages h =>
    have hmember : Json.member "messages" (.obj members) = .arr entries := by
      rw [Json.member, h]
      rfl
    rw [MessageQuery.entries?, hmember]
    rfl
  | events hnone h =>
    rw [MessageQuery.entries?, hnone, h]
    rfl

/-- The reply is an answer that lists some entries, all of them objects. -/
structure Lists [Json.Room] (q : MessageQuery) (reply : Reply) (entries : List Json) : Prop where
  answer : ∃ members, Ledger.body q.request reply = .ok (.obj members) ∧ Holds members entries
  objects : ∀ entry ∈ entries, entry.members?.isSome = true

theorem ofReply_of_lists [Json.Room] {q : MessageQuery} {reply : Reply} {entries : List Json}
    (h : q.Lists reply entries) :
    q.ofReply reply = .ok (sorted (entries.filterMap q.envelope?)) := by
  obtain ⟨members, hbody, hholds⟩ := h.answer
  simp only [ofReply, hbody, hholds.entries?, q.decodeAll_of_objects h.objects]
  rfl

end MessageQuery

/-- **What a round brings** when the answer lists entries: the envelopes of all that decode. -/
theorem Recovery.result_of_lists [Json.Room] {r : Recovery} {reply : Reply} {entries : List Json}
    (h : r.query.Lists reply entries) :
    ∃ envelopes, r.result reply = .ok ⟨r.requested, envelopes, none⟩
      ∧ ∀ f, f ∈ envelopes ↔ ∃ entry ∈ entries, r.query.envelope? entry = some f := by
  refine ⟨_, by rw [result, MessageQuery.ofReply_of_lists h], fun f => ?_⟩
  rw [MessageQuery.sorted, List.mem_mergeSort, List.mem_filterMap]

end MentalPoker
