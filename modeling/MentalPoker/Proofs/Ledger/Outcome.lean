import Mathlib.Data.List.Sort
import MentalPoker.Proofs.Ledger.Answers

/-!
# What a round of recovery comes to

A round makes one request. It fails in peace when there is no answer or one that is of no use, and
otherwise it takes the entries that decode. But an answer may hold any value where its entries should
be, and nobody looks at that value before going through it. Nor does dropping what does not decode
cover a text beyond a limit of the reader. Both stop the round, and whoever asked for it.

## The architecture

* **`pairwise_requested`**: the numbers of a round, in order and each once.
* **`entries?_eq_none_iff`**: what cannot be gone through.
* **`Answers`**, **`Refused`**, **`Stops`**: the kinds of replies, and a lemma on the result of each;
  `result_cases` says that there are no others.
-/

namespace MentalPoker

/-! ## The numbers of a round -/

namespace Recovery

theorem nodup_eraseDups (ids : List Int) : ids.eraseDups.Nodup := by
  cases ids with
  | nil => exact List.nodup_nil
  | cons id rest =>
    rw [List.eraseDups_cons, List.nodup_cons]
    refine ⟨fun hmem => ?_, nodup_eraseDups _⟩
    -- the rest is gone through without the number at its head
    have hkept := (List.mem_filter.mp (List.mem_eraseDups.mp hmem)).2
    simp at hkept
termination_by ids.length
decreasing_by exact Nat.lt_succ_of_le (List.length_filter_le _ _)

theorem pairwise_requested (r : Recovery) : r.requested.Pairwise (· < ·) := by
  have hnodup : r.requested.Nodup := List.nodup_mergeSort.mpr (nodup_eraseDups r.missing)
  have hsorted : r.requested.Pairwise (· ≤ ·) :=
    List.pairwise_mergeSort' (· ≤ ·) r.missing.eraseDups
  refine (hsorted.and hnodup).imp fun {j k} ⟨hle, hne⟩ => ?_
  show j < k
  omega

end Recovery

namespace MessageQuery

/-! ## What an answer offers -/

/-- What stands where the entries should be. -/
def offered? (members : Table Text Json) : Option Json :=
  match Json.member "messages" (.obj members) with
  | .null => Table.get? (text "events") members
  | v => some v

/-- The value is a single thing, and there is nothing in it to go through. -/
def isSingle : Json → Bool
  | .null | .bool _ | .int _ | .float _ => true
  | .str _ | .arr _ | .obj _ => false

theorem enumerate?_eq_none_iff {v : Json} : enumerate? v = none ↔ isSingle v = true := by
  cases v <;> simp [enumerate?, isSingle]

theorem entries?_eq (members : Table Text Json) :
    entries? members = (offered? members).elim (some []) enumerate? := by
  unfold entries? offered?
  cases Json.member "messages" (.obj members) with
  | null => cases Table.get? (text "events") members <;> rfl
  | _ => rfl

theorem entries?_eq_none_iff {members : Table Text Json} :
    entries? members = none ↔ ∃ v, offered? members = some v ∧ isSingle v = true := by
  rw [entries?_eq]
  cases offered? members with
  | none => simp
  | some v => simp [enumerate?_eq_none_iff]

end MessageQuery

/-! ## Replies -/

open MessageQuery (entries? offered? isSingle)

/-- Values are nested too deep. -/
def Json.Limit.isDepth : Json.Limit → Bool
  | .longInteger _ => false
  | .deepList | .deepObject => true

/-- The reply is an answer that reports no error, and its body is a value. -/
inductive Answers [Json.Room] : Reply → Json → Prop where
  | body {code : Nat} {bytes : Bytes} {v : Json} (hcode : Status.isError code = false)
      (hread : Json.ofBytes bytes = .ok v) : Answers (.answered code bytes) v

theorem Answers.body_eq [Json.Room] {reply : Reply} {v : Json} (h : Answers reply v)
    (request : Request) : Ledger.body request reply = .ok v := by
  obtain ⟨hcode, hread⟩ := h
  simp only [Ledger.body, hcode, hread]
  rfl

theorem Ledger.body_of_fault [Json.Room] {code : Nat} {bytes : Bytes} {fault : Json.Fault}
    (hcode : Status.isError code = false) (hread : Json.ofBytes bytes = .error fault)
    (request : Request) :
    Ledger.body request (.answered code bytes) = .error (Ledger.bodyFault request code fault) := by
  simp only [Ledger.body, hcode, hread]
  rfl

/-- A body that is nested too deep stops the call. -/
theorem Ledger.bodyFault_of_isDepth {l : Json.Limit} (h : l.isDepth = true) (request : Request)
    (code : Nat) : Ledger.bodyFault request code (.limit l) = .failure (.limit l) := by
  cases l with
  | longInteger n => cases h
  | deepList => rfl
  | deepObject => rfl

/-- Whatever else is wrong with a body, it is no JSON. -/
theorem Ledger.bodyFault_of_not_isDepth {fault : Json.Fault}
    (h : ∀ l, fault = .limit l → l.isDepth = false) (request : Request) (code : Nat) :
    Ledger.bodyFault request code fault = .ledger (.notJson request code) := by
  cases fault with
  | limit l =>
    cases l with
    | longInteger n => rfl
    | deepList => cases h _ rfl
    | deepObject => cases h _ rfl
  | malformed => rfl
  | encoding => rfl

namespace Recovery

/-- The request failed: there is no answer, or it reports an error, is no JSON or is no object. -/
inductive Refused [Json.Room] : Reply → Prop where
  | network (reason : Text) : Refused (.failed reason)
  | status {code : Nat} (hcode : Status.isError code = true) (bytes : Bytes) :
      Refused (.answered code bytes)
  | notJson {code : Nat} {bytes : Bytes} {fault : Json.Fault}
      (hcode : Status.isError code = false) (hread : Json.ofBytes bytes = .error fault)
      (hdepth : ∀ l, fault = .limit l → l.isDepth = false) : Refused (.answered code bytes)
  | notObject {reply : Reply} {v : Json} (h : Answers reply v) (hv : v.members? = none) :
      Refused reply

/-- The reply stops the round: the request could not be made, the answer is nested too deep, a
single thing stands where its entries should be, or one of these is a text beyond a limit. -/
inductive Stops [Json.Room] : Reply → Failure → Prop where
  | broken (failure : Failure) : Stops (.broken failure) failure
  | deep {code : Nat} {bytes : Bytes} {l : Json.Limit} (hcode : Status.isError code = false)
      (hread : Json.ofBytes bytes = .error (.limit l)) (hdepth : l.isDepth = true) :
      Stops (.answered code bytes) (.limit l)
  | single {reply : Reply} {members : Table Text Json} {v : Json}
      (h : Answers reply (.obj members)) (hoffered : offered? members = some v)
      (hv : isSingle v = true) : Stops reply .notEnumerable
  | entry {reply : Reply} {members : Table Text Json} {entries : List Json} {l : Json.Limit}
      (h : Answers reply (.obj members)) (hentries : entries? members = some entries)
      (hlimit : entries.findSome? Json.limit? = some l) : Stops reply (.limit l)

/-- A round with a refusal brings nothing, and says why. -/
theorem result_of_refused [Json.Room] (r : Recovery) {reply : Reply} (h : Refused reply) :
    ∃ reason, r.result reply = .ok ⟨r.requested, [], some reason⟩ := by
  -- a fault of the ledger is what a round provides for
  have hfault {fault : LedgerFault}
      (hreply : r.query.ofReply reply = .error (.ledger fault)) :
      ∃ reason, r.result reply = .ok ⟨r.requested, [], some reason⟩ :=
    ⟨fault.message, by rw [result, hreply]⟩
  cases h with
  | network reason => exact hfault rfl
  | @status code hcode bytes =>
    have hreply : r.query.ofReply (.answered code bytes)
        = .error (.ledger (.status r.query.request code)) := by
      simp only [MessageQuery.ofReply, Ledger.body, if_pos hcode]
    exact hfault hreply
  | @notJson code bytes fault hcode hread hdepth =>
    have hreply : r.query.ofReply (.answered code bytes)
        = .error (.ledger (.notJson r.query.request code)) := by
      simp only [MessageQuery.ofReply, Ledger.body_of_fault hcode hread,
        Ledger.bodyFault_of_not_isDepth hdepth]
    exact hfault hreply
  | @notObject _ v h hv =>
    have hreply : r.query.ofReply reply = .error (.ledger .notObject) := by
      cases v with
      | obj members => cases hv
      | _ => simp only [MessageQuery.ofReply, h.body_eq r.query.request]
    exact hfault hreply

theorem result_of_stops [Json.Room] (r : Recovery) {reply : Reply} {failure : Failure}
    (h : Stops reply failure) : r.result reply = .error failure := by
  have hreply : r.query.ofReply reply = .error (.failure failure) := by
    cases h with
    | broken => rfl
    | deep hcode hread hdepth =>
      simp only [MessageQuery.ofReply, Ledger.body_of_fault hcode hread,
        Ledger.bodyFault_of_isDepth hdepth]
    | single h hoffered hv =>
      have hentries := MessageQuery.entries?_eq_none_iff.mpr ⟨_, hoffered, hv⟩
      simp only [MessageQuery.ofReply, h.body_eq r.query.request, hentries]
    | entry h hentries hlimit =>
      simp only [MessageQuery.ofReply, h.body_eq r.query.request, hentries,
        r.query.decodeAll_of_limit hlimit]
      rfl
  rw [result, hreply]

/-- There are no other replies than these: one that stops the round, one that is a refusal, and an
answer whose entries are gone through to the end. -/
theorem result_cases [Json.Room] (r : Recovery) (reply : Reply) :
    (∃ failure, Stops reply failure) ∨ Refused reply
      ∨ ∃ envelopes, r.result reply = .ok ⟨r.requested, envelopes, none⟩ := by
  cases reply with
  | failed reason => exact .inr (.inl (.network reason))
  | broken failure => exact .inl ⟨failure, .broken failure⟩
  | answered code bytes =>
    cases hcode : Status.isError code with
    | true => exact .inr (.inl (.status hcode bytes))
    | false =>
      cases hread : Json.ofBytes bytes with
      | error fault =>
        -- of what can be wrong with a body, only its depth is not provided for
        by_cases hdepth : ∀ l, fault = .limit l → l.isDepth = false
        · exact .inr (.inl (.notJson hcode hread hdepth))
        · simp only [not_forall, Bool.not_eq_false] at hdepth
          obtain ⟨l, rfl, hl⟩ := hdepth
          exact .inl ⟨_, .deep hcode hread hl⟩
      | ok v =>
        have hanswer : Answers (.answered code bytes) v := .body hcode hread
        cases hmembers : v.members? with
        | none => exact .inr (.inl (.notObject hanswer hmembers))
        | some members =>
          obtain rfl : v = .obj members := by
            cases v with
            | obj members' => cases hmembers; rfl
            | _ => cases hmembers
          cases hentries : entries? members with
          | none =>
            obtain ⟨v, hoffered, hv⟩ := MessageQuery.entries?_eq_none_iff.mp hentries
            exact .inl ⟨_, .single hanswer hoffered hv⟩
          | some entries =>
            cases hlimit : entries.findSome? Json.limit? with
            | some l => exact .inl ⟨_, .entry hanswer hentries hlimit⟩
            | none =>
              refine .inr (.inr ⟨MessageQuery.sorted (entries.filterMap r.query.envelope?), ?_⟩)
              simp only [result, MessageQuery.ofReply, hanswer.body_eq r.query.request, hentries,
                r.query.decodeAll_of_readable hlimit]
              rfl

/-- The texts of an answer: its body, and those among its entries. -/
inductive TextOf [Json.Room] (bytes : Bytes) : Text → Prop where
  | body {t : Text} (h : (Encoding.detect bytes).decode bytes = .ok t) : TextOf bytes t
  | entry {members : Table Text Json} {entries : List Json} {t : Text}
      (hread : Json.ofBytes bytes = .ok (.obj members)) (hentries : entries? members = some entries)
      (ht : .str t ∈ entries) : TextOf bytes t

/-- An answer that stops a round for a limit holds a text that goes beyond it. -/
theorem Stops.exceeds [Json.Room] {code : Nat} {bytes : Bytes} {l : Json.Limit}
    (h : Stops (.answered code bytes) (.limit l)) :
    ∃ t, TextOf bytes t ∧ Json.Exceeds Json.Room.depth t l := by
  cases h with
  | deep hcode hread hdepth =>
    obtain ⟨t, hdecode, ht⟩ := Json.exceeds_of_ofBytes hread
    exact ⟨t, .body hdecode, ht⟩
  | entry h hentries hlimit =>
    obtain ⟨_, hread⟩ := h
    obtain ⟨entry, hentry, hfound⟩ := List.exists_of_findSome?_eq_some hlimit
    obtain ⟨t, rfl, ht⟩ := Json.limit?_eq_some_iff.mp hfound
    exact ⟨t, .entry hread hentries hentry, Json.exceeds_of_ofText ht⟩

/-- **Which rounds come to a result.** The numbers that a round asks for are the missing ones in
order, each once. Whatever the reply, the round comes to a result about these numbers, unless the
reply is one that stops it; it is without success just when the request failed, and then without
envelopes. An answer stops a round for a limit only where a text in it goes beyond that limit. All
this holds whatever room the reader has. -/
theorem rounds_come_to_results [Json.Room] (r : Recovery) (reply : Reply) :
    r.requested.Pairwise (· < ·)
      ∧ (∀ id, id ∈ r.requested ↔ id ∈ r.missing)
      ∧ (∀ failure, r.result reply = .error failure ↔ Stops reply failure)
      ∧ (∀ outcome, r.result reply = .ok outcome → outcome.requested = r.requested
          ∧ (outcome.success = false ↔ Refused reply)
          ∧ (outcome.success = false → outcome.envelopes = []))
      ∧ (Refused reply → ∃ outcome, r.result reply = .ok outcome)
      ∧ ∀ code bytes l, reply = .answered code bytes → r.result reply = .error (.limit l) →
          ∃ t, TextOf bytes t ∧ Json.Exceeds Json.Room.depth t l := by
  have hstops (failure : Failure) : r.result reply = .error failure ↔ Stops reply failure := by
    refine ⟨fun h => ?_, r.result_of_stops⟩
    rcases r.result_cases reply with ⟨failure', hstop⟩ | hrefused | ⟨envelopes, hok⟩
    · cases (r.result_of_stops hstop).symm.trans h
      exact hstop
    · obtain ⟨reason, hok⟩ := r.result_of_refused hrefused
      cases hok.symm.trans h
    · cases hok.symm.trans h
  refine ⟨r.pairwise_requested, fun _ => mem_requested, hstops, fun outcome h => ?_,
    fun hrefused => ?_, ?_⟩
  · rcases r.result_cases reply with ⟨failure, hstop⟩ | hrefused | ⟨envelopes, hok⟩
    · cases (r.result_of_stops hstop).symm.trans h
    · obtain ⟨reason, hok⟩ := r.result_of_refused hrefused
      cases hok.symm.trans h
      exact ⟨rfl, iff_of_true rfl hrefused, fun _ => rfl⟩
    · cases hok.symm.trans h
      -- a refusal would have come to a result without success
      refine ⟨rfl, iff_of_false nofun fun hrefused => ?_, nofun⟩
      obtain ⟨reason, hfailed⟩ := r.result_of_refused hrefused
      cases hfailed.symm.trans hok
  · obtain ⟨reason, hok⟩ := r.result_of_refused hrefused
    exact ⟨_, hok⟩
  · rintro code bytes l rfl h
    exact ((hstops _).mp h).exceeds

/-- **A number in the place of the messages stops a round**, and so does null in the place of the
events. -/
theorem numbers_stop_rounds :
    let r : Recovery := ⟨4, 5, [3, 1]⟩
    r.result (.answered 200 (Utf8.encode (text "\x7b\"messages\": 5\x7d")))
        = .error .notEnumerable
      ∧ r.result (.answered 200 (Utf8.encode (text "\x7b\"events\": null\x7d")))
        = .error .notEnumerable := by
  have hnumber : Json.ofBytes (Utf8.encode (text "\x7b\"messages\": 5\x7d"))
      = .ok (.obj [(text "messages", .int 5)]) := by
    decide +kernel
  have hnull : Json.ofBytes (Utf8.encode (text "\x7b\"events\": null\x7d"))
      = .ok (.obj [(text "events", .null)]) := by
    decide +kernel
  intro r
  exact ⟨r.result_of_stops (.single (.body rfl hnumber) rfl rfl),
    r.result_of_stops (.single (.body rfl hnull) rfl rfl)⟩

end Recovery

end MentalPoker
