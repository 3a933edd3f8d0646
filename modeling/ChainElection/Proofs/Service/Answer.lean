import Mathlib.Tactic
import ChainElection.Service.Deployment
import ChainElection.Proofs.Http.Exchange
import ChainElection.Proofs.Index.Database
import ChainElection.Proofs.Service.Path
import ChainElection.Proofs.Submission.Record

/-!
What the service does to its index, and what it answers to a poll.

* `ServiceRequest.Stores` says which requests store records, and which records.
  `SubmissionService.answer_rows`: these change the index, each hash getting the
  row of the last record, and all others leave the service as it is.
* `ServiceRequest.AsksStatus`, `AsksAccount`: a request asks for a hash or an
  account, in any spelling of it.
* `SubmissionService.answer_poll` is the answer to the question for a hash, and
  `VerifierGateway.submissionStatus_at` what a poll makes of it: what it brings is
  the record of the row that the index has at this moment.
-/

namespace ChainElection

/-! ### Requests that store -/

/-- The request is one to store these records, and it has the right to. -/
structure ServiceRequest.Stores (r : ServiceRequest) (token : Option String)
    (rs : List SubmissionRecord) : Prop where
  method : r.method = "POST"
  path : r.path = Route.ingestPath
  authorized : r.authorize token = .ok ()
  records : SubmissionService.recordsOf r = .ok rs

namespace SubmissionService

variable {s : SubmissionService} {r : ServiceRequest} {rs : List SubmissionRecord}

/-- A body does not hold records, and this has a status of its own, or it is decoded to records. -/
lemma recordsOf_cases (r : ServiceRequest) :
    (∃ status, recordsOf r = .error status ∧ 400 ≤ status) ∨
      ∃ rs, recordsOf r = .ok rs ∧
        Json.decode (Json.asList SubmissionRecord.ofJson) r.body = .ok rs := by
  rw [recordsOf]
  split
  · exact .inl ⟨415, rfl, by decide⟩
  · split
    · split
      · exact .inl ⟨413, rfl, by decide⟩
      · cases hdecode : Json.decode (Json.asList SubmissionRecord.ofJson) r.body with
        | error f => cases f <;> exact .inl ⟨_, rfl, by decide⟩
        | ok rs => exact .inr ⟨rs, rfl, rfl⟩
    · exact .inl ⟨415, rfl, by decide⟩

/-- The times of the records of a body are regular. -/
lemma isRegular_of_recordsOf (h : recordsOf r = .ok rs) : ∀ x ∈ rs, x.time.IsRegular := by
  obtain ⟨status, herror, -⟩ | ⟨rs', hok, hdecode⟩ := recordsOf_cases r
  · rw [herror] at h
    cases h
  · rw [hok] at h
    cases h
    exact SubmissionRecord.finds_ofJson.list.decode hdecode

lemma ofPath_ingestPath : Route.ofPath Route.ingestPath = some .ingest := by decide

/-- A request that stores records has them stored. -/
lemma answer_of_stores (h : r.Stores s.token rs) : (s.answer r).2 = (s.store rs).2 := by
  have hmethod : ¬ r.method = "OPTIONS" := by
    rw [h.method]
    decide
  rw [answer, if_neg hmethod, h.path, ofPath_ingestPath]
  simp only [if_pos h.method, ingest, h.authorized, h.records]

/-- A request that does not store leaves the service as it is. -/
lemma answer_of_not_stores (h : ∀ rs, ¬ r.Stores s.token rs) : (s.answer r).2 = s := by
  rw [answer]
  split
  · rfl
  · split
    · rfl
    · rename_i hpath
      split
      · rename_i hmethod
        rw [ingest]
        cases hauthorized : r.authorize s.token with
        | error f => rfl
        | ok u =>
            cases hrecords : recordsOf r with
            | error status => rfl
            | ok rs => exact absurd ⟨hmethod, Route.path_of_ingest hpath, hauthorized, hrecords⟩ (h rs)
      · rfl
    · split
      · rfl
      · split <;> rfl

lemma store_rows {t : Table String SubmissionRow} (hs : s.database.rows = some t)
    (rs : List SubmissionRecord) :
    ∃ t', (s.store rs).2 = { s with database := { s.database with rows := some t' } } ∧
      ∀ hash, t'.get? hash =
        (SubmissionRow.lastOf hash (rs.map SubmissionRow.ofRecord)).or (t.get? hash) := by
  obtain ⟨t', ht', -, hget⟩ := IndexDatabase.upsertAll_rows hs (rs.map SubmissionRow.ofRecord)
  refine ⟨t', ?_, hget⟩
  rw [store, IndexDatabase.upsertBatch, ht']

/-- What a request does to the service: if it stores records, every hash has the row of its last record
among them, or the one that it had; otherwise nothing changes. -/
theorem answer_rows {t : Table String SubmissionRow} (hs : s.database.rows = some t)
    (r : ServiceRequest) :
    ∃ t', (s.answer r).2 = { s with database := { s.database with rows := some t' } } ∧
      ((∃ rs, r.Stores s.token rs ∧ ∀ hash, t'.get? hash =
        (SubmissionRow.lastOf hash (rs.map SubmissionRow.ofRecord)).or (t.get? hash)) ∨
      (∀ rs, ¬ r.Stores s.token rs) ∧ t' = t) := by
  by_cases hstores : ∃ rs, r.Stores s.token rs
  · obtain ⟨rs, hrs⟩ := hstores
    obtain ⟨t', ht', hget⟩ := store_rows hs rs
    exact ⟨t', (answer_of_stores hrs).trans ht', .inl ⟨rs, hrs, hget⟩⟩
  · push Not at hstores
    refine ⟨t, ?_, .inr ⟨hstores, rfl⟩⟩
    rw [answer_of_not_stores hstores, ← hs]

end SubmissionService

/-! ### Questions -/

namespace ServiceRequest

/-- The request asks for a hash, in any spelling of it. -/
def AsksStatus (r : ServiceRequest) (h : TransactionHash) : Prop :=
  r.method = "GET" ∧ ∃ name text, Route.ofPath r.path = some (.status name) ∧
    Utf8.toString? (Percent.resolve name) = some text ∧ TransactionHash.read text = .ok h

/-- The request asks for the submissions of an account, in any spelling of it. -/
def AsksAccount (r : ServiceRequest) (a : Account) : Prop :=
  r.method = "GET" ∧ ∃ name text, Route.ofPath r.path = some (.account name) ∧
    Utf8.toString? (Percent.resolve name) = some text ∧ Account.read text = .ok a

/-- A request asks for one account only. -/
lemma AsksAccount.unique {r : ServiceRequest} {a b : Account} (ha : r.AsksAccount a)
    (hb : r.AsksAccount b) : a = b := by
  obtain ⟨-, name, text, hroute, htext, hread⟩ := ha
  obtain ⟨-, name', text', hroute', htext', hread'⟩ := hb
  rw [hroute, Option.some.injEq, Route.account.injEq] at hroute'
  rw [← hroute', htext, Option.some.injEq] at htext'
  rw [← htext', hread, Except.ok.injEq] at hread'
  exact hread'

end ServiceRequest

namespace SubmissionService

variable {s : SubmissionService} {r : ServiceRequest}

lemma answer_of_get {route : Route} (hmethod : r.method = "GET")
    (hroute : Route.ofPath r.path = some route) (hnot : route ≠ .ingest) :
    s.answer r = (s.question route, s) := by
  have hoptions : ¬ r.method = "OPTIONS" := by
    rw [hmethod]
    decide
  rw [answer, if_neg hoptions, hroute]
  cases route with
  | ingest => exact absurd rfl hnot
  | _ => exact if_pos hmethod

lemma answer_of_asksStatus {h : TransactionHash} (hr : r.AsksStatus h) :
    s.answer r = (.ofResult (s.submissionStatus h.text), s) := by
  obtain ⟨hmethod, name, text, hroute, htext, hread⟩ := hr
  have hsame : s.submissionStatus text = s.submissionStatus h.text := by
    unfold submissionStatus readHash
    rw [hread, TransactionHash.read_text]
  rw [answer_of_get hmethod hroute (by simp), question, named, htext]
  simp only [hsame]

lemma answer_of_asksAccount {a : Account} (hr : r.AsksAccount a) :
    s.answer r = (.ofResult (s.submissions a.text), s) := by
  obtain ⟨hmethod, name, text, hroute, htext, hread⟩ := hr
  have hsame : s.submissions text = s.submissions a.text := by
    unfold submissions readAccount
    rw [hread, Account.read_text]
  rw [answer_of_get hmethod hroute (by simp), question, named, htext]
  simp only [hsame]

/-- The question of a poll is answered with what is known of its hash. -/
lemma answer_poll (s : SubmissionService) (url : String) (h : TransactionHash) :
    s.answer ((⟨.get, url, none⟩ : HttpRequest).arriving (Route.statusPath h)) =
      (.ofResult (s.submissionStatus h.text), s) := by
  have harriving : (⟨.get, url, none⟩ : HttpRequest).arriving (Route.statusPath h) =
      ⟨"GET", ServiceRequest.pathOf (Route.statusPath h), [], []⟩ := rfl
  rw [harriving]
  refine answer_of_asksStatus ⟨rfl, Hex.encode h.digest.bytes, h.text, ?_, ?_, h.read_text⟩
  · rw [Route.pathOf_statusPath, Route.ofPath_statusPath]
  · rw [Percent.resolve_of_notMem (Hex.notMem_encode (by decide) _), Utf8.toString?_encode]
    rfl

/-- What is known of a hash is the record of its row. -/
lemma submissionStatus_cases (s : SubmissionService) (h : TransactionHash) :
    (∃ f, s.submissionStatus h.text = .error f) ∨ s.submissionStatus h.text = .ok .null ∨
      ∃ row r, s.database.byHash h.text = .ok (some row) ∧ row.record = .ok r ∧
        s.submissionStatus h.text = .ok r.toJson := by
  have hread : readHash h.text = .ok h := by
    unfold readHash
    rw [TransactionHash.read_text]
  unfold submissionStatus
  simp only [hread]
  cases hrow : s.database.byHash h.text with
  | error f => simp
  | ok found =>
      cases found with
      | none => simp
      | some row =>
          cases hrecord : row.record with
          | error f => simp [hrecord]
          | ok r => exact .inr (.inr ⟨row, r, rfl, hrecord, by simp only [hrecord]⟩)

end SubmissionService

/-! ### What a client makes of it -/

namespace HttpAnswer

/-- The answer over HTTP that comes of one of the service. -/
def ofReply (reply : ServiceReply) : HttpAnswer := ⟨reply.status, .whole (Utf8.ofString reply.body)⟩

/-- A fault is refused by its status. -/
lemma expect_fault {α : Type} (d : Json.Decoder α) (f : ServiceFault) :
    (ofReply (.ofResult (.error f))).expect d = .error (.status f.status) := by
  rw [expect, success?, if_pos]
  · rfl
  · have hstatus : 400 ≤ f.status ∧ f.status < 600 := by cases f <;> simp [ServiceFault.status]
    exact hstatus

/-- A value is decoded from its text. -/
lemma expect_json {α : Type} (d : Json.Decoder α) (j : Json) :
    (ofReply (.ofResult (.ok j))).expect d =
      match Json.decodeText d j.text with
      | .error _ => .error .decode
      | .ok v => .ok v := by
  have hbytes : (ofReply (.ofResult (.ok j))).body.bytes? = .ok (Utf8.ofString j.text) := by
    rw [ofReply, HttpBody.whole, HttpBody.bytes?]
    simp [ServiceReply.ofResult, ServiceReply.ofJson]
  rw [expect, success?, if_neg, Json.decodeText]
  · cases hdecode : Json.decode d (Utf8.ofString j.text) <;> simp only [json?, hbytes, hdecode]
  · have hstatus : ¬ (400 ≤ 200 ∧ 200 < 600) := by decide
    exact hstatus

end HttpAnswer

/-- A poll changes nothing, and a record that it brings is that of the hash's row. -/
theorem VerifierGateway.submissionStatus_at (v : VerifierGateway) (h : TransactionHash)
    (s : SubmissionService) :
    ∃ answer, v.submissionStatus (SubmissionService.at v.base) h s = (answer, s) ∧
      ∀ r, answer = .ok (some r) →
        ∃ row, s.database.byHash h.text = .ok (some row) ∧ row.record = .ok r := by
  have hurl : v.base ++ "/submission-status/" ++ h.text = v.base ++ Route.statusPath h :=
    String.append_assoc
  have hasked : (SubmissionService.at v.base).answer ⟨.get, v.base ++ Route.statusPath h, none⟩ s =
      (.answered (.ofReply (.ofResult (s.submissionStatus h.text))), s) := by
    have hdrop : (v.base ++ Route.statusPath h).toList.drop v.base.toList.length =
        (Route.statusPath h).toList := by
      rw [String.toList_append, List.drop_left]
    rw [SubmissionService.at]
    simp only [String.toList_append, List.prefix_append, if_true]
    rw [← String.toList_append, hdrop, String.ofList_toList, SubmissionService.answer_poll]
    rfl
  rw [submissionStatus, hurl]
  cases husable : Address.isUsable (v.base ++ Route.statusPath h) with
  | false =>
      have hask : (SubmissionService.at v.base).ask ⟨.get, v.base ++ Route.statusPath h, none⟩ s =
          (.error .builder, s) := by
        simp [Exchange.ask, husable]
      exact ⟨_, Exchange.askFor_of_error hask, fun r hr => by cases hr⟩
  | true =>
      have hask : (SubmissionService.at v.base).ask ⟨.get, v.base ++ Route.statusPath h, none⟩ s =
          (.ok (.ofReply (.ofResult (s.submissionStatus h.text))), s) := by
        simp only [Exchange.ask, husable, if_true, hasked]
      refine ⟨_, Exchange.askFor_of_ask hask, fun r hr => ?_⟩
      have hnone : Json.decodeText (Json.asOption SubmissionRecord.ofJson) Json.null.text = .ok none :=
        SubmissionRecord.readsAs_option.text none
      have hsome {x : SubmissionRecord} (hx : x.time.IsRegular) :
          Json.decodeText (Json.asOption SubmissionRecord.ofJson) x.toJson.text = .ok (some x) := by
        rw [← congrArg some (SubmissionRecord.settled_of_isRegular hx)]
        exact SubmissionRecord.readsAs_option.text (some x)
      rcases s.submissionStatus_cases h with ⟨f, hf⟩ | hnull | ⟨row, r', hrow, hrecord, hjson⟩
      · rw [hf, HttpAnswer.expect_fault] at hr
        cases hr
      · rw [hnull, HttpAnswer.expect_json, hnone] at hr
        cases hr
      · rw [hjson, HttpAnswer.expect_json, hsome (SubmissionRow.isRegular_of_record hrecord)] at hr
        cases hr
        exact ⟨row, hrow, hrecord⟩

end ChainElection
