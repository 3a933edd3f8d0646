import Mathlib.Tactic
import ChainElection.Proofs.Index.Refinement
import ChainElection.Proofs.Service.Access
import ChainElection.Proofs.Submission.Record

/-!
Which records can be read back from the service.

* `IndexDatabase.Filled`: all that a database holds was stored by a service.
  `Filled.keeps`: it keeps the last row of each hash among records that were
  stored, all of them with regular times.
* `SubmissionService.answer_status`, `answer_account`: what the answer is while
  the index keeps the row of a record. `answer_of_rows`: what it is for an account
  with given rows.
* `SubmissionService.plain_years_are_read_back`: the records of an upload are
  read back if their years have four digits. `far_year_is_not_read_back`: others
  are accepted, and cannot be read.
-/

namespace ChainElection

/-! ### What a service stores -/

/-- All that the database holds was stored by a service: its tables were made, and from there it was only
opened again or answered from. -/
inductive IndexDatabase.Filled : IndexDatabase → Prop where
  | fresh : Filled IndexDatabase.fresh
  | reopened {d : IndexDatabase} (h : Filled d) : Filled d.migrate.2
  | answered {s : SubmissionService} (h : Filled s.database) (r : ServiceRequest) :
      Filled (s.answer r).2.database

namespace SubmissionService

variable {s : SubmissionService} {r : ServiceRequest} {rs : List SubmissionRecord}

/-- A service with its tables stores all records that it is given, and counts them. -/
lemma store_of_keeps {written : List SubmissionRow} (h : s.database.Keeps written)
    (rs : List SubmissionRecord) :
    ∃ d, s.store rs = (.ok (Json.ofMembers [("status", Json.ofText "ok"),
        ("inserted", Json.ofNat rs.length)]), { s with database := d }) ∧
      d.Keeps (written ++ rs.map SubmissionRow.ofRecord) := by
  obtain ⟨d, hbatch, hkeeps⟩ := h.upsertBatch (rs.map SubmissionRow.ofRecord)
  exact ⟨d, by rw [store, hbatch, List.length_map], hkeeps⟩

end SubmissionService

/-- The rows of a database that a service has filled are those of records with regular times. -/
lemma IndexDatabase.Filled.keeps {d : IndexDatabase} (h : d.Filled) :
    ∃ rs : List SubmissionRecord, (∀ r ∈ rs, r.time.IsRegular) ∧
      d.Keeps (rs.map SubmissionRow.ofRecord) := by
  induction h with
  | fresh => exact ⟨[], List.forall_mem_nil _, IndexDatabase.keeps_fresh⟩
  | reopened h ih =>
      obtain ⟨rs, hregular, hkeeps⟩ := ih
      refine ⟨rs, hregular, ?_⟩
      rw [hkeeps.migrate]
      exact hkeeps
  | @answered s h r ih =>
      obtain ⟨rs, hregular, hkeeps⟩ := ih
      by_cases hstores : ∃ rs', r.Stores s.token rs'
      · obtain ⟨rs', hstores⟩ := hstores
        obtain ⟨d, hstore, hkeeps'⟩ := SubmissionService.store_of_keeps hkeeps rs'
        have hregular' := SubmissionService.isRegular_of_recordsOf hstores.records
        refine ⟨rs ++ rs', List.forall_mem_append.mpr ⟨hregular, hregular'⟩, ?_⟩
        rw [SubmissionService.answer_of_stores hstores, hstore, List.map_append]
        exact hkeeps'
      · push Not at hstores
        rw [SubmissionService.answer_of_not_stores hstores]
        exact ⟨rs, hregular, hkeeps⟩

namespace SubmissionService

variable {s : SubmissionService} {r : ServiceRequest} {rs : List SubmissionRecord}

/-! ### What is answered about records that were stored -/

/-- Rows of regular records are answered cut down to milliseconds, if the years of all of them have four
digits; else none of them is. -/
lemma answer_of_rows {account : Account} {listed : List SubmissionRecord} (hr : r.AsksAccount account)
    (hregular : ∀ y ∈ listed, y.time.IsRegular)
    (hrows : s.database.ofAccount account.text = .ok (listed.map SubmissionRow.ofRecord)) :
    s.answer r =
      (if ∀ y ∈ listed, y.time.HasPlainYear then
          .ofJson (.array (listed.map fun y => y.stored.toJson))
        else .ofFault (.internal "reading stored submissions"), s) := by
  rw [answer_of_asksAccount hr]
  unfold submissions readAccount
  simp only [Account.read_text, hrows]
  rcases SubmissionRow.records_map_ofRecord hregular with ⟨hall, hread⟩ | ⟨⟨y, hy, hnot⟩, f, hread⟩
  · rw [hread, if_pos hall]
    simp only [List.map_map]
    rfl
  · rw [hread, if_neg fun hall => hnot (hall y hy)]
    rfl

section Stored

variable (hkeeps : s.database.Keeps (rs.map SubmissionRow.ofRecord)) {x : SubmissionRecord}
  (hx : x.time.IsRegular)
  (hlast : SubmissionRow.lastOf x.hash.text (rs.map SubmissionRow.ofRecord) =
    some (SubmissionRow.ofRecord x))
include hkeeps hx hlast

/-- A record that the index keeps is answered cut down to milliseconds, if its year has four digits. -/
theorem answer_status (hr : r.AsksStatus x.hash) : s.answer r =
    (if x.time.HasPlainYear then .ofJson x.stored.toJson
      else .ofFault (.internal "reading stored submission"), s) := by
  have hrow : s.database.byHash x.hash.text = .ok (some (SubmissionRow.ofRecord x)) := by
    rw [hkeeps.byHash, hlast]
  rw [answer_of_asksStatus hr]
  unfold submissionStatus readHash
  simp only [TransactionHash.read_text, hrow, SubmissionRow.record_ofRecord_eq,
    SubmissionRecord.settled_of_isRegular hx]
  by_cases hplain : x.time.HasPlainYear
  · simp only [if_pos hplain]
    rfl
  · simp only [if_neg hplain]
    rfl

variable (hregular : ∀ y ∈ rs, y.time.IsRegular)
include hregular

/-- The rows of an account stand for records of it, the row of a record that is kept for that record. -/
lemma exists_listed :
    ∃ listed : List SubmissionRecord, x ∈ listed ∧ (∀ y ∈ listed, y.time.IsRegular) ∧
      (∀ y ∈ listed, y.account = x.account) ∧
      s.database.ofAccount x.account.text = .ok (listed.map SubmissionRow.ofRecord) := by
  obtain ⟨rows, hrows, hmem, -⟩ := hkeeps.ofAccount x.account.text
  have hxrow : SubmissionRow.ofRecord x ∈ rows := (hmem _).mpr ⟨hlast, rfl⟩
  have hrecord : ∀ row ∈ rows, ∃ y, y.time.IsRegular ∧ SubmissionRow.ofRecord y = row := by
    intro row hrow
    obtain ⟨y, hy, heq⟩ := List.mem_map.mp (SubmissionRow.mem_of_lastOf ((hmem row).mp hrow).1)
    exact ⟨y, hregular y hy, heq⟩
  obtain ⟨listed, hlisted, hall, hxmem⟩ := SubmissionRow.exists_map_ofRecord hx hrecord
  refine ⟨listed, hxmem hxrow, hall, fun y hy => ?_, by rw [hlisted, hrows]⟩
  have hrow : SubmissionRow.ofRecord y ∈ rows := hlisted ▸ List.mem_map_of_mem hy
  exact Account.text_injective ((hmem _).mp hrow).2

/-- The records of an account are answered cut down to milliseconds, if the years of all of them have
four digits; else none of them is. -/
theorem answer_account (hr : r.AsksAccount x.account) :
    ∃ listed : List SubmissionRecord, x ∈ listed ∧ (∀ y ∈ listed, y.account = x.account) ∧
      s.answer r =
        (if ∀ y ∈ listed, y.time.HasPlainYear then
            .ofJson (.array (listed.map fun y => y.stored.toJson))
          else .ofFault (.internal "reading stored submissions"), s) := by
  obtain ⟨listed, hmem, hall, haccount, hrows⟩ := exists_listed hkeeps hx hlast hregular
  exact ⟨listed, hmem, haccount, answer_of_rows hr hall hrows⟩

end Stored

/-! ### Uploads, read back -/

/-- An upload that is answered with success stores the records of its body. -/
lemma exists_stores (hupload : r.isUpload = true) (hok : (s.answer r).1.status = 200) :
    ∃ rs, r.Stores s.token rs := by
  obtain ⟨hmethod, hpath⟩ := ServiceRequest.isUpload_eq_true_iff.mp hupload
  rw [answer_of_isUpload hupload, ingest] at hok
  cases hauthorized : r.authorize s.token with
  | error f =>
      rw [hauthorized] at hok
      cases f <;> cases hok
  | ok u =>
      rw [hauthorized] at hok
      obtain ⟨status, hrecords, hfault⟩ | ⟨rs, hrecords, -⟩ := recordsOf_cases r
      · rw [hrecords] at hok
        have hstatus : status = 200 := hok
        omega
      · exact ⟨rs, hmethod, hpath, hauthorized, hrecords⟩

/-- The record that is last of its hash in a batch is the one that counts afterwards. -/
lemma lastOf_map_ofRecord {x : SubmissionRecord} {after : List SubmissionRecord}
    (rs before : List SubmissionRecord) (h : ∀ y ∈ after, y.hash ≠ x.hash) :
    SubmissionRow.lastOf x.hash.text ((rs ++ (before ++ x :: after)).map SubmissionRow.ofRecord) =
      some (SubmissionRow.ofRecord x) := by
  have hafter : SubmissionRow.lastOf x.hash.text (after.map SubmissionRow.ofRecord) = none := by
    rw [SubmissionRow.lastOf_eq_none]
    intro row hrow hhash
    obtain ⟨y, hy, rfl⟩ := List.mem_map.mp hrow
    exact h y hy (TransactionHash.text_injective hhash)
  have hlast : SubmissionRow.lastOf x.hash.text
      (SubmissionRow.ofRecord x :: after.map SubmissionRow.ofRecord) =
        some (SubmissionRow.ofRecord x) := by
    rw [IndexDatabase.lastOf_cons, hafter]
    exact if_pos rfl
  rw [List.map_append, List.map_append, List.map_cons, SubmissionRow.lastOf_append,
    SubmissionRow.lastOf_append, hlast]
  rfl

/-- A service that has been filled stores the records of an upload, and answers so. -/
lemma answer_of_filled {records : List SubmissionRecord} (hs : s.database.Filled)
    (hstores : r.Stores s.token records) : (s.answer r).1.status = 200 ∧
      ∃ rs, (∀ x ∈ rs ++ records, x.time.IsRegular) ∧
        (s.answer r).2.database.Keeps ((rs ++ records).map SubmissionRow.ofRecord) := by
  obtain ⟨rs, hregular, hkeeps⟩ := hs.keeps
  obtain ⟨d, hstore, hkeeps'⟩ := store_of_keeps hkeeps records
  have hupload : r.isUpload = true :=
    ServiceRequest.isUpload_eq_true_iff.mpr ⟨hstores.method, hstores.path⟩
  rw [answer_of_isUpload hupload, ingest, hstores.authorized]
  simp only [hstores.records, hstore]
  have hregular' := isRegular_of_recordsOf hstores.records
  exact ⟨rfl, rs, List.forall_mem_append.mpr ⟨hregular, hregular'⟩, List.map_append ▸ hkeeps'⟩

/-- An upload is answered with success if it has the right to store its records, and only then. The records
that are the last of their hashes in it are read back right after it, cut down to milliseconds, if their
years have four digits: each by its hash, and by its account if the years of all records of the account have
four digits. Any other year lets the service fail, for the account of the record too. -/
theorem plain_years_are_read_back (hs : s.database.Filled) (hupload : r.isUpload = true) :
    ((s.answer r).1.status = 200 ↔ ∃ records, r.Stores s.token records) ∧
    ∀ records, r.Stores s.token records → ∀ before x after, records = before ++ x :: after →
      (∀ y ∈ after, y.hash ≠ x.hash) →
        (∀ ask : ServiceRequest, ask.AsksStatus x.hash → (s.answer r).2.answer ask =
          (if x.time.HasPlainYear then .ofJson x.stored.toJson
            else .ofFault (.internal "reading stored submission"), (s.answer r).2)) ∧
        ∀ ask : ServiceRequest, ask.AsksAccount x.account →
          ∃ listed : List SubmissionRecord, x ∈ listed ∧ (∀ y ∈ listed, y.account = x.account) ∧
            (s.answer r).2.answer ask =
              (if ∀ y ∈ listed, y.time.HasPlainYear then
                  .ofJson (.array (listed.map fun y => y.stored.toJson))
                else .ofFault (.internal "reading stored submissions"), (s.answer r).2) := by
  constructor
  · constructor
    · exact exists_stores hupload
    · rintro ⟨records, hstores⟩
      exact (answer_of_filled hs hstores).1
  · intro records hstores before x after hsplit hlater
    obtain ⟨-, rs, hregular, hkeeps⟩ := answer_of_filled hs hstores
    subst hsplit
    have hx : x.time.IsRegular := hregular x (by simp)
    have hlast := lastOf_map_ofRecord rs before hlater
    exact ⟨fun ask hask => answer_status hkeeps hx hlast hask,
      fun ask hask => answer_account hkeeps hx hlast hregular hask⟩

/-- A leap second, asked for by the digits of the hash in capitals. -/
theorem plain_years_are_read_back_of_leap_second :
    ∃ (s : SubmissionService) (r ask : ServiceRequest) (x : SubmissionRecord),
      s.database.Filled ∧ r.isUpload = true ∧ (s.answer r).1.status = 200 ∧
      recordsOf r = .ok [x] ∧ x.time.nano = 1123456789 ∧ x.stored.time.nano = 1123000000 ∧
      ask.AsksStatus x.hash ∧
      (s.answer r).2.answer ask = (.ofJson x.stored.toJson, (s.answer r).2) := by
  let s : SubmissionService := ⟨IndexDatabase.fresh, some "secret", ⟨"", ""⟩⟩
  let time : Instant := ⟨⟨2016, 12, 31, by decide, by decide⟩, 23, 59, 59, 1123456789,
    by decide, by decide, by decide, by decide⟩
  let x : SubmissionRecord := ⟨⟨⟨List.replicate 32 0xaa, rfl⟩⟩, default, time, true⟩
  let name := List.replicate 64 'A'
  let ask : ServiceRequest := ⟨"GET", "/submission-status/" ++ String.ofList name, [], []⟩
  have hstores : (ServiceRequest.upload "secret" [x]).Stores s.token [x] :=
    ServiceRequest.stores_upload (by decide) (by decide +kernel) (by decide +kernel)
  have hupload : (ServiceRequest.upload "secret" [x]).isUpload = true := rfl
  have hask : ask.AsksStatus x.hash :=
    ⟨rfl, name, String.ofList name, by decide +kernel, by decide +kernel, by decide +kernel⟩
  obtain ⟨hok, hback⟩ := plain_years_are_read_back (s := s) .fresh hupload
  have hread := (hback [x] hstores [] x [] rfl (by simp)).1 ask hask
  have hplain : x.time.HasPlainYear := by decide
  rw [if_pos hplain] at hread
  exact ⟨s, _, ask, x, .fresh, hupload, hok.mpr ⟨[x], hstores⟩, hstores.records, rfl, by decide, hask,
    hread⟩

/-- A record of the year 12345 is accepted, and then neither its hash nor its account can be asked for. -/
theorem far_year_is_not_read_back :
    ∃ (s : SubmissionService) (r askStatus askAccount : ServiceRequest) (x : SubmissionRecord),
      s.database.Filled ∧ r.isUpload = true ∧ (s.answer r).1.status = 200 ∧
      recordsOf r = .ok [x] ∧ askStatus.AsksStatus x.hash ∧ askAccount.AsksAccount x.account ∧
      ((s.answer r).2.answer askStatus).1.status = 500 ∧
      ((s.answer r).2.answer askAccount).1.status = 500 := by
  let s : SubmissionService := ⟨IndexDatabase.fresh, some "secret", ⟨"", ""⟩⟩
  let time : Instant := ⟨⟨12345, 1, 1, by decide, by decide⟩, 0, 0, 0, 0,
    by decide, by decide, by decide, by decide⟩
  let x : SubmissionRecord :=
    ⟨⟨⟨List.replicate 32 0xaa, rfl⟩⟩, ⟨⟨List.replicate 32 0, rfl⟩⟩, time, true⟩
  let hash := List.replicate 64 'a'
  let account := List.replicate 32 '1'
  let askStatus : ServiceRequest := ⟨"GET", "/submission-status/" ++ String.ofList hash, [], []⟩
  let askAccount : ServiceRequest := ⟨"GET", "/submissions/" ++ String.ofList account, [], []⟩
  have hstores : (ServiceRequest.upload "secret" [x]).Stores s.token [x] :=
    ServiceRequest.stores_upload (by decide) (by decide +kernel) (by decide +kernel)
  have hstatus : askStatus.AsksStatus x.hash :=
    ⟨rfl, hash, String.ofList hash, by decide +kernel, by decide +kernel, by decide +kernel⟩
  have haccount : askAccount.AsksAccount x.account :=
    ⟨rfl, account, String.ofList account, by decide +kernel, by decide +kernel, by decide +kernel⟩
  have hfar : ¬ x.time.HasPlainYear := by decide
  obtain ⟨hok, rs, hregular, hkeeps⟩ := answer_of_filled (s := s) .fresh hstores
  have htime : time.IsRegular := by decide
  have hlast := lastOf_map_ofRecord (x := x) rs [] (List.forall_mem_nil _)
  refine ⟨s, _, askStatus, askAccount, x, .fresh, rfl, hok, hstores.records, hstatus, haccount, ?_, ?_⟩
  · rw [answer_status hkeeps htime hlast hstatus, if_neg hfar]
    rfl
  · obtain ⟨listed, hx, -, hanswer⟩ := answer_account hkeeps htime hlast hregular haccount
    rw [hanswer, if_neg fun hall => hfar (hall x hx)]
    rfl

end SubmissionService

end ChainElection
