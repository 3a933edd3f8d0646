import Mathlib.Data.List.Lex
import Mathlib.Tactic
import ChainElection.Proofs.Service.ReadBack
import ChainElection.Proofs.Time.Order

/-!
The submissions of an account are listed in the order of time.

The index compares texts, byte by byte. That this is the order of time rests on
the form that the texts have, so it holds of rows that can be read back.

* `Hex.encode_lt_iff`: digits are ordered as the bytes are that they stand for.
* `SubmissionRow.listingKey_lt_iff`: rows of records are listed by time, and at
  the same time by the bytes of the hash.
* `SubmissionService.asksAccount_of_ok`, `exists_listing`: a question that is
  answered with success is one for an account, and what it is answered with is
  what the index holds of the account.
* `SubmissionService.listings_are_chronological` puts this together.
-/

namespace ChainElection

/-! ### Hashes -/

namespace Hex

lemma digitChar_lt_iff :
    ∀ m < 16, ∀ n < 16, (digitChar m).toNat < (digitChar n).toNat ↔ m < n := by decide

lemma digitChar_inj : ∀ m < 16, ∀ n < 16, (digitChar m).toNat = (digitChar n).toNat ↔ m = n := by
  decide

/-- Digits are ordered as the bytes are that they stand for. -/
theorem encode_lt_iff {as bs : List UInt8} :
    (encode as).map Char.toNat < (encode bs).map Char.toNat ↔
      as.map UInt8.toNat < bs.map UInt8.toNat := by
  induction as generalizing bs with
  | nil =>
      cases bs with
      | nil => exact iff_of_false (List.lt_irrefl _) (List.lt_irrefl _)
      | cons b bs => exact iff_of_true (List.nil_lt_cons _ _) (List.nil_lt_cons _ _)
  | cons a as ih =>
      cases bs with
      | nil => exact iff_of_false (List.not_lt_nil _) (List.not_lt_nil _)
      | cons b bs =>
          have hless : (a.toNat / 16 < b.toNat / 16 ∨
              a.toNat / 16 = b.toNat / 16 ∧ a.toNat % 16 < b.toNat % 16) ↔ a.toNat < b.toNat := by
            omega
          have hsame : (a.toNat / 16 = b.toNat / 16 ∧ a.toNat % 16 = b.toNat % 16) ↔
              a.toNat = b.toNat := by omega
          simp only [encode_cons, List.map_cons, List.cons_lt_cons_iff, ih,
            digitChar_lt_iff _ (div_lt a) _ (div_lt b), digitChar_lt_iff _ (mod_lt a) _ (mod_lt b),
            digitChar_inj _ (div_lt a) _ (div_lt b), digitChar_inj _ (mod_lt a) _ (mod_lt b)]
          rw [← hless, ← hsame]
          tauto

end Hex

/-! ### Rows of records -/

namespace SubmissionRow

variable {x y : SubmissionRecord}

lemma byteValues_text (h : TransactionHash) :
    byteValues h.text = (Hex.encode h.digest.bytes).map Char.toNat := by
  rw [byteValues, Utf8.ofString, TransactionHash.text, Hex.text, String.toList_ofList,
    Utf8.map_toNat_encode (Hex.ascii_encode _)]

/-- Times that are read back have the same text only if they are the same. -/
lemma byteValues_rowText_inj {t u : Instant} (ht : t.IsKept) (hu : u.IsKept) :
    byteValues t.rowText = byteValues u.rowText ↔ t.toMillisecond = u.toMillisecond := by
  constructor
  · intro h
    have hread := ht.readStrict
    rw [byteValues_injective h, hu.readStrict] at hread
    exact (Option.some.inj hread).symm
  · intro h
    rw [← Instant.rowText_toMillisecond ht.plain, h, Instant.rowText_toMillisecond hu.plain]

/-- Rows of records are listed by time, and at the same time by the bytes of the hash. -/
lemma listingKey_lt_iff (hx : x.time.IsKept) (hy : y.time.IsKept) :
    (ofRecord x).listingKey < (ofRecord y).listingKey ↔
      x.stored.time < y.stored.time ∨ x.stored.time = y.stored.time ∧
        x.hash.digest.bytes.map UInt8.toNat < y.hash.digest.bytes.map UInt8.toNat := by
  have htime : byteValues x.time.rowText < byteValues y.time.rowText ↔
      x.stored.time < y.stored.time := Instant.rowText_lt_iff hx hy
  rw [listingKey, listingKey, Prod.Lex.toLex_lt_toLex]
  simp only [ofRecord, htime, byteValues_text, Hex.encode_lt_iff]
  rw [byteValues_rowText_inj hx hy]
  rfl

/-- The bytes of times that are read back are ordered as these are. -/
lemma le_time_iff {t u : Instant} (ht : t.IsKept) (hu : u.IsKept) :
    Bytes.le (Utf8.ofString t.rowText) (Utf8.ofString u.rowText) = true ↔
      t.toMillisecond ≤ u.toMillisecond := by
  have hless : byteValues u.rowText < byteValues t.rowText ↔ u.toMillisecond < t.toMillisecond :=
    Instant.rowText_lt_iff hu ht
  rw [Bytes.le_iff, ← not_lt]
  exact not_congr hless

lemma ofRecord_stored (hx : x.time.HasPlainYear) : ofRecord x.stored = ofRecord x := by
  rw [ofRecord, ofRecord, SubmissionRecord.stored, Instant.rowText_toMillisecond hx]

/-- A row of a regular record that can be read back is one of a plain year. -/
lemma isKept_of_record {r : SubmissionRecord} (hx : x.time.IsRegular) (h : (ofRecord x).record = .ok r) :
    x.time.IsKept ∧ r = x.stored := by
  rw [record_ofRecord_eq, SubmissionRecord.settled_of_isRegular hx] at h
  split at h
  · rename_i hplain
    exact ⟨⟨hx, hplain⟩, (Except.ok.inj h).symm⟩
  · cases h

end SubmissionRow

lemma Instant.not_lt_self (t : Instant) : ¬ t < t := List.lt_irrefl t.parts

lemma Instant.le_of_lt {t u : Instant} (h : t < u) : t ≤ u := by
  have hparts : t.parts < u.parts := h
  exact not_lt.mpr hparts.le

/-! ### Questions for an account -/

namespace SubmissionService

variable {s : SubmissionService} {r : ServiceRequest} {name : List Char}

/-- A question about an account is answered with success only if it names one. -/
lemma asksAccount_of_ok (hmethod : r.method = "GET")
    (hroute : Route.ofPath r.path = some (.account name)) (hok : (s.answer r).1.status = 200) :
    ∃ account, r.AsksAccount account := by
  rw [answer_of_get hmethod hroute (by simp), question, named] at hok
  cases htext : Utf8.toString? (Percent.resolve name) with
  | none =>
      rw [htext] at hok
      cases hok
  | some text =>
      cases hread : Account.read text with
      | ok account => exact ⟨account, hmethod, name, text, hroute, htext, hread⟩
      | error f =>
          rw [htext] at hok
          simp only [submissions, readAccount, hread] at hok
          cases hok

section Rows

variable {rs : List SubmissionRecord} (hregular : ∀ x ∈ rs, x.time.IsRegular)
  (hkeeps : s.database.Keeps (rs.map SubmissionRow.ofRecord))
include hregular hkeeps

/-- The rows of an account in their order, as those of records. -/
lemma exists_rows (account : Account) :
    ∃ found : List SubmissionRecord, (∀ x ∈ found, x.time.IsRegular) ∧
      s.database.ofAccount account.text = .ok (found.map SubmissionRow.ofRecord) ∧
      (∀ row, row ∈ found.map SubmissionRow.ofRecord ↔
        s.database.byHash row.hash = .ok (some row) ∧ row.account = account.text) ∧
      (found.map SubmissionRecord.hash).Nodup ∧
      (found.map SubmissionRow.ofRecord).Pairwise fun a b => a.listingKey < b.listingKey := by
  obtain ⟨rows, hrows, hmem, hnodup, hordered⟩ := hkeeps.ofAccount account.text
  have hrecord : ∀ row ∈ rows, ∃ x, x.time.IsRegular ∧ SubmissionRow.ofRecord x = row := by
    intro row hrow
    obtain ⟨x, hx, heq⟩ := List.mem_map.mp (SubmissionRow.mem_of_lastOf ((hmem row).mp hrow).1)
    exact ⟨x, hregular x hx, heq⟩
  have hdefault : (default : SubmissionRecord).time.IsRegular := by decide
  obtain ⟨found, rfl, hall, -⟩ := SubmissionRow.exists_map_ofRecord hdefault hrecord
  have htexts : (found.map SubmissionRow.ofRecord).map SubmissionRow.hash =
      (found.map SubmissionRecord.hash).map TransactionHash.text := by
    simp only [List.map_map]
    rfl
  refine ⟨found, hall, hrows, fun row => ?_, ?_, hordered⟩
  · rw [hmem, hkeeps.byHash, Except.ok.injEq]
  · rw [htexts] at hnodup
    exact hnodup.of_map _

/-- What a question for an account is answered with: the records of the rows that the index holds of
it. Of two of them the first is earlier, or it has the smaller hash. -/
lemma exists_listing {account : Account} (hr : r.AsksAccount account)
    (hok : (s.answer r).1.status = 200) :
    ∃ listed : List SubmissionRecord,
      s.answer r = (.ofJson (.array (listed.map SubmissionRecord.toJson)), s) ∧
      (∀ row, row ∈ listed.map SubmissionRow.ofRecord ↔
        s.database.byHash row.hash = .ok (some row) ∧ row.account = account.text) ∧
      (listed.map SubmissionRecord.hash).Nodup ∧
      listed.Pairwise fun x y => x.time < y.time ∨ x.time = y.time ∧
        x.hash.digest.bytes.map UInt8.toNat < y.hash.digest.bytes.map UInt8.toNat := by
  obtain ⟨found, hall, hrows, hmem, hnodup, hordered⟩ := exists_rows hregular hkeeps account
  have hanswer := answer_of_rows hr hall hrows
  by_cases hplain : ∀ x ∈ found, x.time.HasPlainYear
  · rw [if_pos hplain] at hanswer
    have hsame : (found.map SubmissionRecord.stored).map SubmissionRow.ofRecord =
        found.map SubmissionRow.ofRecord := by
      rw [List.map_map]
      exact List.map_congr_left fun x hx => SubmissionRow.ofRecord_stored (hplain x hx)
    have hhash : (found.map SubmissionRecord.stored).map SubmissionRecord.hash =
        found.map SubmissionRecord.hash := List.map_map
    refine ⟨found.map SubmissionRecord.stored, ?_, hsame ▸ hmem, hhash ▸ hnodup, ?_⟩
    · rw [hanswer, List.map_map]
      rfl
    · refine List.pairwise_map.mpr ((List.pairwise_map.mp hordered).imp_of_mem fun hx hy hlt => ?_)
      exact (SubmissionRow.listingKey_lt_iff ⟨hall _ hx, hplain _ hx⟩ ⟨hall _ hy, hplain _ hy⟩).mp hlt
  · rw [hanswer, if_neg hplain] at hok
    cases hok

/-- If the years of all records that were stored have four digits, any account can be asked for. -/
lemma ok_of_plainYears {account : Account} (hr : r.AsksAccount account)
    (hplain : ∀ x ∈ rs, x.time.HasPlainYear) : (s.answer r).1.status = 200 := by
  obtain ⟨found, hall, hrows, hmem, -⟩ := exists_rows hregular hkeeps account
  have hplains : ∀ y ∈ found, y.time.HasPlainYear := by
    intro y hy
    have hlast := ((hmem _).mp (List.mem_map_of_mem hy)).1
    rw [hkeeps.byHash, Except.ok.injEq] at hlast
    obtain ⟨x, hx, heq⟩ := List.mem_map.mp (SubmissionRow.mem_of_lastOf hlast)
    have hrecord := SubmissionRow.record_ofRecord_eq x
    rw [if_pos (hplain x hx), heq] at hrecord
    exact (SubmissionRow.isKept_of_record (hall y hy) hrecord).1.plain
  rw [answer_of_rows hr hall hrows, if_pos hplains]
  rfl

end Rows

/-- Whenever the service, filled in any way, answers a question for an account with success, it
answers with the records of the account's rows, no hash twice, in the order of the times that stand in
the answer, and at the same time in the order of the bytes of the hashes. For rows of any accounts that
can be read back, the order of the bytes of their times is the order of time. -/
theorem listings_are_chronological (hs : s.database.Filled) :
    (∀ (r : ServiceRequest) (name : List Char), r.method = "GET" →
      Route.ofPath r.path = some (.account name) → (s.answer r).1.status = 200 →
      ∃ (account : Account) (listed : List SubmissionRecord), r.AsksAccount account ∧
        s.answer r = (.ofJson (.array (listed.map SubmissionRecord.toJson)), s) ∧
        (∀ row, row ∈ listed.map SubmissionRow.ofRecord ↔
          s.database.byHash row.hash = .ok (some row) ∧ row.account = account.text) ∧
        (listed.map SubmissionRecord.hash).Nodup ∧
        (listed.Pairwise fun x y => x.time ≤ y.time) ∧
        listed.Pairwise fun x y =>
          x.time = y.time → Bytes.le x.hash.digest.bytes y.hash.digest.bytes = true) ∧
    ∀ a b x y, s.database.byHash a.hash = .ok (some a) → s.database.byHash b.hash = .ok (some b) →
      a.record = .ok x → b.record = .ok y →
      (Bytes.le (Utf8.ofString a.time) (Utf8.ofString b.time) = true ↔ x.time ≤ y.time) := by
  obtain ⟨rs, hregular, hkeeps⟩ := hs.keeps
  constructor
  · intro r name hmethod hroute hok
    obtain ⟨account, hr⟩ := asksAccount_of_ok hmethod hroute hok
    obtain ⟨listed, hanswer, hmem, hnodup, hpairs⟩ := exists_listing hregular hkeeps hr hok
    refine ⟨account, listed, hr, hanswer, hmem, hnodup, hpairs.imp fun {x y} h => ?_,
      hpairs.imp fun {x y} h heq => ?_⟩
    · rcases h with hlt | ⟨heq, -⟩
      · exact Instant.le_of_lt hlt
      · rw [heq]
        exact Instant.not_lt_self y.time
    · rcases h with hlt | ⟨-, hhash⟩
      · rw [heq] at hlt
        exact absurd hlt (Instant.not_lt_self y.time)
      · exact Bytes.le_iff.mpr hhash.le
  · intro a b x y ha hb hx hy
    have hrecord : ∀ row, s.database.byHash row.hash = .ok (some row) →
        ∃ z, z.time.IsRegular ∧ SubmissionRow.ofRecord z = row := by
      intro row hrow
      rw [hkeeps.byHash, Except.ok.injEq] at hrow
      obtain ⟨z, hz, heq⟩ := List.mem_map.mp (SubmissionRow.mem_of_lastOf hrow)
      exact ⟨z, hregular z hz, heq⟩
    obtain ⟨v, hv, rfl⟩ := hrecord a ha
    obtain ⟨w, hw, rfl⟩ := hrecord b hb
    obtain ⟨hvkept, rfl⟩ := SubmissionRow.isKept_of_record hv hx
    obtain ⟨hwkept, rfl⟩ := SubmissionRow.isKept_of_record hw hy
    exact SubmissionRow.le_time_iff hvkept hwkept

/-- A leap second, stored before the second that it follows on, and listed behind it. -/
theorem listings_are_chronological_of_leap_second :
    ∃ (s : SubmissionService) (r : ServiceRequest) (name : List Char)
      (earlier leap : SubmissionRecord),
      s.database.Filled ∧ r.method = "GET" ∧ Route.ofPath r.path = some (.account name) ∧
      (s.answer r).1.status = 200 ∧ earlier.stored.time < leap.stored.time ∧
      (∃ listed : List SubmissionRecord,
        s.answer r = (.ofJson (.array (listed.map SubmissionRecord.toJson)), s) ∧
        SubmissionRow.ofRecord earlier ∈ listed.map SubmissionRow.ofRecord ∧
        SubmissionRow.ofRecord leap ∈ listed.map SubmissionRow.ofRecord ∧
        listed.Pairwise fun x y => x.time ≤ y.time) ∧
      Bytes.le (Utf8.ofString leap.time.rowText) (Utf8.ofString earlier.time.rowText) = false := by
  let empty : SubmissionService := ⟨IndexDatabase.fresh, some "secret", ⟨"", ""⟩⟩
  let date : Date := ⟨2016, 12, 31, by decide, by decide⟩
  let earlier : SubmissionRecord := ⟨⟨⟨List.replicate 32 0xbb, rfl⟩⟩, ⟨⟨List.replicate 32 0, rfl⟩⟩,
    ⟨date, 23, 59, 59, 999999999, by decide, by decide, by decide, by decide⟩, true⟩
  let leap : SubmissionRecord := ⟨⟨⟨List.replicate 32 0xaa, rfl⟩⟩, ⟨⟨List.replicate 32 0, rfl⟩⟩,
    ⟨date, 23, 59, 59, 1000000001, by decide, by decide, by decide, by decide⟩, true⟩
  let name := List.replicate 32 '1'
  let r : ServiceRequest := ⟨"GET", "/submissions/" ++ String.ofList name, [], []⟩
  let upload := ServiceRequest.upload "secret" [leap, earlier]
  let s := (empty.answer upload).2
  have hstores : upload.Stores empty.token [leap, earlier] :=
    ServiceRequest.stores_upload (by decide) (by decide +kernel) (by decide +kernel)
  have hfilled : s.database.Filled := .answered .fresh upload
  have hkeeps : s.database.Keeps ([leap, earlier].map SubmissionRow.ofRecord) := by
    obtain ⟨d, hstore, hkeeps⟩ := store_of_keeps (s := empty) IndexDatabase.keeps_fresh [leap, earlier]
    have hs : s = (empty.store [leap, earlier]).2 := answer_of_stores hstores
    rw [hs, hstore]
    exact hkeeps
  have hroute : Route.ofPath r.path = some (.account name) := by decide +kernel
  have hasks : r.AsksAccount earlier.account :=
    ⟨rfl, name, String.ofList name, hroute, by decide +kernel, by decide +kernel⟩
  have hok : (s.answer r).1.status = 200 := ok_of_plainYears (by decide) hkeeps hasks (by decide)
  have hleap : s.database.byHash leap.hash.text = .ok (some (SubmissionRow.ofRecord leap)) := by
    have hother : ∀ y ∈ [earlier], y.hash ≠ leap.hash := by decide
    rw [hkeeps.byHash]
    exact congrArg Except.ok (lastOf_map_ofRecord [] [] hother)
  have hearlier : s.database.byHash earlier.hash.text =
      .ok (some (SubmissionRow.ofRecord earlier)) := by
    rw [hkeeps.byHash]
    exact congrArg Except.ok (lastOf_map_ofRecord [] [leap] (List.forall_mem_nil _))
  have hlt : earlier.stored.time < leap.stored.time := by decide
  obtain ⟨hlistings, htimes⟩ := listings_are_chronological hfilled
  obtain ⟨account, listed, hasks', hanswer, hmem, -, hordered, -⟩ := hlistings r name rfl hroute hok
  obtain rfl : account = earlier.account := hasks'.unique hasks
  have hle := htimes _ _ leap.stored earlier.stored hleap hearlier (SubmissionRow.record_ofRecord_eq leap)
    (SubmissionRow.record_ofRecord_eq earlier)
  refine ⟨s, r, name, earlier, leap, hfilled, rfl, hroute, hok, hlt,
    ⟨listed, hanswer, (hmem _).mpr ⟨hearlier, rfl⟩, (hmem _).mpr ⟨hleap, rfl⟩, hordered⟩, ?_⟩
  exact Bool.eq_false_iff.mpr fun h => hle.mp h hlt

end SubmissionService

end ChainElection
