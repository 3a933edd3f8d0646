import Mathlib.Data.List.Dedup
import Mathlib.Data.List.Lex
import Mathlib.Data.Prod.Lex
import Mathlib.Tactic
import ChainElection.Index.Run
import ChainElection.Service.Start
import ChainElection.Proofs.Service.Answer
import ChainElection.Proofs.Text.Utf8

/-!
The index is a map from hashes to rows.

* `SubmissionRow.listingKey`: rows are listed by the bytes of their time, then by
  those of their hash; `le_iff`: this is the order that `le` decides.
* `IndexDatabase.upsertBatchAmid_eq`: a batch in which something goes wrong is
  not written, and any other one is.
* `IndexDatabase.Keeps`: the database has its tables, and for every hash the
  last row among those written. `Keeps.act`, `Keeps.run`: so it stays.
* `Keeps.openIndex`: a file that holds such a database is opened with it.
* `IndexDatabase.run_refines_map`: what can be asked of the database after any
  actions, in terms of the rows written by them.
-/

namespace ChainElection

/-! ### The order of the listing -/

lemma Bytes.cons_le_cons_iff {x y : ℕ} {a b : List ℕ} :
    x :: a ≤ y :: b ↔ x < y ∨ x = y ∧ a ≤ b := by
  rw [← not_lt, List.cons_lt_cons_iff, ← not_lt]
  rcases lt_trichotomy x y with h | rfl | h
  · simp [h, h.ne', h.not_gt]
  · simp
  · simp [h, h.ne', h.not_gt]

lemma Bytes.le_iff {a b : List UInt8} :
    Bytes.le a b = true ↔ a.map UInt8.toNat ≤ b.map UInt8.toNat := by
  induction a generalizing b with
  | nil => exact iff_of_true rfl (not_lt.mp (List.not_lt_nil _))
  | cons x a ih =>
      cases b with
      | nil => exact iff_of_false Bool.false_ne_true (not_le.mpr (List.nil_lt_cons _ _))
      | cons y b =>
          rw [Bytes.le, Bool.or_eq_true, Bool.and_eq_true, decide_eq_true_eq, beq_iff_eq, ih,
            UInt8.lt_iff_toNat_lt, ← UInt8.toNat_inj]
          exact Bytes.cons_le_cons_iff.symm

namespace SubmissionRow

/-- The bytes of a text, as numbers. -/
def byteValues (s : String) : List ℕ := (Utf8.ofString s).map UInt8.toNat

lemma byteValues_injective : Function.Injective byteValues := by
  intro s t h
  have hbytes : Utf8.encode s.toList = Utf8.encode t.toList :=
    List.map_injective_iff.mpr (fun _ _ h => UInt8.toNat_inj.mp h) h
  exact String.toList_injective (Utf8.encode_injective hbytes)

/-- What rows are listed by: the bytes of the time, then those of the hash. -/
def listingKey (r : SubmissionRow) : List ℕ ×ₗ List ℕ := toLex (byteValues r.time, byteValues r.hash)

lemma le_iff {a b : SubmissionRow} : a.le b = true ↔ a.listingKey ≤ b.listingKey := by
  rw [le, listingKey, listingKey, Prod.Lex.toLex_le_toLex]
  by_cases htime : a.time = b.time
  · rw [if_pos htime, htime, Bytes.le_iff]
    simp [byteValues]
  · have hne : byteValues a.time ≠ byteValues b.time := fun h => htime (byteValues_injective h)
    rw [if_neg htime, Bytes.le_iff]
    simp only [hne, false_and, or_false]
    exact (lt_iff_le_and_ne.trans (and_iff_left hne)).symm

/-- Sorted rows of different hashes are listed in strictly increasing order. -/
lemma pairwise_listingKey {rows : List SubmissionRow} (h : (rows.map SubmissionRow.hash).Nodup) :
    (rows.mergeSort le).Pairwise fun a b => a.listingKey < b.listingKey := by
  have hsorted : (rows.mergeSort le).Pairwise fun a b => a.le b = true := by
    refine List.pairwise_mergeSort (fun a b c hab hbc => ?_) (fun a b => ?_) rows
    · exact le_iff.mpr ((le_iff.mp hab).trans (le_iff.mp hbc))
    · rw [Bool.or_eq_true, le_iff, le_iff]
      exact le_total _ _
  have hhash : (rows.mergeSort le).Pairwise fun a b => a.hash ≠ b.hash :=
    List.pairwise_map.mp (((List.mergeSort_perm rows le).map _).nodup_iff.mpr h)
  refine (hsorted.and hhash).imp fun {a b} hab => lt_of_le_of_ne (le_iff.mp hab.1) fun hkey => hab.2 ?_
  exact byteValues_injective (congrArg (fun k => (ofLex k).2) hkey)

end SubmissionRow

/-! ### Batches amid failures -/

lemma IndexAction.breaks_cons (fails : ℕ → Bool) (r : SubmissionRow) (rows : List SubmissionRow) :
    breaks fails (r :: rows) = (fails 0 || breaks (fun i => fails (i + 1)) rows) := by
  rw [breaks, breaks, List.length_cons, List.range_succ_eq_map, List.any_cons, List.any_map]
  rfl

namespace IndexDatabase

variable {d : IndexDatabase} {t : Table String SubmissionRow} {written : List SubmissionRow}

lemma upsertAllAmid_eq (d : IndexDatabase) (fails : ℕ → Bool) (rows : List SubmissionRow) :
    d.upsertAllAmid fails rows =
      if IndexAction.breaks fails rows then .error .refused else d.upsertAll rows := by
  induction rows generalizing d fails with
  | nil => simp [upsertAllAmid, IndexAction.breaks, upsertAll]
  | cons r rows ih =>
      rw [upsertAllAmid, IndexAction.breaks_cons]
      by_cases hfails : fails 0 = true
      · rw [if_pos hfails, hfails, Bool.true_or, if_pos rfl]
      · rw [if_neg hfails, Bool.eq_false_iff.mpr hfails, Bool.false_or, upsertAll]
        cases d.upsert r with
        | error f => simp
        | ok d => exact ih d _

/-- A batch is not written if anything goes wrong, and written as a whole otherwise. -/
theorem upsertBatchAmid_eq (d : IndexDatabase) (fails : ℕ → Bool) (rows : List SubmissionRow) :
    d.upsertBatchAmid fails rows =
      if IndexAction.breaks fails rows then (.error .refused, d) else d.upsertBatch rows := by
  rw [upsertBatchAmid, upsertAllAmid_eq]
  by_cases hbreaks : IndexAction.breaks fails rows = true
  · rw [if_pos hbreaks, if_pos hbreaks]
  · rw [if_neg hbreaks, if_neg hbreaks]
    rfl

lemma upsertBatch_of_error {rows : List SubmissionRow} {f : IndexFault}
    (h : (d.upsertBatch rows).1 = .error f) : d.upsertBatch rows = (.error f, d) := by
  rw [upsertBatch] at h ⊢
  split at h
  · cases h
    rfl
  · cases h

/-- Tables of the current version are left as they are. -/
lemma migrate_of_version {v : ℤ} (h : d.version = .ok v) (hv : 1 ≤ v) : d.migrate = (.ok (), d) := by
  have hmigrations : { d with migrations := some (d.migrations.getD []) } = d := by
    obtain ⟨migrations, rows⟩ := d
    cases migrations with
    | none => cases h
    | some ms => rfl
  have hcurrent : ¬ v < currentVersion := not_lt.mpr hv
  rw [migrate, hmigrations]
  simp only [h, if_neg hcurrent]

/-! ### What the database keeps -/

/-- The database has its tables, no hash has two rows, and each has the last row that was written for it. -/
structure Keeps (d : IndexDatabase) (written : List SubmissionRow) : Prop where
  version : d.version = .ok currentVersion
  table : ∃ t, d.rows = some t ∧ t.keys.Nodup ∧
    ∀ hash, t.get? hash = SubmissionRow.lastOf hash written

lemma keeps_fresh : fresh.Keeps [] where
  version := rfl
  table := ⟨.empty, rfl, List.nodup_nil, fun _ => rfl⟩

/-- A batch is written, and its rows come behind all others. -/
lemma Keeps.upsertBatch (h : d.Keeps written) (rows : List SubmissionRow) :
    ∃ d', d.upsertBatch rows = (.ok rows.length, d') ∧ d'.Keeps (written ++ rows) := by
  obtain ⟨t, hd, hkeys, hget⟩ := h.table
  obtain ⟨t', ht', hkeys', hget'⟩ := upsertAll_rows hd rows
  refine ⟨{ d with rows := some t' }, by rw [IndexDatabase.upsertBatch, ht'], h.version, t', rfl,
    hkeys' hkeys, fun hash => ?_⟩
  rw [hget', hget, SubmissionRow.lastOf_append]

lemma Keeps.migrate (h : d.Keeps written) : d.migrate = (.ok (), d) :=
  migrate_of_version h.version le_rfl

/-- An action lets those rows come behind the others that come to stay. -/
lemma Keeps.act (h : d.Keeps written) (a : IndexAction) : (d.act a).Keeps (written ++ a.kept) := by
  cases a with
  | batch fails rows =>
      rw [IndexDatabase.act, upsertBatchAmid_eq, IndexAction.kept]
      split
      · rw [List.append_nil]
        exact h
      · obtain ⟨d', hbatch, hkeeps⟩ := h.upsertBatch rows
        rw [hbatch]
        exact hkeeps
  | reopen =>
      rw [IndexDatabase.act, h.migrate, IndexAction.kept, List.append_nil]
      exact h

/-- So it is after any actions. -/
theorem Keeps.run (h : d.Keeps written) (actions : List IndexAction) :
    (d.run actions).Keeps (written ++ IndexAction.written actions) := by
  induction actions generalizing d written with
  | nil =>
      rw [IndexAction.written, List.flatMap_nil, List.append_nil]
      exact h
  | cons a actions ih =>
      rw [IndexAction.written, List.flatMap_cons, ← List.append_assoc]
      exact ih (h.act a)

/-! ### What can be asked -/

lemma Keeps.byHash (h : d.Keeps written) (hash : String) :
    d.byHash hash = .ok (SubmissionRow.lastOf hash written) := by
  obtain ⟨t, hd, -, hget⟩ := h.table
  rw [IndexDatabase.byHash, hd]
  exact congrArg Except.ok (hget hash)

section Values

variable (hkeys : t.keys.Nodup) (hget : ∀ hash, t.get? hash = SubmissionRow.lastOf hash written)
include hkeys hget

lemma hash_of_mem_entries {e : String × SubmissionRow} (he : e ∈ t.entries) : e.2.hash = e.1 := by
  have hfound : t.get? e.1 = some e.2 := (Table.get?_eq_some_iff hkeys).mpr he
  exact (SubmissionRow.lastOf_eq_some (hget e.1 ▸ hfound)).1

lemma map_hash_values : t.values.map SubmissionRow.hash = t.keys := by
  rw [Table.values, Table.keys, List.map_map]
  exact List.map_congr_left fun e he => hash_of_mem_entries hkeys hget he

/-- The rows of the table are the last ones of their hashes. -/
lemma mem_values_iff {row : SubmissionRow} :
    row ∈ t.values ↔ SubmissionRow.lastOf row.hash written = some row := by
  rw [← hget]
  refine ⟨fun hrow => ?_, Table.mem_values_of_get?⟩
  obtain ⟨e, he, rfl⟩ := List.mem_map.mp hrow
  rw [hash_of_mem_entries hkeys hget he]
  exact (Table.get?_eq_some_iff hkeys).mpr he

lemma mem_keys_iff {hash : String} : hash ∈ t.keys ↔ hash ∈ written.map SubmissionRow.hash := by
  have hnone : SubmissionRow.lastOf hash written = none ↔ hash ∉ written.map SubmissionRow.hash := by
    rw [SubmissionRow.lastOf_eq_none]
    simp
  constructor
  · intro hkey
    obtain ⟨e, he, rfl⟩ := List.mem_map.mp hkey
    have hfound : t.get? e.1 = some e.2 := (Table.get?_eq_some_iff hkeys).mpr he
    by_contra hnot
    rw [hget, hnone.mpr hnot] at hfound
    cases hfound
  · intro hmem
    cases hlast : SubmissionRow.lastOf hash written with
    | none => exact absurd hmem (hnone.mp hlast)
    | some row => exact Table.mem_keys_of_get? ((hget hash).trans hlast)

end Values

/-- The rows of an account are the last ones of their hashes that have the account. -/
lemma Keeps.ofAccount (h : d.Keeps written) (account : String) :
    ∃ rows, d.ofAccount account = .ok rows ∧
      (∀ row, row ∈ rows ↔
        SubmissionRow.lastOf row.hash written = some row ∧ row.account = account) ∧
      (rows.map SubmissionRow.hash).Nodup ∧
      rows.Pairwise fun a b => a.listingKey < b.listingKey := by
  obtain ⟨t, hd, hkeys, hget⟩ := h.table
  have hnodup : ((t.values.filter fun r => r.account == account).map SubmissionRow.hash).Nodup := by
    have hall : (t.values.map SubmissionRow.hash).Nodup := by
      rw [map_hash_values hkeys hget]
      exact hkeys
    exact hall.sublist (List.filter_sublist.map _)
  refine ⟨_, by rw [IndexDatabase.ofAccount, hd], fun row => ?_, ?_,
    SubmissionRow.pairwise_listingKey hnodup⟩
  · rw [List.mem_mergeSort, List.mem_filter, beq_iff_eq, mem_values_iff hkeys hget]
  · exact ((List.mergeSort_perm _ _).map _).nodup_iff.mpr hnodup

/-- There are as many rows as hashes. -/
lemma Keeps.count (h : d.Keeps written) :
    d.count = .ok (written.map SubmissionRow.hash).dedup.length := by
  obtain ⟨t, hd, hkeys, hget⟩ := h.table
  have hperm : t.keys.Perm (written.map SubmissionRow.hash).dedup :=
    (List.perm_ext_iff_of_nodup hkeys (List.nodup_dedup _)).mpr fun hash => by
      rw [mem_keys_iff hkeys hget, List.mem_dedup]
  rw [IndexDatabase.count, hd, ← hperm.length_eq, Table.keys, List.length_map]

end IndexDatabase

/-! ### Requests with a record that cannot be decoded -/

lemma Json.exists_of_items {α : Type} {decoder : Json.Decoder α} {js : List Json} {as : List α}
    (h : Json.items decoder js = .ok as) : ∀ j ∈ js, ∃ a, decoder j = .ok a := by
  induction js generalizing as with
  | nil => simp
  | cons j js ih =>
      rw [Json.items] at h
      cases hj : decoder j with
      | error f =>
          rw [hj] at h
          cases h
      | ok a =>
          rw [hj] at h
          obtain ⟨as', hrest, -⟩ := map_eq_ok_iff.mp h
          intro k hk
          rcases List.mem_cons.mp hk with rfl | hk
          · exact ⟨a, hj⟩
          · exact ih hrest k hk

namespace SubmissionService

variable {s : SubmissionService} {r : ServiceRequest}

/-- A request with a record that cannot be decoded changes nothing. -/
lemma answer_of_undecodable {js : List Json} {j : Json} {f : Json.Fault}
    (hbody : (Json.read r.body).1 = .array js) (hj : j ∈ js)
    (hf : SubmissionRecord.ofJson j = .error f) : (s.answer r).2 = s := by
  refine answer_of_not_stores fun rs hstores => ?_
  obtain ⟨status, hstatus, -⟩ | ⟨rs', hrecords, hdecode⟩ := recordsOf_cases r
  · rw [hstores.records] at hstatus
    cases hstatus
  have hread : Json.read r.body = (.array js, (Json.read r.body).2) := Prod.ext hbody rfl
  rw [Json.decode, hread] at hdecode
  simp only [Json.asList] at hdecode
  cases hitems : Json.items SubmissionRecord.ofJson js with
  | error f' =>
      rw [hitems] at hdecode
      cases hdecode
  | ok xs =>
      obtain ⟨x, hx⟩ := Json.exists_of_items hitems j hj
      rw [hf] at hx
      cases hx

end SubmissionService

/-! ### Files that are opened again -/

open SubmissionService in
/-- A file whose database has its tables is opened with it as it is. -/
lemma IndexDatabase.Keeps.openIndex {d : IndexDatabase} {written : List SubmissionRow}
    (hd : d.Keeps written) {fs fs₁ fs₂ : IndexFiles} {setting : String} {location : StoreLocation}
    {h : DatabaseHandle} (hresolve : StoreLocation.resolve fs setting = (.ok location, fs₁))
    (hopen : openLocation fs₁ location = (some h, fs₂)) (hcontent : fs₂.contentOf h = d) :
    openIndex fs setting = (.ok (h, d), fs₂.writeContent h d) := by
  simp only [SubmissionService.openIndex, hresolve, hopen, hcontent, hd.migrate]

/-! ### The index as a map -/

namespace IndexDatabase

/-- The index is a map from hashes to the last rows that were written for them. After any batches, amid
any failures, and any restarts, a hash has the last row written for it; the rows of an account are those
of the hashes whose last row has it, each once and in strictly increasing order; the rows are as many as
the hashes; the next batch is written as a whole and counted, or not at all if anything goes wrong; and a
restart changes nothing, and finds in its file what was left there. On any database, a batch that fails, a
request with a record that cannot be decoded, and migrations behind the current version change nothing
either. -/
theorem run_refines_map (actions : List IndexAction) :
    let d := fresh.run actions
    let written := IndexAction.written actions
    (∀ hash, d.byHash hash = .ok (SubmissionRow.lastOf hash written)) ∧
    (∀ account, ∃ rows, d.ofAccount account = .ok rows ∧
      (∀ row, row ∈ rows ↔
        SubmissionRow.lastOf row.hash written = some row ∧ row.account = account) ∧
      (rows.map SubmissionRow.hash).Nodup ∧
      rows.Pairwise fun a b => a.listingKey < b.listingKey) ∧
    d.count = .ok (written.map SubmissionRow.hash).dedup.length ∧
    (∀ fails rows, d.upsertBatchAmid fails rows =
      if IndexAction.breaks fails rows then (.error .refused, d)
      else (.ok rows.length, fresh.run (actions ++ [.batch fails rows]))) ∧
    d.migrate = (.ok (), d) ∧
    (∀ fs fs₁ fs₂ setting location h, StoreLocation.resolve fs setting = (.ok location, fs₁) →
      SubmissionService.openLocation fs₁ location = (some h, fs₂) → fs₂.contentOf h = d →
      SubmissionService.openIndex fs setting = (.ok (h, d), fs₂.writeContent h d)) ∧
    (∀ (d : IndexDatabase) fails rows, IndexAction.breaks fails rows = true →
      d.upsertBatchAmid fails rows = (.error .refused, d)) ∧
    (∀ (d : IndexDatabase) rows fault, (d.upsertBatch rows).1 = .error fault →
      (d.upsertBatch rows).2 = d) ∧
    (∀ (s : SubmissionService) (r : ServiceRequest) js j fault, (Json.read r.body).1 = .array js →
      j ∈ js → SubmissionRecord.ofJson j = .error fault → (s.answer r).2 = s) ∧
    ∀ (d : IndexDatabase) v, d.version = .ok v → 1 ≤ v → d.migrate = (.ok (), d) := by
  intro d written
  have hkeeps : d.Keeps written := keeps_fresh.run actions
  refine ⟨hkeeps.byHash, hkeeps.ofAccount, hkeeps.count, fun fails rows => ?_, hkeeps.migrate,
    fun fs fs₁ fs₂ setting location h hresolve hopen hcontent =>
      hkeeps.openIndex hresolve hopen hcontent,
    fun d fails rows hbreaks => ?_, fun d rows fault hfault => ?_,
    fun s r js j fault hbody hj hfault => SubmissionService.answer_of_undecodable hbody hj hfault,
    fun d v hversion hv => migrate_of_version hversion hv⟩
  · have hnext : fresh.run (actions ++ [.batch fails rows]) = (d.upsertBatchAmid fails rows).2 := by
      rw [IndexDatabase.run, List.foldl_append]
      rfl
    rw [hnext, upsertBatchAmid_eq]
    split
    · rfl
    · obtain ⟨d', hbatch, -⟩ := hkeeps.upsertBatch rows
      rw [hbatch]
  · rw [upsertBatchAmid_eq, if_pos hbreaks]
  · rw [upsertBatch_of_error hfault]

/-- A verdict that changes, a row that moves to another account, a batch that breaks, and a restart. -/
theorem run_refines_map_of_moved_row :
    let first : SubmissionRow := ⟨"aa", "x", "2024-05-01T10:00:00.000Z", false⟩
    let second : SubmissionRow := ⟨"bb", "x", "2024-05-01T11:00:00.000Z", true⟩
    let actions : List IndexAction :=
      [.batch (fun _ => false) [first, second, { first with verified := true }],
        .batch (fun place => place == 1) [⟨"cc", "x", "2024-05-01T12:00:00.000Z", true⟩, first],
        .reopen, .batch (fun _ => false) [{ second with account := "y" }]]
    let d := fresh.run actions
    d.byHash "aa" = .ok (some { first with verified := true }) ∧ d.byHash "cc" = .ok none ∧
    (∃ rows, d.ofAccount "x" = .ok rows ∧ { first with verified := true } ∈ rows ∧
      ∀ row ∈ rows, row.hash ≠ "bb") ∧
    d.count = .ok 2 ∧ d.migrate = (.ok (), d) ∧
    d.upsertBatchAmid (fun place => place == 2) [first, second] = (.error .refused, d) := by
  intro first second actions d
  obtain ⟨hhash, haccount, hcount, hbatch, hmigrate, -⟩ := run_refines_map actions
  obtain ⟨rows, hrows, hmem, -⟩ := haccount "x"
  refine ⟨(hhash "aa").trans rfl, (hhash "cc").trans rfl,
    ⟨rows, hrows, (hmem _).mpr ⟨rfl, rfl⟩, fun row hrow hbb => ?_⟩, hcount.trans rfl, hmigrate,
    (hbatch _ _).trans rfl⟩
  obtain ⟨hlast, hx⟩ := (hmem row).mp hrow
  rw [hbb] at hlast
  obtain rfl : row = { second with account := "y" } := (Option.some.inj hlast).symm
  have hnot : ¬ "y" = "x" := by decide
  exact hnot hx

end IndexDatabase

end ChainElection
