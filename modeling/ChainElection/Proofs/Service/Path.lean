import Mathlib.Tactic
import Mathlib.Data.List.TakeWhile
import ChainElection.Service.Answer
import ChainElection.Proofs.Bytes.Hex
import ChainElection.Proofs.Text.Blank

/-!
Paths: what a path asks the service for.

* `Percent.resolve_of_notMem`: a text without percent signs stands for itself.
* `Route.ofPath_statusPath`: the path of a hash asks for this hash;
  `Route.path_of_ingest`: only one path stands for the storing of records.
-/

namespace ChainElection

/-! ### Escapes -/

namespace Percent

/-- A text without percent signs stands for itself. -/
lemma resolve_of_notMem {s : List Char} (h : '%' ∉ s) : resolve s = Utf8.encode s := by
  induction s using resolve.induct with
  | case1 => rw [resolve]; rfl
  | case2 c => rw [resolve]
  | case3 c d => rw [resolve]
  | case4 d e r _ _ _ _ _ => exact absurd List.mem_cons_self h
  | case5 d e r _ _ => exact absurd List.mem_cons_self h
  | case6 c d e r hc ih =>
      rw [List.mem_cons, not_or] at h
      rw [resolve, if_neg hc, ih h.2, ← Utf8.encode_append]
      rfl

end Percent

/-! ### Paths of the service -/

namespace ServiceRequest

/-- A target that is a path is all of the path. -/
lemma pathOf_of_slash {s : List Char} (h : '?' ∉ '/' :: s) (h' : '#' ∉ '/' :: s) :
    pathOf (String.ofList ('/' :: s)) = String.ofList ('/' :: s) := by
  have hall : (String.ofList ('/' :: s)).toList.takeWhile (fun c => !(c == '?' || c == '#')) =
      '/' :: s := by
    rw [String.toList_ofList, List.takeWhile_eq_self_iff]
    intro c hc
    have hq : c ≠ '?' := fun heq => h (heq ▸ hc)
    have hs : c ≠ '#' := fun heq => h' (heq ▸ hc)
    simp [hq, hs]
  rw [pathOf]
  simp only [hall]

end ServiceRequest

namespace Route

/-- The path under which the service is asked for a hash. -/
def statusPath (h : TransactionHash) : String := "/submission-status/" ++ h.text

lemma toList_append_text (path : String) (h : TransactionHash) :
    (path ++ h.text).toList = path.toList ++ Hex.encode h.digest.bytes := by
  rw [String.toList_append, TransactionHash.text, Hex.text, String.toList_ofList]

lemma toList_statusPath (h : TransactionHash) :
    (statusPath h).toList = '/' :: ("submission-status".toList ++ '/' :: Hex.encode h.digest.bytes) := by
  have hmark : "/submission-status/".toList = '/' :: ("submission-status".toList ++ ['/']) := rfl
  have hlist : (statusPath h).toList =
      '/' :: ("submission-status".toList ++ ['/']) ++ Hex.encode h.digest.bytes :=
    (toList_append_text "/submission-status/" h).trans (congrArg (· ++ _) hmark)
  simpa only [List.cons_append, List.append_assoc, List.nil_append] using hlist

/-- Neither a query nor a fragment is part of it. -/
lemma pathOf_statusPath (h : TransactionHash) :
    ServiceRequest.pathOf (statusPath h) = statusPath h := by
  have hpath : statusPath h =
      String.ofList ('/' :: ("submission-status".toList ++ '/' :: Hex.encode h.digest.bytes)) := by
    rw [← toList_statusPath, String.ofList_toList]
  have hnot : ∀ {c : Char}, c ∉ "0123456789abcdef".toList → c ≠ '/' → c ∉ "submission-status".toList →
      c ∉ '/' :: ("submission-status".toList ++ '/' :: Hex.encode h.digest.bytes) := by
    intro c hdigit hslash hmark
    simp only [List.mem_cons, List.mem_append, not_or]
    exact ⟨hslash, hmark, hslash, Hex.notMem_encode hdigit _⟩
  rw [hpath]
  exact ServiceRequest.pathOf_of_slash (hnot (by decide) (by decide) (by decide))
    (hnot (by decide) (by decide) (by decide))

/-- The path of a hash asks for this hash. -/
lemma ofPath_statusPath (h : TransactionHash) :
    ofPath (statusPath h) = some (.status (Hex.encode h.digest.bytes)) := by
  have hparts : Text.splitOn '/' (statusPath h).toList =
      [[], "submission-status".toList, Hex.encode h.digest.bytes] := by
    rw [toList_statusPath, Text.splitOn, if_pos rfl, Text.splitOn_append (by decide),
      Text.splitOn_of_notMem (Hex.notMem_encode (by decide) _)]
  have hne : Hex.encode h.digest.bytes ≠ [] := by
    intro hnil
    have hlength := Hex.length_encode h.digest.bytes
    rw [hnil, h.digest.length_eq] at hlength
    cases hlength
  rw [ofPath, hparts]
  simp only [if_neg hne, if_true]

/-- Only one path stands for the storing of records. -/
lemma path_of_ingest {path : String} (h : ofPath path = some .ingest) : path = ingestPath := by
  have hlist : path.toList = ingestPath.toList := by
    have hjoined := Text.intercalate_splitOn '/' path.toList
    rw [ofPath] at h
    split at h
    · rename_i s hparts
      rw [hparts] at hjoined
      split at h
      · cases h
      · split at h
        · cases h
        · split at h
          · rename_i hs
            rw [← hjoined, hs]
            rfl
          · cases h
    · split at h
      · cases h
      · split at h
        · cases h
        · split at h <;> cases h
    · cases h
  exact String.toList_inj.mp hlist

end Route

end ChainElection
