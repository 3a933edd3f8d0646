/-!
Tables: finite maps whose entries keep the order in which they came.

* `Table.get?` looks a key up, `Table.set` writes an entry in its place or at
  the end, `Table.erase` takes it out.
* `get?_set` and `get?_erase` say what each does to look-ups; no other fact
  about a table is needed to reason about what is found in it.
* `nodup_keys_set`, `get?_eq_some_iff`: no key comes to stand twice, and then
  the entries are what is found.
-/

namespace ChainElection

/-- A finite map with its entries in order. -/
structure Table (κ α : Type) where
  entries : List (κ × α)
  deriving DecidableEq, Inhabited

namespace Table

variable {κ α : Type} [DecidableEq κ]

/-- The table without entries. -/
def empty : Table κ α := ⟨[]⟩

/-- Looks a key up among entries. -/
def find (k : κ) : List (κ × α) → Option α
  | [] => none
  | e :: r => if e.1 = k then some e.2 else find k r

/-- Writes an entry in its place or at the end. -/
def put (k : κ) (a : α) : List (κ × α) → List (κ × α)
  | [] => [(k, a)]
  | e :: r => if e.1 = k then (k, a) :: r else e :: put k a r

/-- What stands at a key. -/
def get? (t : Table κ α) (k : κ) : Option α := find k t.entries

/-- The table with an entry written. -/
def set (t : Table κ α) (k : κ) (a : α) : Table κ α := ⟨put k a t.entries⟩

/-- The table without the entries of a key. -/
def erase (t : Table κ α) (k : κ) : Table κ α := ⟨t.entries.filter fun e => e.1 ≠ k⟩

/-- The keys of the entries, in order. -/
def keys (t : Table κ α) : List κ := t.entries.map Prod.fst

/-- What stands in the entries, in order. -/
def values (t : Table κ α) : List α := t.entries.map Prod.snd

theorem find_put (k l : κ) (a : α) (es : List (κ × α)) :
    find l (put k a es) = if k = l then some a else find l es := by
  induction es with
  | nil => simp [put, find]
  | cons e r ih =>
    by_cases he : e.1 = k
    · subst he
      by_cases h : e.1 = l <;> simp [put, find, h]
    · rw [put, if_neg he, find, find, ih]
      by_cases hl : e.1 = l
      · subst hl
        simp [Ne.symm he]
      · simp [hl]

/-- A written entry is found, and no other look-up changes. -/
theorem get?_set (t : Table κ α) (k l : κ) (a : α) :
    (t.set k a).get? l = if k = l then some a else t.get? l := find_put k l a t.entries

@[simp] theorem get?_set_self (t : Table κ α) (k : κ) (a : α) : (t.set k a).get? k = some a := by
  simp [get?_set]

theorem find_filter (k l : κ) (es : List (κ × α)) :
    find l (es.filter fun e => e.1 ≠ k) = if k = l then none else find l es := by
  induction es with
  | nil => simp [find]
  | cons e r ih =>
    by_cases he : e.1 = k
    · subst he
      simp only [ne_eq, not_true_eq_false, decide_false, Bool.false_eq_true, not_false_eq_true,
        List.filter_cons_of_neg, find]
      rw [ih]
      by_cases h : e.1 = l <;> simp [h]
    · rw [List.filter_cons_of_pos (by simp [he])]
      simp only [find]
      rw [ih]
      by_cases h : k = l
      · subst h; simp [he]
      · simp [h]

/-- An erased key is not found, and no other look-up changes. -/
theorem get?_erase (t : Table κ α) (k l : κ) :
    (t.erase k).get? l = if k = l then none else t.get? l := find_filter k l t.entries

theorem mem_of_find {k : κ} {a : α} {es : List (κ × α)} (h : find k es = some a) :
    (k, a) ∈ es := by
  induction es with
  | nil => exact nomatch h
  | cons e r ih =>
    rw [find] at h
    split at h
    · rename_i he
      cases h
      exact he ▸ List.mem_cons_self
    · exact List.mem_cons_of_mem _ (ih h)

/-- What is found stands under one of the keys. -/
theorem mem_keys_of_get? {t : Table κ α} {k : κ} {a : α} (h : t.get? k = some a) : k ∈ t.keys :=
  List.mem_map_of_mem (mem_of_find h)

/-- What is found is one of the values. -/
theorem mem_values_of_get? {t : Table κ α} {k : κ} {a : α} (h : t.get? k = some a) :
    a ∈ t.values :=
  List.mem_map_of_mem (mem_of_find h)

theorem mem_keys_put {k l : κ} {a : α} {es : List (κ × α)} :
    l ∈ (put k a es).map Prod.fst ↔ l = k ∨ l ∈ es.map Prod.fst := by
  induction es with
  | nil => simp [put]
  | cons e r ih =>
    by_cases he : e.1 = k
    · subst he
      simp [put]
    · rw [put, if_neg he, List.map_cons, List.mem_cons, ih, List.map_cons, List.mem_cons]
      exact or_left_comm

theorem nodup_keys_put {es : List (κ × α)} (h : (es.map Prod.fst).Nodup) (k : κ) (a : α) :
    ((put k a es).map Prod.fst).Nodup := by
  induction es with
  | nil => simp [put]
  | cons e r ih =>
    by_cases he : e.1 = k
    · subst he
      rw [put, if_pos rfl]
      exact h
    · obtain ⟨hfront, hrest⟩ := List.nodup_cons.mp h
      rw [put, if_neg he, List.map_cons, List.nodup_cons, mem_keys_put]
      exact ⟨fun hmem => hmem.elim he hfront, ih hrest⟩

/-- If no key stands twice in a table, none does after an entry was written. -/
theorem nodup_keys_set {t : Table κ α} (h : t.keys.Nodup) (k : κ) (a : α) : (t.set k a).keys.Nodup :=
  nodup_keys_put h k a

theorem find_of_mem {k : κ} {a : α} {es : List (κ × α)} (h : (es.map Prod.fst).Nodup)
    (hmem : (k, a) ∈ es) : find k es = some a := by
  induction es with
  | nil => exact nomatch hmem
  | cons e r ih =>
    obtain ⟨hfront, hrest⟩ := List.nodup_cons.mp h
    rcases List.mem_cons.mp hmem with rfl | hmem
    · rw [find, if_pos rfl]
    · have hne : ¬ e.1 = k := fun he => hfront (he ▸ List.mem_map_of_mem hmem)
      rw [find, if_neg hne]
      exact ih hrest hmem

/-- If no key stands twice, what is found at a key is what stands in an entry of it. -/
theorem get?_eq_some_iff {t : Table κ α} (h : t.keys.Nodup) {k : κ} {a : α} :
    t.get? k = some a ↔ (k, a) ∈ t.entries :=
  ⟨mem_of_find, find_of_mem h⟩

@[simp] theorem get?_empty (k : κ) : (empty : Table κ α).get? k = none := rfl

end Table

end ChainElection
