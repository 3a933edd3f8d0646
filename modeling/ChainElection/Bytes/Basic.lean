/-!
Blocks of 32 bytes, and positional notation.

An account key, a transaction hash and a SHA-256 digest are blocks of 32
bytes. A list of digits, the most significant first, denotes a number in any
base; `digits` and `ofDigits` go to and fro, and `ofDigits_digits` says that
the number is kept.
-/

namespace ChainElection

/-- A block of 32 bytes. -/
structure Bytes32 where
  bytes : List UInt8
  length_eq : bytes.length = 32
  deriving DecidableEq

namespace Bytes32

/-- The bytes as a block, if there are 32 of them. -/
def ofList? (bs : List UInt8) : Option Bytes32 :=
  if h : bs.length = 32 then some ⟨bs, h⟩ else none

/-- The block that repeats one byte. -/
def replicate (b : UInt8) : Bytes32 := ⟨List.replicate 32 b, by simp⟩

instance : Inhabited Bytes32 := ⟨replicate 0⟩

theorem ext {a b : Bytes32} (h : a.bytes = b.bytes) : a = b := by
  cases a; cases b; cases h; rfl

@[simp] theorem ofList?_bytes (b : Bytes32) : ofList? b.bytes = some b := by
  simp [ofList?, b.length_eq]

theorem ofList?_eq_some {bs : List UInt8} {b : Bytes32} (h : ofList? bs = some b) :
    b.bytes = bs := by
  unfold ofList? at h
  split at h
  · cases h; rfl
  · exact nomatch h

end Bytes32

/-! ### Positional notation -/

namespace Positional

/-- The digits of `n` in base `b + 2`, the least significant first; none for `0`. -/
def digitsReversed (b : Nat) (n : Nat) : List Nat :=
  if h : n = 0 then [] else n % (b + 2) :: digitsReversed b (n / (b + 2))
termination_by n
decreasing_by exact Nat.div_lt_self (Nat.pos_of_ne_zero h) (by omega)

/-- The digits of `n` in base `b + 2`, the most significant first; none for `0`. -/
def digits (b : Nat) (n : Nat) : List Nat := (digitsReversed b n).reverse

/-- The number that digits in base `b + 2` denote. -/
def ofDigits (b : Nat) (ds : List Nat) : Nat := ds.foldl (fun acc d => acc * (b + 2) + d) 0

theorem digit_lt {b n d : Nat} (h : d ∈ digits b n) : d < b + 2 := by
  rw [digits, List.mem_reverse] at h
  induction n using digitsReversed.induct b with
  | case1 => simp [digitsReversed] at h
  | case2 n hn ih =>
    rw [digitsReversed] at h
    simp only [hn, dite_false, List.mem_cons] at h
    rcases h with rfl | h
    · exact Nat.mod_lt _ (by omega)
    · exact ih h

theorem ofDigits_digits (b n : Nat) : ofDigits b (digits b n) = n := by
  rw [digits, ofDigits, List.foldl_reverse]
  induction n using digitsReversed.induct b with
  | case1 => simp [digitsReversed]
  | case2 n hn ih =>
    rw [digitsReversed]
    simp only [hn, dite_false, List.foldr_cons, ih]
    exact Nat.div_add_mod' n (b + 2)

end Positional

end ChainElection
