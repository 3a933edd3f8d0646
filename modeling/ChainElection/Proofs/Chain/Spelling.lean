import Mathlib.Data.Nat.Digits.Defs
import Mathlib.Tactic
import ChainElection.CommandLine.Options
import ChainElection.Proofs.Bytes.Base58
import ChainElection.Proofs.Service.Answer

/-!
Accounts and transaction hashes, and the texts that they are read from.

* `Account.read_eq_ok_iff`: an account has one spelling, its text.
  `Account.exists_digits` says what this text is as a number.
* `TransactionHash.Spells`: a hash has several, its digits in either case and with
  or without a mark in front. `TransactionHash.read_eq_ok_iff`: from these it is
  read.
* `Account.HasOneSpelling` and `TransactionHash.HasSpellings`: so do all that read
  accounts and hashes, and the key of a hash is the same whatever its spelling.
  `keys_are_read_from_their_spellings` puts this together.
-/

namespace ChainElection

/-- A block is had from bytes if there are as many as it has, and keeps them. -/
lemma Bytes32.ofList?_eq_ok_iff {bs : List UInt8} {b : Bytes32} :
    (match ofList? bs with
      | some b => Except.ok b
      | none => .error (KeyFault.length bs.length)) = .ok b ↔ bs = b.bytes := by
  constructor
  · intro h
    split at h
    · rename_i b' hblock
      rw [← Except.ok.inj h, ofList?_eq_some hblock]
    · cases h
  · rintro rfl
    rw [ofList?_bytes]

/-! ### Accounts -/

namespace Account

/-- An account is read from its text, and from no other. -/
theorem read_eq_ok_iff {s : String} {a : Account} : read s = .ok a ↔ s = a.text := by
  constructor
  · intro h
    obtain ⟨key, hkey, rfl⟩ := map_eq_ok_iff.mp h
    rw [Bytes32.ofBase58] at hkey
    cases hread : Base58.read s with
    | error f =>
        rw [hread] at hkey
        cases hkey
    | ok bs =>
        rw [hread] at hkey
        obtain rfl := Bytes32.ofList?_eq_ok_iff.mp hkey
        exact Base58.read_eq_ok_iff.mp hread
  · rintro rfl
    exact read_text a

lemma exists_read_eq_error_iff {s : String} :
    (∃ f, read s = .error f) ↔ ∀ a : Account, s ≠ a.text :=
  exists_eq_error_iff.trans <| forall_congr' fun _ => not_congr read_eq_ok_iff

/-- The text of an account is its number in base 58, with as many zeros in front as its key has. -/
lemma exists_digits (a : Account) :
    ∃ digits : List ℕ, (∀ d ∈ digits, d < 58) ∧ a.text.toList = digits.map Base58.digitChar ∧
      (digits.takeWhile (· == 0)).length = (a.key.bytes.takeWhile (· == 0)).length ∧
      Nat.ofDigits 58 digits.reverse = Nat.ofDigits 256 (a.key.bytes.reverse.map UInt8.toNat) := by
  have hnat (b : ℕ) (ds : List ℕ) :
      Positional.ofDigits b ds = Nat.ofDigits (b + 2) ds.reverse := by
    induction ds using List.reverseRecOn with
    | nil => rfl
    | append_singleton ds d ih =>
        rw [Positional.ofDigits_append, List.reverse_append, List.reverse_singleton,
          List.singleton_append, Nat.ofDigits_cons, ih]
        ring
  refine ⟨Base58.valuesOf a.key.bytes, fun d => Base58.valuesOf_lt, ?_, ?_, ?_⟩
  · rw [text, Base58.text, String.toList_ofList, Base58.encode_eq]
  · exact Base58.length_takeWhile_valuesOf a.key.bytes
  · rw [← hnat 56, Base58.valuesOf, Positional.ofDigits_zeros, Positional.ofDigits_digits,
      Base58.number, hnat, ← List.map_reverse]

end Account

/-! ### Hashes -/

namespace TransactionHash

/-- The text spells the hash: its digits in either case, with or without one mark in front of them. -/
def Spells (s : String) (h : TransactionHash) : Prop :=
  ∃ digits : List Char, (s.toList = digits ∨ s.toList = '0' :: 'x' :: digits) ∧
    digits.map Char.toLower = h.text.toList

/-- What is behind the mark is read, or all of the text if there is none. -/
lemma withoutHexMark_cases (s : String) :
    (∃ r, s.toList = '0' :: 'x' :: r ∧ withoutHexMark s = String.ofList r) ∨
      (∀ r, s.toList ≠ '0' :: 'x' :: r) ∧ withoutHexMark s = s := by
  rw [withoutHexMark]
  split
  · rename_i r heq
    exact .inl ⟨r, heq, rfl⟩
  · rename_i hnone
    exact .inr ⟨hnone, rfl⟩

lemma read_eq_ok_iff_digits {s : String} {h : TransactionHash} :
    read s = .ok h ↔ (withoutHexMark s).toList.map Char.toLower = h.text.toList := by
  rw [text, ← Hex.read_eq_ok_iff, read, map_eq_ok_iff]
  constructor
  · rintro ⟨b, hb, rfl⟩
    rw [Bytes32.ofHex] at hb
    cases hread : Hex.read (withoutHexMark s) with
    | error f =>
        rw [hread] at hb
        cases hb
    | ok bs =>
        rw [hread] at hb
        rw [Bytes32.ofList?_eq_ok_iff.mp hb]
  · intro hread
    refine ⟨h.digest, ?_, rfl⟩
    rw [Bytes32.ofHex, hread]
    exact Bytes32.ofList?_eq_ok_iff.mpr rfl

/-- A hash is read from the texts that spell it, and from no others. -/
theorem read_eq_ok_iff {s : String} {h : TransactionHash} : read s = .ok h ↔ Spells s h := by
  rw [read_eq_ok_iff_digits, Spells]
  rcases withoutHexMark_cases s with ⟨r, hs, hmark⟩ | ⟨hnone, hsame⟩
  · rw [hmark, String.toList_ofList]
    refine ⟨fun hr => ⟨r, .inr hs, hr⟩, ?_⟩
    rintro ⟨digits, hdigits | hdigits, hlower⟩
    · -- The mark itself is not made of digits.
      have hx : 'x' ∈ h.text.toList := by
        rw [← hlower, ← hdigits, hs]
        exact List.mem_cons_of_mem _ List.mem_cons_self
      rw [text, Hex.text, String.toList_ofList] at hx
      exact absurd hx (Hex.notMem_encode (by decide) _)
    · rw [hs, List.cons.injEq, List.cons.injEq] at hdigits
      rw [hdigits.2.2]
      exact hlower
  · rw [hsame]
    refine ⟨fun hs => ⟨s.toList, .inl rfl, hs⟩, ?_⟩
    rintro ⟨digits, rfl | hdigits, hlower⟩
    · exact hlower
    · exact absurd hdigits (hnone digits)

lemma exists_read_eq_error_iff {s : String} :
    (∃ f, read s = .error f) ↔ ∀ h, ¬ Spells s h :=
  exists_eq_error_iff.trans <| forall_congr' fun _ => not_congr read_eq_ok_iff

/-- The text of a hash consists of two digits for each byte, in lower case. -/
lemma toList_text (h : TransactionHash) : h.text.toList =
    h.digest.bytes.flatMap fun b => [Nat.digitChar (b.toNat / 16), Nat.digitChar (b.toNat % 16)] := by
  have hdigit : ∀ n < 16, Hex.digitChar n = Nat.digitChar n := by decide
  rw [text, Hex.text, String.toList_ofList, Hex.encode]
  congr 1
  funext b
  rw [Hex.encodeByte, hdigit _ (Hex.div_lt b), hdigit _ (Hex.mod_lt b)]

end TransactionHash

/-! ### Readers -/

/-- What can be read from a text is decoded from a JSON string of it, and nothing else is. -/
lemma Json.asParsed_string_eq_ok_iff {α : Type} {parse : String → Option α} {raw : List UInt8}
    {s : String} (hraw : Json.text? raw = some s) {a : α} :
    Json.asParsed parse (.string raw) = .ok a ↔ parse s = some a := by
  have htext : Json.asText (.string raw) = .ok s := by rw [Json.asText, hraw]
  rw [Json.asParsed, htext]
  cases hparse : parse s <;> simp [hparse]

lemma toOption_eq_some_iff {ε α : Type} {x : Except ε α} {a : α} :
    x.toOption = some a ↔ x = .ok a := by
  cases x <;> simp [Except.toOption]

namespace SubmissionService

lemma readHash_eq_ok_iff {s : String} {h : TransactionHash} :
    readHash s = .ok h ↔ TransactionHash.Spells s h := by
  rw [← TransactionHash.read_eq_ok_iff, readHash]
  cases TransactionHash.read s <;> simp

lemma readAccount_eq_ok_iff {s : String} {a : Account} : readAccount s = .ok a ↔ s = a.text := by
  rw [← Account.read_eq_ok_iff, readAccount]
  cases Account.read s <;> simp

end SubmissionService

/-- An account is read from its text and from nothing else: the digits of its number in base 58, with those
of the zeros in front. So do JSON decoders, the words of the program, and the paths of the service. -/
structure Account.HasOneSpelling (a : Account) : Prop where
  read_text : Account.read a.text = .ok a
  digits : ∃ digits : List ℕ, (∀ d ∈ digits, d < 58) ∧ a.text.toList = digits.map Base58.digitChar ∧
    (digits.takeWhile (· == 0)).length = (a.key.bytes.takeWhile (· == 0)).length ∧
      Nat.ofDigits 58 digits.reverse = Nat.ofDigits 256 (a.key.bytes.reverse.map UInt8.toNat)
  read_iff : ∀ s, Account.read s = .ok a ↔ s = a.text
  json_iff : ∀ raw s, Json.text? raw = some s → (Account.ofJson (.string raw) = .ok a ↔ s = a.text)
  word_iff : ∀ s, CommandLine.readAccount s = some a ↔ s = a.text
  path_iff : ∀ s, SubmissionService.readAccount s = .ok a ↔ s = a.text

/-- A hash is read from its 64 digits in either case, with or without one mark in front of them, and from
nothing else. So do JSON decoders, the environment of the program, and the paths of the service; and
whatever spelling a request uses, it is answered with what the index has under the digits in lower case,
where records of the hash are kept. -/
structure TransactionHash.HasSpellings (h : TransactionHash) : Prop where
  read_text : TransactionHash.read h.text = .ok h
  digits : h.text.toList =
    h.digest.bytes.flatMap fun b => [Nat.digitChar (b.toNat / 16), Nat.digitChar (b.toNat % 16)]
  read_iff : ∀ s, TransactionHash.read s = .ok h ↔ TransactionHash.Spells s h
  json_iff : ∀ raw s, Json.text? raw = some s →
    (TransactionHash.ofJson (.string raw) = .ok h ↔ TransactionHash.Spells s h)
  setting : ∀ (env : Environment) name s default, env.lookup name = some s → TransactionHash.Spells s h →
    env.readOr name (fun s => (TransactionHash.read s).toOption) default = h
  path_iff : ∀ s, SubmissionService.readHash s = .ok h ↔ TransactionHash.Spells s h
  answer : ∀ (service : SubmissionService) (r : ServiceRequest) name s, r.method = "GET" →
    Route.ofPath r.path = some (.status name) → Utf8.toString? (Percent.resolve name) = some s →
      TransactionHash.Spells s h →
        service.answer r = (.ofResult (service.submissionStatus h.text), service)
  row : ∀ x : SubmissionRecord, x.hash = h → (SubmissionRow.ofRecord x).hash = h.text

lemma Account.hasOneSpelling (a : Account) : a.HasOneSpelling where
  read_text := a.read_text
  digits := a.exists_digits
  read_iff _ := Account.read_eq_ok_iff
  json_iff raw s hraw := by
    rw [Account.ofJson, Json.asParsed_string_eq_ok_iff hraw, toOption_eq_some_iff, Account.read_eq_ok_iff]
  word_iff s := by rw [CommandLine.readAccount, toOption_eq_some_iff, Account.read_eq_ok_iff]
  path_iff _ := SubmissionService.readAccount_eq_ok_iff

lemma TransactionHash.hasSpellings (h : TransactionHash) : h.HasSpellings where
  read_text := h.read_text
  digits := h.toList_text
  read_iff _ := TransactionHash.read_eq_ok_iff
  json_iff raw s hraw := by
    rw [TransactionHash.ofJson, Json.asParsed_string_eq_ok_iff hraw, toOption_eq_some_iff,
      TransactionHash.read_eq_ok_iff]
  setting env name s default hlookup hspells := by
    rw [Environment.readOr, hlookup, Option.bind_some, TransactionHash.read_eq_ok_iff.mpr hspells]
    rfl
  path_iff _ := SubmissionService.readHash_eq_ok_iff
  answer service r name s hmethod hroute htext hspells := SubmissionService.answer_of_asksStatus
    ⟨hmethod, name, s, hroute, htext, TransactionHash.read_eq_ok_iff.mpr hspells⟩
  row x hx := hx ▸ rfl

/-- Every account is read from its one spelling and every hash from its spellings, and all other texts are
errors. -/
theorem keys_are_read_from_their_spellings :
    (∀ a : Account, a.HasOneSpelling) ∧ (∀ h : TransactionHash, h.HasSpellings) ∧
    (∀ s : String, (∃ f, Account.read s = .error f) ↔ ∀ a : Account, s ≠ a.text) ∧
    ∀ s : String, (∃ f, TransactionHash.read s = .error f) ↔ ∀ h, ¬ TransactionHash.Spells s h :=
  ⟨Account.hasOneSpelling, TransactionHash.hasSpellings, fun _ => Account.exists_read_eq_error_iff,
    fun _ => TransactionHash.exists_read_eq_error_iff⟩

/-- A hash in mixed case behind its mark, with an escape in the path, and an account whose key begins
with zeros. -/
theorem keys_are_read_from_their_spellings_of_mixed_case :
    ∃ (service : SubmissionService) (r : ServiceRequest) (name : List Char) (s : String)
      (h : TransactionHash) (a : Account),
      TransactionHash.Spells s h ∧ s ≠ h.text ∧ TransactionHash.read s = .ok h ∧
      TransactionHash.ofJson (Json.ofText s) = .ok h ∧ SubmissionService.readHash s = .ok h ∧
      Environment.readOr [("HASH", s)] "HASH" (fun s => (TransactionHash.read s).toOption) default = h ∧
      r.method = "GET" ∧ Route.ofPath r.path = some (.status name) ∧
      Utf8.toString? (Percent.resolve name) = some s ∧
      service.answer r = (.ofResult (service.submissionStatus h.text), service) ∧
      Account.read a.text = .ok a ∧ ∃ f, Account.read ("1" ++ a.text) = .error f := by
  obtain ⟨haccount, hhash, hrefused, -⟩ := keys_are_read_from_their_spellings
  let service : SubmissionService := ⟨IndexDatabase.blank, none, ⟨"", ""⟩⟩
  let digits := (List.replicate 32 ['A', 'b']).flatten
  let s := String.ofList ('0' :: 'x' :: digits)
  let name := "%30x".toList ++ digits
  let r : ServiceRequest := ⟨"GET", "/submission-status/" ++ String.ofList name, [], []⟩
  let h : TransactionHash := ⟨⟨List.replicate 32 0xab, rfl⟩⟩
  let a : Account := ⟨⟨List.replicate 31 0 ++ [57], rfl⟩⟩
  have hspells : TransactionHash.Spells s h := ⟨digits, .inr (by decide +kernel), by decide +kernel⟩
  have hroute : Route.ofPath r.path = some (.status name) := by decide +kernel
  have htext : Utf8.toString? (Percent.resolve name) = some s := by decide +kernel
  have hlonger : ∀ b : Account, "1" ++ a.text ≠ b.text := by
    intro b hb
    have hlength : (Base58.read ("1" ++ a.text)).map List.length = .ok 33 := by decide +kernel
    rw [Base58.read_eq_ok_iff.mpr hb, Except.map, b.key.length_eq] at hlength
    cases hlength
  exact ⟨service, r, name, s, h, a, hspells, by decide +kernel, ((hhash h).read_iff s).mpr hspells,
    ((hhash h).json_iff _ s (Json.text?_escape s)).mpr hspells, ((hhash h).path_iff s).mpr hspells,
    (hhash h).setting _ _ s default rfl hspells, rfl, hroute, htext,
    (hhash h).answer service r name s rfl hroute htext hspells, (haccount a).read_text,
    (hrefused _).mpr hlonger⟩

end ChainElection
