import ChainElection.Submission.Database

/-!
Stores of submissions over time: loads, saves and restarts one after the other.

* `StoreOperations` is what can be done with a store of any kind; a database,
  lists in memory and the store of a tracker are such kinds.
* `StoreOperations.run` gives the answers to a sequence of actions.
* `lastSaved` looks up in such a sequence what was saved for an account last,
  and `answers` are those of someone who remembers the whole sequence.
-/

namespace ChainElection

/-- What can be done with a store. A store that lives as long as the program is just kept when it would be
closed and opened again. -/
structure StoreOperations (σ : Type) where
  load : σ → Account → Except ClientError (List Submission)
  save : σ → Account → List Submission → Except ClientError Unit × σ
  reopen : σ → Except ClientError Unit × σ

/-- The operations of a database in a file. -/
def SubmissionDatabase.operations : StoreOperations SubmissionDatabase where
  load := load
  save := save
  reopen := migrate

/-- The operations of lists in memory. -/
def HeldLists.operations : StoreOperations HeldLists where
  load := load
  save := save
  reopen := fun l => (.ok (), l)

/-- The operations of the store that a tracker works with. -/
def SubmissionStore.operations : StoreOperations SubmissionStore where
  load := load
  save := fun st a ss =>
    match st.save a ss with
    | .error e => (.error e, st)
    | .ok st => (.ok (), st)
  reopen := fun st => (.ok (), st)

/-- What is done with a store. -/
inductive StoreAction where
  | load (a : Account)
  | save (a : Account) (ss : List Submission)
  | reopen
  deriving DecidableEq

/-- What a store answers: with a list, or that something is done. -/
inductive StoreAnswer where
  | loaded (answer : Except ClientError (List Submission))
  | done (answer : Except ClientError Unit)

namespace StoreOperations

variable {σ : Type}

/-- The answer to an action, and the store after it. -/
def act (o : StoreOperations σ) (s : σ) : StoreAction → StoreAnswer × σ
  | .load a => (.loaded (o.load s a), s)
  | .save a ss => (.done (o.save s a ss).1, (o.save s a ss).2)
  | .reopen => (.done (o.reopen s).1, (o.reopen s).2)

/-- The answers to actions, one after the other. -/
def run (o : StoreOperations σ) (s : σ) : List StoreAction → List StoreAnswer
  | [] => []
  | x :: xs => (o.act s x).1 :: o.run (o.act s x).2 xs

end StoreOperations

namespace StoreAction

/-- The list that an action saves for an account. -/
def saved (a : Account) : StoreAction → Option (List Submission)
  | .save b ss => if b = a then some ss else none
  | _ => none

/-- The list that was saved last for an account, the empty one if there is none. -/
def lastSaved (a : Account) (history : List StoreAction) : List Submission :=
  ((history.filterMap (saved a)).getLast?).getD []

/-- The answer to an action by someone who remembers all that was done before. -/
def answer (history : List StoreAction) : StoreAction → StoreAnswer
  | .load a => .loaded (.ok (lastSaved a history))
  | .save _ _ | .reopen => .done (.ok ())

/-- The answers to actions by someone who remembers all that was done before. -/
def answers (history : List StoreAction) : List StoreAction → List StoreAnswer
  | [] => []
  | x :: xs => x.answer history :: answers (history ++ [x]) xs

end StoreAction

end ChainElection
