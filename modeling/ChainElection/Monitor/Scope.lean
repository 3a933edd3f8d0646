import ChainElection.Chain.Account
import ChainElection.Table

/-!
Scopes: who wants an account's submissions to be monitored.

Everyone who wants it holds a guard. The guards that are alive together share a
signal; when the last of them is released, the signal is aborted for ever, and
the next guard gets a new one. Signals are numbered in the order in which they
are made.

* `Scopes.acquire` hands out a guard, `Scopes.release` takes it back.
* `Scopes.holders` counts the guards of an account.
* `Scopes.isAborted` asks for a signal.
-/

namespace ChainElection

/-- The scope of an account: the signal of its guards and their number. -/
structure Scope where
  signal : Nat
  holders : Nat
  deriving DecidableEq, Repr

/-- A guard: whose it is, and the signal that it shares. -/
structure Guard where
  account : Account
  signal : Nat
  deriving DecidableEq

/-- The scopes of all accounts, the guards that are alive, and the signals that are aborted. -/
structure Scopes where
  scopes : Table Account Scope
  guards : Table Nat Guard
  nextGuard : Nat
  nextSignal : Nat
  aborted : List Nat
  deriving DecidableEq

namespace Scopes

/-- No scopes at all. -/
def empty : Scopes := ⟨.empty, .empty, 0, 0, []⟩

instance : Inhabited Scopes := ⟨empty⟩

/-- The number of guards of an account. -/
def holders (s : Scopes) (a : Account) : Nat :=
  match s.scopes.get? a with
  | some e => e.holders
  | none => 0

/-- Is a signal aborted? -/
def isAborted (s : Scopes) (signal : Nat) : Bool := s.aborted.contains signal

/-- A guard of an account, by its number. -/
def acquire (s : Scopes) (a : Account) : Nat × Scopes :=
  let (scope, next) := match s.scopes.get? a with
    | some e => (⟨e.signal, e.holders + 1⟩, s.nextSignal)
    | none => ((⟨s.nextSignal, 1⟩ : Scope), s.nextSignal + 1)
  (s.nextGuard,
    { s with
      scopes := s.scopes.set a scope
      guards := s.guards.set s.nextGuard ⟨a, scope.signal⟩
      nextGuard := s.nextGuard + 1
      nextSignal := next })

/-- Takes a guard back. The last one of its account aborts the signal. -/
def release (s : Scopes) (g : Nat) : Scopes :=
  match s.guards.get? g with
  | none => s
  | some guard =>
    let s := { s with guards := s.guards.erase g }
    match s.scopes.get? guard.account with
    | none => s
    | some e =>
      if e.holders = 1 then
        { s with scopes := s.scopes.erase guard.account, aborted := e.signal :: s.aborted }
      else
        { s with scopes := s.scopes.set guard.account ⟨e.signal, e.holders - 1⟩ }

end Scopes

end ChainElection
