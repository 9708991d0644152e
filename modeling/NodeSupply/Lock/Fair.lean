/-!
# Fair locks

A lock is the line of its clients.  The first of them holds it, the others wait, and whoever leaves
makes room for the next, so the lock is granted in order of arrival.

## Main definitions

* `FairLock` : the clients in order of arrival.
* `FairLock.enter`, `FairLock.leave` : a client arrives, or gives its place up.
-/

namespace NodeSupply

/-- A lock, as its clients in order of arrival. -/
structure FairLock (τ : Type) where
  /-- The holder and then those who wait. -/
  clients : List τ
deriving DecidableEq

namespace FairLock

variable {τ : Type}

/-- The lock without clients. -/
def idle : FairLock τ := ⟨[]⟩

/-- Whether a lock has no clients. -/
def isIdle (l : FairLock τ) : Bool := l.clients.isEmpty

/-- The client that holds a lock. -/
def holder? (l : FairLock τ) : Option τ := l.clients.head?

/-- The clients that wait for a lock, in order of arrival. -/
def waiting (l : FairLock τ) : List τ := l.clients.tail

/-- A lock after a client arrived. -/
def enter (l : FairLock τ) (t : τ) : FairLock τ := ⟨l.clients ++ [t]⟩

/-- A lock after a client gave its place up. -/
def leave [BEq τ] (l : FairLock τ) (t : τ) : FairLock τ := ⟨l.clients.erase t⟩

/-- Whether a client holds a lock. -/
def isHeldBy [BEq τ] (l : FairLock τ) (t : τ) : Bool := l.holder? == some t

/-- A client that finds a lock idle holds it at once. -/
theorem holder?_enter_idle (t : τ) : (idle.enter t).holder? = some t := rfl

/-- A client that arrives does not take the lock from its holder. -/
theorem holder?_enter {l : FairLock τ} {h : τ} (held : l.holder? = some h) (t : τ) :
    (l.enter t).holder? = some h := by
  cases l with
  | mk clients => cases clients <;> simp_all [holder?, enter]

/-- When the holder leaves, the client that has waited longest holds the lock. -/
theorem holder?_leave_holder [BEq τ] [LawfulBEq τ] {l : FairLock τ} {h : τ}
    (held : l.holder? = some h) : (l.leave h).holder? = l.waiting.head? := by
  cases l with
  | mk clients => cases clients <;> simp_all [holder?, leave, waiting]

end FairLock

end NodeSupply
