import NodeSupply.Offer.Selection
import NodeSupply.Provider.Basic

/-!
# Routines

A routine is a machine that waits at points: for an answer of the provider, for its turn at a lock,
or for time to pass.  With what it waited for it goes on to its next point, is done, or breaks off.
Between two points nothing else happens, so all that other routines can see of it happens at its
points.

## Main definitions

* `Settings`, `Setup`, `Brief` : what routines are told.
* `Gate` : what a routine may hold so that others like it wait.
* `Await`, `Await.Answer` : what a routine waits for, and what it gets.
* `Next` : how a routine goes on.
-/

namespace NodeSupply

/-- What the routines are told about the cluster and about time. -/
structure Settings where
  /-- The cluster that node groups are made for. -/
  cluster : String
  /-- The time between two looks for the instance of a new node. -/
  pollInterval : Duration
  /-- The time that all looks for the instance of a new node may take. -/
  resolveTimeout : Duration
  /-- The time that a call of the provider may take. -/
  callTimeout : Duration
  /-- The time after which a node class is to be looked at again. -/
  requeueAfter : Duration
  /-- How long a verdict counts. -/
  cacheTtl : Duration
  /-- Whether node classes pass without checks. -/
  checksDisabled : Bool
deriving Repr, DecidableEq

/-- What the routines of a session are told, with what can be bought and how ties are broken. -/
structure Setup where
  /-- About the cluster and about time. -/
  settings : Settings
  /-- What can be bought. -/
  market : Market
  /-- The rules that pick among equally good offerings. -/
  tieBreaker : TieBreaker

/-- What one routine is told. -/
structure Brief where
  /-- About the cluster and about time. -/
  settings : Settings
  /-- What can be bought. -/
  market : Market
  /-- The rule that picks among equally good offerings. -/
  tieBreak : TieBreak

/-- What the routine of a number is told: no routine breaks ties more than once, so its rule is its
own. -/
def Setup.brief (s : Setup) (number : Nat) : Brief :=
  ⟨s.settings, s.market, s.tieBreaker.rule number⟩

@[simp] theorem Setup.settings_brief (s : Setup) (number : Nat) :
    (s.brief number).settings = s.settings := rfl

@[simp] theorem Setup.market_brief (s : Setup) (number : Nat) :
    (s.brief number).market = s.market := rfl

/-- What one routine at a time may hold. -/
inductive Gate where
  /-- The verdict under a key. -/
  | verdict (key : String)
  /-- The making of the node group of a name. -/
  | create (name : String)
  /-- The deletion of a node group. -/
  | delete (id : NodeGroupId)
deriving Repr, DecidableEq

/-- How long a call may take. -/
inductive Limit where
  /-- As long as it likes. -/
  | unlimited
  /-- As long as any call. -/
  | standard
  /-- As long as any call, but not longer than what is left of some time. -/
  | within (left : Duration)
deriving Repr, DecidableEq

/-- The time that a limit grants, if it sets any. -/
def Limit.duration? (s : Settings) : Limit → Option Duration
  | unlimited => none
  | standard => some s.callTimeout
  | within left => some (min s.callTimeout left)

/-- What a routine waits for. -/
inductive Await where
  /-- The answer to a call. -/
  | call (r : Request) (limit : Limit)
  /-- Its turn. -/
  | turn (gate : Gate)
  /-- Some time to pass. -/
  | pause (d : Duration)
deriving DecidableEq

/-- What a routine gets from waiting. -/
abbrev Await.Answer : Await → Type
  | call r _ => r.Outcome
  | turn _ => Unit
  | pause _ => Unit

/-- How a routine goes on. -/
inductive Next (π ρ : Type) where
  /-- To a point. -/
  | goOn (point : π)
  /-- It is done. -/
  | done (result : ρ)
  /-- It breaks off without a result, since it needs a point of time that no clock tells. -/
  | crash

/-- The same way on, at points and with results of another kind. -/
def Next.map (f : π → π') (g : ρ → Next π' ρ') : Next π ρ → Next π' ρ'
  | goOn p => .goOn (f p)
  | done r => g r
  | crash => .crash

end NodeSupply
