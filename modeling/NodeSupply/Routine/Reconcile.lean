import NodeSupply.Routine.Basic
import NodeSupply.Verdict.Cache
import NodeSupply.Verdict.Checks

/-!
# Reconciling a node class

A node class gets a verdict: the one that is kept for its content, or else a new one from the
checks, which is then kept.  Reconciliations of the same content take turns.  A check that fails
without a verdict leaves nothing behind.

## Main definitions

* `ClassOutcome` : what is known about a node class.
* `Reconcile.peek` : what is known without asking the provider.
* `Reconcile.start`, `Reconcile.resume` : the routine.
-/

namespace NodeSupply

/-- How far a node class is from being used. -/
inductive ClassState where
  /-- What it depends on has not been looked at. -/
  | dependenciesUnknown
  /-- What it depends on is not there. -/
  | dependenciesFailed
  /-- There is no verdict yet. -/
  | validating
  /-- It may be used. -/
  | succeeded
  /-- It breaks a rule. -/
  | failed
deriving Repr, DecidableEq

/-- The name of a state. -/
def ClassState.text : ClassState → String
  | dependenciesUnknown => "DependenciesUnknown"
  | dependenciesFailed => "DependenciesFailed"
  | validating => "Validating"
  | succeeded => "Succeeded"
  | failed => "Failed"

/-- What is known about a node class. -/
structure ClassOutcome where
  /-- How far it is from being used. -/
  state : ClassState
  /-- The verdict. -/
  verdict : Verdict
  /-- When to look again, if a time is set. -/
  requeueAfter : Option Duration
deriving Repr, DecidableEq

/-- Why there is no verdict on a node class. -/
structure ValidationError where
  /-- The name of the class. -/
  name : String
  /-- The call that failed. -/
  cause : ProviderError
deriving Repr, DecidableEq

/-- What is said where there is no verdict. -/
def ValidationError.message (e : ValidationError) : String :=
  "validating node class " ++ e.name ++ ": " ++ e.cause.message

namespace Reconcile

/-- What keeps a class from being looked at, if its subnets were not resolved. -/
def dependencyGate (s : Settings) (c : NodeClass) : Option ClassOutcome :=
  match c.subnetsReady with
  | .true => none
  | .false =>
    some ⟨.dependenciesFailed, Violation.dependenciesNotReady.verdict, some s.requeueAfter⟩
  | .unknown =>
    some ⟨.dependenciesUnknown, Violation.dependenciesNotReady.verdict, some s.requeueAfter⟩

/-- What a verdict says about a class. -/
def outcome (s : Settings) (v : Verdict) : ClassOutcome :=
  ⟨if v.passed then .succeeded else .failed, v, some s.requeueAfter⟩

/-- What is known about a class without asking the provider. -/
def peek (s : Settings) (now : Instant) (cache : VerdictCache) (c : NodeClass) :
    ClassOutcome × VerdictCache :=
  match dependencyGate s c with
  | some o => (o, cache)
  | none =>
    match cache.get now (Fingerprint.key c) with
    | (some v, cache) => (outcome s v, cache)
    | (none, cache) => (⟨.validating, .success, none⟩, cache)

/-- A point of the routine. -/
inductive Point where
  /-- It waits for its turn. -/
  | queued (c : NodeClass)
  /-- It checks the class. -/
  | checking (c : NodeClass) (stage : Checks.Stage)
deriving DecidableEq

/-- What comes of the routine. -/
abbrev Result := Except ValidationError ClassOutcome

namespace Point

/-- The class that is reconciled. -/
def nodeClass : Point → NodeClass
  | queued c => c
  | checking c _ => c

/-- What the routine waits for. -/
abbrev awaits : Point → Await
  | queued c => .turn (.verdict (Fingerprint.key c))
  | checking _ stage => .call stage.request .standard

/-- What the routine holds. -/
def guards : Point → Option Gate
  | queued _ => none
  | checking c _ => some (.verdict (Fingerprint.key c))

end Point

/-- Keeps a verdict, with which the routine is done. -/
def conclude (s : Settings) (now : Instant) (cache : VerdictCache) (c : NodeClass) (v : Verdict) :
    Next Point Result × VerdictCache :=
  (.done (.ok (outcome s v)), cache.insert now (Fingerprint.key c) v)

/-- On to a call of the checks, or to their verdict. -/
def proceed (s : Settings) (now : Instant) (cache : VerdictCache) (c : NodeClass) :
    Checks.Next → Next Point Result × VerdictCache
  | .ask stage => (.goOn (.checking c stage), cache)
  | .verdict v => conclude s now cache c v

/-- The start of the routine. -/
def start (s : Settings) (c : NodeClass) : Next Point Result :=
  match dependencyGate s c with
  | some o => .done (.ok o)
  | none => .goOn (.queued c)

/-- On from a point. -/
def resume (s : Settings) (now : Instant) (cache : VerdictCache) :
    (p : Point) → p.awaits.Answer → Next Point Result × VerdictCache
  | .queued c, () =>
    match cache.get now (Fingerprint.key c) with
    | (some v, cache) => (.done (.ok (outcome s v)), cache)
    | (none, cache) =>
      if s.checksDisabled then conclude s now cache c .success
      else proceed s now cache c (Checks.begin c)
  | .checking c stage, answer =>
    match Checks.resume c stage answer with
    | .ok next => proceed s now cache c next
    | .error e => (.done (.error ⟨c.name, e⟩), cache)

end Reconcile

end NodeSupply
