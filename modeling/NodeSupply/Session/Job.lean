import NodeSupply.Routine.Provision

/-!
# Jobs

What a session can be asked to do: one of the routines, a look at the kept verdicts, or a bare call
of the provider.

## Main definitions

* `Job`, `Job.Result` : what can be asked, and what comes of it.
* `Job.start`, `Job.resume` : how a job is done, point by point.
-/

namespace NodeSupply

/-- Who does a job.  The two keep verdicts and take turns apart from each other. -/
inductive Worker where
  /-- Who looks after node classes and node groups. -/
  | keeper
  /-- Who launches nodes. -/
  | launcher
deriving Repr, DecidableEq

/-- What a session can be asked to do. -/
inductive Job where
  /-- A verdict on a class. -/
  | reconcile (c : NodeClass)
  /-- What is known about a class. -/
  | peek (c : NodeClass)
  /-- The verdicts on a class are dropped. -/
  | forget (name : String)
  /-- The number of kept verdicts. -/
  | keptVerdicts
  /-- A node group is made. -/
  | createGroup (r : NodeGroupRequest)
  /-- A node group is deleted. -/
  | deleteGroup (id : NodeGroupId)
  /-- The node groups made here. -/
  | listGroups
  /-- The node group of some id. -/
  | findGroup (id : NodeGroupId)
  /-- The node group behind a node of some external id. -/
  | findByExternalId (value : String)
  /-- The external id of the node of a group. -/
  | resolveId (id : NodeGroupId)
  /-- A node is launched. -/
  | provision (c : NodeClass) (r : NodeRequest)
  /-- The node group of a launched node is deleted. -/
  | deprovision (id : NodeGroupId)
  /-- A call of the provider. -/
  | call (r : Request)
deriving DecidableEq

namespace Job

/-- Who does a job. -/
def worker : Job → Worker
  | provision .. => .launcher
  | deprovision _ => .launcher
  | _ => .keeper

/-- What comes of a job. -/
abbrev Result : Job → Type
  | reconcile _ => Reconcile.Result
  | peek _ => ClassOutcome
  | forget _ => Unit
  | keptVerdicts => Nat
  | createGroup _ => CreateGroup.Result
  | deleteGroup _ => DeleteGroup.Result
  | listGroups => ListGroups.Result
  | findGroup _ => FindGroup.Result
  | findByExternalId _ => FindGroup.Result
  | resolveId _ => ResolveId.Result
  | provision .. => Provision.Result
  | deprovision _ => Except ProvisionError Deletion
  | call r => r.Outcome

/-- Where a job may wait. -/
abbrev Point : Job → Type
  | reconcile _ => Reconcile.Point
  | createGroup _ => CreateGroup.Point
  | deleteGroup _ => DeleteGroup.Point
  | listGroups => Unit
  | findGroup _ => FindGroup.Point
  | findByExternalId _ => FindGroup.Point
  | resolveId _ => ResolveId.Point
  | provision .. => Provision.Point
  | deprovision _ => DeleteGroup.Point
  | call _ => Unit
  | peek _ => Empty
  | forget _ => Empty
  | keptVerdicts => Empty

/-- What a job waits for. -/
abbrev awaits : (j : Job) → j.Point → Await
  | reconcile _, p => Reconcile.Point.awaits p
  | createGroup _, p => CreateGroup.Point.awaits p
  | deleteGroup _, p => DeleteGroup.Point.awaits p
  | listGroups, _ => .call .nodeGroups .standard
  | findGroup _, p => FindGroup.Point.awaits p
  | findByExternalId _, p => FindGroup.Point.awaits p
  | resolveId _, p => ResolveId.Point.awaits p
  | provision .., p => Provision.Point.awaits p
  | deprovision _, p => DeleteGroup.Point.awaits p
  | call r, _ => .call r .unlimited

/-- What a job holds. -/
def guards : (j : Job) → j.Point → Option Gate
  | reconcile _, p => Reconcile.Point.guards p
  | createGroup _, p => CreateGroup.Point.guards p
  | deleteGroup _, p => DeleteGroup.Point.guards p
  | listGroups, _ => none
  | findGroup _, _ => none
  | findByExternalId _, _ => none
  | resolveId _, _ => none
  | provision .., p => Provision.Point.guards p
  | deprovision _, p => DeleteGroup.Point.guards p
  | call _, _ => none

/-- A deletion as a part of launching nodes. -/
def asProvision : Next DeleteGroup.Point DeleteGroup.Result →
    Next DeleteGroup.Point (Except ProvisionError Deletion) :=
  Next.map id fun r => .done (r.mapError .lifecycle)

/-- The start of a job. -/
def start (brief : Brief) (now : Instant) (cache : VerdictCache) :
    (j : Job) → Next j.Point j.Result × VerdictCache
  | reconcile c => (Reconcile.start brief.settings c, cache)
  | peek c =>
    let (outcome, cache) := Reconcile.peek brief.settings now cache c
    (.done outcome, cache)
  | forget name => (.done (), cache.clear name)
  | keptVerdicts => (.done cache.size, cache)
  | createGroup r => (CreateGroup.start r, cache)
  | deleteGroup id => (DeleteGroup.start id, cache)
  | listGroups => (.goOn (), cache)
  | findGroup id => (FindGroup.byId id, cache)
  | findByExternalId value => (FindGroup.byExternalId value, cache)
  | resolveId id => (ResolveId.start brief.settings now id, cache)
  | provision c r => (Provision.start brief now c r, cache)
  | deprovision id => (asProvision (DeleteGroup.start id), cache)
  | call _ => (.goOn (), cache)

/-- On from a point of a job. -/
def resume (brief : Brief) (now : Instant) (cache : VerdictCache) :
    (j : Job) → (p : j.Point) → (j.awaits p).Answer → Next j.Point j.Result × VerdictCache
  | reconcile _, p, answer => Reconcile.resume brief.settings now cache p answer
  | createGroup _, p, answer => (CreateGroup.resume brief.settings p answer, cache)
  | deleteGroup _, p, answer => (DeleteGroup.resume p answer, cache)
  | listGroups, _, answer => (.done (ListGroups.resume brief.settings answer), cache)
  | findGroup _, p, answer => (FindGroup.resume p answer, cache)
  | findByExternalId _, p, answer => (FindGroup.resume p answer, cache)
  | resolveId _, p, answer => (ResolveId.resume brief.settings now p answer, cache)
  | provision .., p, answer => Provision.resume brief now cache p answer
  | deprovision _, p, answer => (asProvision (DeleteGroup.resume p answer), cache)
  | call _, _, answer => (.done answer, cache)

end Job

end NodeSupply
