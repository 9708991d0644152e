import NodeSupply.Routine.Lifecycle

/-!
# The external id of a new node

The provider is asked again and again for the compute instance of a node group, until it names one
or the time is up.  No call and no pause goes on beyond that time.

## Main definitions

* `ResolveId.start`, `ResolveId.resume` : the routine.
-/

namespace NodeSupply.ResolveId

/-- What the routine remembers. -/
structure Search where
  /-- The node group. -/
  id : NodeGroupId
  /-- When the search began. -/
  began : Instant
  /-- What was said about the latest failed call. -/
  lastError : Option String
deriving Repr, DecidableEq

/-- A point of the routine. -/
inductive Point where
  /-- It asks for the instance, with so much time left. -/
  | polling (s : Search) (left : Duration)
  /-- It rests before it asks again. -/
  | resting (s : Search) (d : Duration)
deriving Repr, DecidableEq

/-- What comes of the routine. -/
abbrev Result := Except LifecycleError ProviderId

/-- What the routine waits for. -/
abbrev Point.awaits : Point → Await
  | polling s left => .call (.instanceOf s.id) (.within left)
  | resting _ d => .pause d

/-- The time that is left of a search. -/
def Search.left (s : Search) (settings : Settings) (now : Instant) : Duration :=
  s.began + settings.resolveTimeout - now

/-- The search is given up. -/
def Search.giveUp (s : Search) (now : Instant) : Next Point Result :=
  .done (.error (.externalIdTimeout s.id (now - s.began) s.lastError))

/-- On to the next call, if there is time for one. -/
def Search.ask (s : Search) (settings : Settings) (now : Instant) : Next Point Result :=
  let left := s.left settings now
  if left = 0 then s.giveUp now else .goOn (.polling s left)

/-- On to a rest, if there is time for one. -/
def Search.rest (s : Search) (settings : Settings) (now : Instant) : Next Point Result :=
  let left := s.left settings now
  if left = 0 then s.giveUp now else .goOn (.resting s (min settings.pollInterval left))

/-- The start of the routine, which breaks off if no clock tells when the time will be up. -/
def start (settings : Settings) (now : Instant) (id : NodeGroupId) : Next Point Result :=
  if now + settings.resolveTimeout ≤ Instant.greatest then Search.ask ⟨id, now, none⟩ settings now
  else .crash

/-- On from a point. -/
def resume (settings : Settings) (now : Instant) :
    (p : Point) → p.awaits.Answer → Next Point Result
  | .polling s _, .ok (some instanceId) =>
    if instanceId = "" then s.rest settings now
    else .done (.ok (.forInstance instanceId))
  | .polling s _, .ok none => s.rest settings now
  | .polling s _, .error e => Search.rest { s with lastError := some e.message } settings now
  | .resting s _, () => s.ask settings now

end NodeSupply.ResolveId
