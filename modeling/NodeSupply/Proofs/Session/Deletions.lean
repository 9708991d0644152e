import NodeSupply.Proofs.Session.InMemory
import NodeSupply.Proofs.Session.Origin
import NodeSupply.Proofs.Session.Turns

/-!
# One deletion of a group at a time

The routine that deletes a node group looks whether a deletion of it is under way, and only then
asks for one; these are two calls, and other tasks go on between them.  It holds the gate of the
group all the while, so nobody else begins to delete the group in between, and what comes of the
routine tells what it did.

## Main definitions

* `Session.inTurn` : the surroundings in which only the routine deletes groups.
* `Session.Acts`, `Session.Deletes` : moments at which the provider does what a task asks for.
* `DeleteGroup.Fits` : what is known of a group where the routine stands.
* `Session.Unhurried` : what holds of the deletions under way while the routine takes turns.

## Main statements

* `Session.Effect.unhurried` : every move keeps a session so.
* `Session.one_deletion_at_a_time` : what the routine promises, after any history.
-/

namespace NodeSupply

/-- All that the routine that deletes a group can do when what it waits for is there. -/
inductive DeleteGroup.Took (m : Memory) : Point → Next Point Result → Memory → Prop where
  /-- It goes on to look whether a deletion is under way. -/
  | queued (id : NodeGroupId) : Took m (.queued id) (.goOn (.checking id)) m
  /-- No deletion is under way. -/
  | free {id : NodeGroupId} (none : m.pendingDeletes id = []) :
      Took m (.checking id) (.goOn (.deleting id)) m
  /-- It deletes the group. -/
  | deleted {id : NodeGroupId} {g : NodeGroup} (get : m.nodeGroups.get? id = some g) :
      Took m (.deleting id) (.done (.ok .requested)) (m.delete g)
  /-- It has nothing to do, or fails. -/
  | done (p : Point) {result : Result} (idle : result ≠ .ok .requested) :
      Took m p (.done result) m

/-- What is known of the deletions of a group where the routine stands that deletes it. -/
def DeleteGroup.Fits (m : Memory) (id : NodeGroupId) : Next Point Result → Prop
  | .goOn (.queued id') => id' = id
  | .goOn (.checking id') => id' = id
  | .goOn (.deleting id') => id' = id ∧ m.pendingDeletes id = []
  | .done _ => True
  | .crash => True

/-- The deletions of a group are all that the routine must know of the provider. -/
theorem DeleteGroup.Fits.congr {m m' : Memory} {id : NodeGroupId} {next : Next Point Result}
    (h : Fits m id next)
    (same : next = .goOn (.deleting id) → m'.pendingDeletes id = m.pendingDeletes id) :
    Fits m' id next := by
  unfold Fits at h ⊢
  split
  next => exact h
  next => exact h
  next id' =>
    obtain ⟨rfl, hnone⟩ := h
    exact ⟨rfl, (same rfl).trans hnone⟩
  next => trivial
  next => trivial

/-- A failed call ends the routine, and no deletion was asked for. -/
theorem DeleteGroup.exists_of_failed (r : Request) (e : ProviderError) :
    ∃ result, failed r e = .done result ∧ result ≠ .ok .requested ∧ result ≠ .ok .inFlight ∧
      (result = .ok .alreadyGone → e.isNotFound = true) := by
  refine ⟨_, rfl, ?_⟩
  split
  next h => exact ⟨nofun, nofun, fun _ => h⟩
  next => exact ⟨nofun, nofun, nofun⟩

/-- The routine stays with its group. -/
theorem DeleteGroup.group_of_resume {p p' : Point} {answer : p.awaits.Answer}
    (h : resume p answer = .goOn p') : p'.group = p.group := by
  cases p with
  | queued id =>
    cases h
    rfl
  | checking id =>
    cases answer with
    | error e => cases h
    | ok operations =>
      simp only [resume] at h
      split at h <;> cases h
      rfl
  | deleting id => cases answer <;> cases h

theorem Memory.any_isPendingDelete_eq_false_iff (m : Memory) (id : NodeGroupId) :
    (m.operationsOf id).any GroupOperation.isPendingDelete = false ↔ m.pendingDeletes id = [] := by
  simp [pendingDeletes]

/-- A job that deletes no group, or deletes one in its turn. -/
def Job.DeletesInTurn : Job → Prop
  | deprovision _ => False
  | call (.deleteNodeGroup _) => False
  | _ => True

/-- No other job than the routine asks the provider to delete a group. -/
theorem Job.awaits_ne_deleteNodeGroup {j : Job} (turn : j.DeletesInTurn)
    (other : ∀ id, j ≠ .deleteGroup id) (p : j.Point) (id : NodeGroupId) (limit : Limit) :
    j.awaits p ≠ .call (.deleteNodeGroup id) limit := by
  have reconciles : ∀ p : Reconcile.Point, p.awaits ≠ .call (.deleteNodeGroup id) limit := by
    rintro (_ | ⟨c, stage⟩) h
    · cases h
    · cases stage <;> cases h
  have creates : ∀ p : CreateGroup.Point, p.awaits ≠ .call (.deleteNodeGroup id) limit := by
    rintro (_ | _ | _) h <;> cases h
  have resolves : ∀ p : ResolveId.Point, p.awaits ≠ .call (.deleteNodeGroup id) limit := by
    rintro (_ | _) h <;> cases h
  intro h
  cases j with
  | deleteGroup id => exact other id rfl
  | deprovision id => exact turn
  | call r =>
    cases h
    exact turn
  | reconcile c => exact reconciles p h
  | createGroup r => exact creates p h
  | resolveId id => exact resolves p h
  | provision c r =>
    cases p with
    | reconciling r' q => exact reconciles q h
    | creating plan q => exact creates q h
    | resolving plan group q => exact resolves q h
  | findGroup id => cases p <;> cases h
  | findByExternalId value => cases p <;> cases h
  | listGroups => cases h
  | peek c => cases p
  | forget name => cases p
  | keptVerdicts => cases p

namespace Session

/-- The surroundings in which one manager deletes groups in turn.  Others may tell the provider
whatever does not count as a deletion under way. -/
def inTurn : Surroundings Memory where
  asks := Job.DeletesInTurn
  changes m m' :=
    Memory.Told (fun _ => True) m m' ∧ ∀ id, m'.pendingDeletes id = m.pendingDeletes id

/-- How far a task has come that deletes a group. -/
abbrev Standing.deleting (id : NodeGroupId) (next : Next DeleteGroup.Point DeleteGroup.Result) :
    Standing where
  job := .deleteGroup id
  next

/-- At a moment the provider does what the call of a task asks for. -/
def Acts (m : Moment Memory) (number : Nat) (r : Request) : Prop :=
  m.cause = .stepped number ∧
    ∃ limit hold, m.before.hold? number = some ⟨.call r limit, hold⟩ ∧ ActsOn m.before.now hold

/-- At a moment the provider deletes a group because a task asks for it. -/
def Deletes (m : Moment Memory) (number : Nat) (id : NodeGroupId) : Prop :=
  Acts m number (.deleteNodeGroup id) ∧ m.before.provider.nodeGroups.contains id = true

/-! ### Steps of the routine -/

theorem deleteTook_of_look {s : Session Memory} {w : Worker} {number : Nat} {p : DeleteGroup.Point}
    {hold : Hold Memory p.awaits} {answer : p.awaits.Answer} {provider : Memory}
    (h : s.look w number p.awaits hold = .finished answer provider) :
    DeleteGroup.Took s.provider p (DeleteGroup.resume p answer) provider := by
  have fails : ∀ (p : DeleteGroup.Point) (r : Request) (e : ProviderError),
      DeleteGroup.Took s.provider p (DeleteGroup.failed r e) s.provider := fun p r e => by
    obtain ⟨result, hresult, hidle, -⟩ := DeleteGroup.exists_of_failed r e
    rw [hresult]
    exact .done p hidle
  cases p with
  | queued id =>
    rcases provider_of_look h with rfl | ⟨_, _, hawaits, -⟩
    · exact .queued id
    · cases hawaits
  | checking id =>
    rcases look_call h with ⟨e, rfl, rfl⟩ | hanswer
    · exact fails ..
    · simp only [Memory.answer] at hanswer
      split at hanswer <;> cases hanswer
      next =>
        simp only [DeleteGroup.resume]
        split
        next => exact .done _ (by rintro ⟨⟩)
        next hany =>
          have hnone := (Memory.any_isPendingDelete_eq_false_iff ..).1 (Bool.eq_false_iff.2 hany)
          exact .free hnone
      next => exact fails ..
  | deleting id =>
    rcases look_call h with ⟨e, rfl, rfl⟩ | hanswer
    · exact fails ..
    · simp only [Memory.answer] at hanswer
      split at hanswer <;> cases hanswer
      next => exact fails ..
      next hget => exact .deleted hget

/-- The routine that deletes a group has just begun, or went on from the point where it stood. -/
theorem Arrives.deleteTook {s : Session Memory} {n : Nat} {id : NodeGroupId}
    {next : Next DeleteGroup.Point DeleteGroup.Result} {provider : Memory}
    (arrives : Arrives s n (.deleteGroup id) next provider) :
    next = .goOn (.queued id) ∧ provider = s.provider ∨
      ∃ p, s.standing? n = some (.deleting id (.goOn p)) ∧
        DeleteGroup.Took s.provider p next provider := by
  rcases arrives.exists with ⟨-, rfl, rfl⟩ | ⟨_, point, hold, _, answer, task, looked, rfl⟩
  · exact .inl ⟨rfl, rfl⟩
  · exact .inr ⟨point, standing?_of_get? task, deleteTook_of_look looked⟩

/-- To start a call records no operation. -/
theorem operations_toldNext (m : Memory) (now : Instant) (j : Job) (next : Next j.Point j.Result) :
    (toldNext m now j next).operations = m.operations := by
  cases next with
  | done result => rfl
  | crash => rfl
  | goOn point =>
    rw [toldNext]
    cases j.awaits point <;> rfl

/-- A job that is not the routine records no operation. -/
theorem Arrives.operations_eq {s : Session Memory} {n : Nat} {j : Job}
    {next : Next j.Point j.Result} {provider : Memory} (arrives : Arrives s n j next provider)
    (turn : j.DeletesInTurn) (other : ∀ id, j ≠ .deleteGroup id) :
    provider.operations = s.provider.operations := by
  rcases arrives.exists with ⟨-, -, rfl⟩ | ⟨_, point, hold, _, answer, task, looked, -⟩
  · rfl
  · rcases provider_of_look looked with rfl | ⟨r, limit, hawaits, rfl⟩
    · rfl
    · refine Memory.operations_answer fun id hr => ?_
      rw [hr] at hawaits
      exact Job.awaits_ne_deleteNodeGroup turn other point id limit hawaits

/-! ### Deletions under way -/

/-- While the routine takes turns, every task that deletes a group fits the deletions of it that go
on, and no second one has begun since the session did. -/
structure Unhurried (m₀ : Memory) (s : Session Memory) : Prop where
  keyed : s.provider.Keyed
  fits : ∀ (n : Nat) (id : NodeGroupId) (next : Next DeleteGroup.Point DeleteGroup.Result),
    s.standing? n = some (.deleting id next) → DeleteGroup.Fits s.provider id next
  pending : ∀ id, s.provider.pendingDeletes id = m₀.pendingDeletes id ∨
    m₀.pendingDeletes id = [] ∧ ∃ o, s.provider.pendingDeletes id = [o]

variable {m₀ : Memory} {s s' : Session Memory}

/-- Nothing is lost where deletions and standings stay. -/
theorem Unhurried.congr (h : s.Unhurried m₀) (keyed : s'.provider.Keyed)
    (same : ∀ id, s'.provider.pendingDeletes id = s.provider.pendingDeletes id)
    (standing : ∀ n x, s'.standing? n = some x → s.standing? n = some x) : s'.Unhurried m₀ where
  keyed
  fits n id next hn := (h.fits n id next (standing n _ hn)).congr fun _ => same id
  pending id := by
    rw [same]
    exact h.pending id

/-- A task went on, and no deletion began. -/
theorem Unhurried.keep (h : s.Unhurried m₀) {n : Nat} {x : Standing} (keyed : s'.provider.Keyed)
    (same : ∀ id, s'.provider.pendingDeletes id = s.provider.pendingDeletes id)
    (standing : ∀ k, s'.standing? k = if k = n then some x else s.standing? k)
    (own : ∀ id next, x = .deleting id next → DeleteGroup.Fits s.provider id next) :
    s'.Unhurried m₀ where
  keyed
  fits k id next hk := by
    refine DeleteGroup.Fits.congr ?_ fun _ => same id
    rw [standing] at hk
    split at hk
    next => exact own id next (Option.some.inj hk)
    next => exact h.fits k id next hk
  pending id := by
    rw [same]
    exact h.pending id

/-- A task began the deletion of a group. -/
theorem Unhurried.delete (h : s.Unhurried m₀) (orderly : s.Orderly) (keyed : s'.provider.Keyed)
    {n : Nat} {id : NodeGroupId} {g : NodeGroup} (get : s.provider.nodeGroups.get? id = some g)
    (before : s.standing? n = some (.deleting id (.goOn (.deleting id))))
    (standing : ∀ k, s'.standing? k =
      if k = n then some (.deleting id (.done (.ok .requested))) else s.standing? k)
    (operations : s'.provider.operations = (s.provider.delete g).operations) :
    s'.Unhurried m₀ := by
  have hid : g.id = id := h.keyed id g.made (Memory.made?_of_get? get)
  obtain ⟨o, hdelete⟩ := s.provider.exists_pendingDeletes_delete g
  have hpending : ∀ k, s'.provider.pendingDeletes k =
      if k = id then s.provider.pendingDeletes k ++ [o] else s.provider.pendingDeletes k :=
    fun k => (Memory.pendingDeletes_congr operations k).trans (hid ▸ hdelete k)
  have hnone : s.provider.pendingDeletes id = [] := (h.fits n id _ before).2
  refine ⟨keyed, fun k id' next hk => ?_, fun k => ?_⟩
  · rw [standing] at hk
    split at hk
    next =>
      cases hk
      trivial
    next hne =>
      refine (h.fits k id' next hk).congr fun hnext => ?_
      subst hnext
      refine (hpending id').trans (if_neg fun hsame => hne ?_)
      -- Both tasks would hold the gate of the group.
      subst hsame
      exact orderly.eq_of_guards hk before rfl rfl rfl
  · rw [hpending]
    split
    next hk =>
      subst hk
      have hbegan : m₀.pendingDeletes k = [] := by
        rcases h.pending k with hsame | ⟨hbegan, -⟩
        · exact hsame.symm.trans hnone
        · exact hbegan
      exact .inr ⟨hbegan, o, by rw [hnone, List.nil_append]⟩
    next => exact h.pending k

/-- Where a task waits for the provider to delete a group, no deletion of the group is under way. -/
theorem Unhurried.pendingDeletes_of_hold? (h : s.Unhurried m₀)
    (turn : ∀ n j, s.job? n = some j → j.DeletesInTurn) {n : Nat} {id : NodeGroupId} {limit : Limit}
    {hold : Hold Memory (.call (.deleteNodeGroup id) limit)}
    (held : s.hold? n = some ⟨.call (.deleteNodeGroup id) limit, hold⟩) :
    s.provider.pendingDeletes id = [] := by
  obtain ⟨j, cancelAt, point, hold', slot, task, hsame⟩ := exists_get?_of_hold? held
  have hawaits : j.awaits point = .call (.deleteNodeGroup id) limit :=
    (congrArg Sigma.fst hsame).symm
  by_cases hj : ∃ id', j = .deleteGroup id'
  · obtain ⟨id', rfl⟩ := hj
    have hfits := h.fits n id' _ (standing?_of_get? task)
    cases point with
    | queued id => cases hawaits
    | checking id => cases hawaits
    | deleting id'' =>
      cases hawaits
      obtain ⟨rfl, hnone⟩ := hfits
      exact hnone
  · have hturn := turn n j (job?_of_get? task)
    exact absurd hawaits
      (Job.awaits_ne_deleteNodeGroup hturn (fun id hid => hj ⟨id, hid⟩) point id limit)

theorem Effect.unhurried {c : Cause} (effect : Effect inTurn s c s') (h : s.Unhurried m₀)
    (orderly : s.Orderly) (turn : ∀ n j, s.job? n = some j → j.DeletesInTurn) :
    s'.Unhurried m₀ := by
  have hkeyed := (effect.made? h.keyed fun _ _ => And.left).1
  cases effect with
  | quiet standing idles =>
    have hsame := eq_of_idles idles
    exact h.congr hkeyed (by simp [hsame]) fun n x hx => (standing n).eq_some hx
  | meddled standing changed => exact h.congr hkeyed changed.2 fun n x hx => standing n ▸ hx
  | @arrived n j next provider _ arrives standing provider_eq =>
    have htold : s'.provider.operations = provider.operations := by
      rw [provider_eq, operations_toldNext]
    by_cases hj : ∃ id, j = .deleteGroup id
    · obtain ⟨id, rfl⟩ := hj
      have keep : provider = s.provider → DeleteGroup.Fits s.provider id next →
          s'.Unhurried m₀ := fun hprovider hfits => by
        rw [hprovider] at htold
        refine h.keep hkeyed (Memory.pendingDeletes_congr htold) standing fun id' next' hx => ?_
        cases hx
        exact hfits
      rcases arrives.deleteTook with ⟨rfl, hsame⟩ | ⟨p, hstanding, took⟩
      · exact keep hsame rfl
      · have hfits := h.fits n id _ hstanding
        cases took with
        | queued id' => exact keep rfl hfits
        | free none =>
          obtain rfl := hfits
          exact keep rfl ⟨rfl, none⟩
        | done p idle => exact keep rfl trivial
        | deleted get =>
          obtain ⟨rfl, -⟩ := hfits
          exact h.delete orderly hkeyed get hstanding standing htold
    · have hsame := arrives.operations_eq (turn n j arrives.job?) fun id hid => hj ⟨id, hid⟩
      have hpending := Memory.pendingDeletes_congr (htold.trans hsame)
      refine h.keep hkeyed hpending standing fun id next' hx => ?_
      cases hx
      exact absurd ⟨id, rfl⟩ hj

variable {setup : Setup} {past : List (Moment Memory)}

theorem History.unhurried (h : History inTurn (begin setup m₀) past s) (keyed : m₀.Keyed) :
    s.Unhurried m₀ := by
  have hfresh := fresh_begin setup m₀
  induction h with
  | start => exact ⟨keyed, fun _ _ _ => nofun, fun _ => .inl rfl⟩
  | go h move ih =>
    have horderly := h.orderly hfresh (orderly_begin setup _)
    exact (move.effect (h.fresh hfresh)).unhurried ih horderly fun n j hj => h.asked rfl hj

/-! ### Results -/

/-- What a moment is at which the routine ends with a result. -/
def Tells (m : Moment Memory) (number : Nat) (id : NodeGroupId) : DeleteGroup.Result → Prop
  | .ok .requested => Deletes m number id
  | .ok .inFlight =>
    (∃ o ∈ m.before.provider.operationsOf id, o.isPendingDelete = true) ∧
      Answered m number (.operations id) (.ok (m.before.provider.operationsOf id))
  | .ok .alreadyGone => ∃ r e, Answered m number r (.error e) ∧ e.isNotFound = true
  | .error _ => True

theorem tells_of_failed {m : Moment Memory} {n : Nat} {id : NodeGroupId} {r : Request}
    {e : ProviderError} {result : DeleteGroup.Result} (answered : Answered m n r (.error e))
    (next : DeleteGroup.failed r e = .done result) : Tells m n id result := by
  obtain ⟨result', hresult, hrequested, hinFlight, hgone⟩ := DeleteGroup.exists_of_failed r e
  cases hresult.symm.trans next
  match result with
  | .ok .requested => exact absurd rfl hrequested
  | .ok .inFlight => exact absurd rfl hinFlight
  | .ok .alreadyGone => exact ⟨r, e, answered, hgone rfl⟩
  | .error _ => trivial

/-- What ends the routine can be told from its result. -/
theorem tells_of_look {m : Moment Memory} {n : Nat} {w : Worker} {p : DeleteGroup.Point}
    {hold : Hold Memory p.awaits} {answer : p.awaits.Answer} {provider : Memory}
    {result : DeleteGroup.Result} (cause : m.cause = .stepped n)
    (held : m.before.hold? n = some ⟨p.awaits, hold⟩)
    (looked : m.before.look w n p.awaits hold = .finished answer provider)
    (next : DeleteGroup.resume p answer = .done result) : Tells m n p.group result := by
  cases p with
  | queued id => cases next
  | checking id =>
    have hanswered : Answered m n (.operations id) answer :=
      ⟨cause, _, hold, w, provider, held, looked⟩
    cases answer with
    | error e => exact tells_of_failed hanswered next
    | ok operations =>
      simp only [DeleteGroup.resume] at next
      split at next <;> cases next
      next hany =>
        rcases look_call looked with ⟨e, he, -⟩ | hanswer
        · cases he
        · simp only [Memory.answer] at hanswer
          split at hanswer <;> cases hanswer
          exact ⟨List.any_eq_true.1 hany, hanswered⟩
  | deleting id =>
    have hanswered : Answered m n (.deleteNodeGroup id) answer :=
      ⟨cause, _, hold, w, provider, held, looked⟩
    cases answer with
    | error e => exact tells_of_failed hanswered next
    | ok done =>
      cases next
      rcases actsOn_of_look looked with ⟨e, he, -⟩ | ⟨hacts, hanswer⟩
      · cases he
      · simp only [Memory.answer] at hanswer
        split at hanswer <;> cases hanswer
        next hget => exact ⟨⟨cause, _, hold, held, hacts⟩, Option.isSome_iff_exists.2 ⟨_, hget⟩⟩

/-- Where the routine stands, or what ended it. -/
def Grounds (past : List (Moment Memory)) (number : Nat) (id : NodeGroupId) :
    Next DeleteGroup.Point DeleteGroup.Result → Prop
  | .goOn p => p.group = id
  | .done result => ∃ m ∈ past, Tells m number id result
  | .crash => True

theorem History.grounds {w : Surroundings Memory} {s₀ : Session Memory} (h : History w s₀ past s)
    (begins : s₀.tasks = .empty) {n : Nat} {id : NodeGroupId}
    {next : Next DeleteGroup.Point DeleteGroup.Result}
    (hn : s.standing? n = some (.deleting id next)) : Grounds past n id next := by
  refine h.standing?_induction (P := fun past n x => ∀ id next, x = .deleting id next →
    Grounds past n id next) begins ?_ ?_ hn id next rfl
  · rintro past m n x hx id next rfl
    cases next with
    | goOn p => exact hx id _ rfl
    | done result =>
      obtain ⟨m', hm', htells⟩ := hx id _ rfl
      exact ⟨m', List.mem_cons_of_mem _ hm', htells⟩
    | crash => trivial
  · intro past s s' n j next provider _ arrives _ ih id next' hx
    cases hx
    rcases arrives.exists with ⟨-, rfl, -⟩ | ⟨_, point, hold, _, answer, task, looked, hnext⟩
    · rfl
    · have hgroup : point.group = id := ih _ (standing?_of_get? task) id _ rfl
      have hresume : next' = DeleteGroup.resume point answer := hnext
      cases next' with
      | goOn p => exact (DeleteGroup.group_of_resume hresume.symm).trans hgroup
      | done result =>
        refine ⟨_, List.mem_cons_self, ?_⟩
        rw [← hgroup]
        exact tells_of_look rfl (hold?_of_get? task) looked hresume.symm
      | crash => trivial

/-- A task whose group is deleted at a moment has then what it asked for. -/
theorem Move.standing?_of_deletes {w : Surroundings Memory} {c : Cause} (move : Move w s c s')
    {n : Nat} {id id' : NodeGroupId} (job : ∀ j, s.job? n = some j → j = .deleteGroup id)
    (deletes : Deletes ⟨s, c, s'⟩ n id') :
    s'.standing? n = some (.deleting id (.done (.ok .requested))) := by
  obtain ⟨⟨hcause, limit, hold, hhold, hacts⟩, hgroup⟩ := deletes
  change c = .stepped n at hcause
  change s.hold? n = _ at hhold
  change ActsOn s.now hold at hacts
  subst hcause
  obtain ⟨j, cancelAt, point, hold', slot, task, hsame⟩ := exists_get?_of_hold? hhold
  obtain rfl : j = .deleteGroup id := job j (job?_of_get? task)
  obtain ⟨g, hget⟩ := Option.isSome_iff_exists.1 hgroup
  cases point with
  | queued id => cases hsame
  | checking id => cases hsame
  | deleting id'' =>
    cases hsame
    have hanswer : s.provider.answer (.deleteNodeGroup id') = (.ok (), s.provider.delete g) := by
      simp only [Memory.answer, hget]
    have hlook := look_of_actsOn .keeper n hacts
    rw [hanswer] at hlook
    cases move with
    | step taken =>
      cases (step?_of_look task hlook rfl).symm.trans taken
      rw [standing?_proceed, if_pos rfl]
      rfl

/-- A step of the routine that does not end with a deletion changes no group and no operation. -/
theorem Effect.eq_of_not_requested {w : Surroundings Memory} {c : Cause} (effect : Effect w s c s')
    {n : Nat} {id : NodeGroupId} (own : c = .stepped n ∨ c = .cancelled n)
    (job : ∀ j, s.job? n = some j → j = .deleteGroup id)
    (unrequested : s'.standing? n ≠ some (.deleting id (.done (.ok .requested)))) :
    s'.provider.nodeGroups = s.provider.nodeGroups ∧
      s'.provider.operations = s.provider.operations := by
  cases effect with
  | quiet standing idles =>
    rw [eq_of_idles idles]
    exact ⟨rfl, rfl⟩
  | meddled standing changed => rcases own with h | h <;> cases h
  | @arrived _ j next provider _ arrives standing provider_eq =>
    rcases own with h | h <;> cases h
    obtain rfl : j = .deleteGroup id := job j arrives.job?
    rw [provider_eq, (nodeGroups_toldNext ..).1, operations_toldNext]
    have hn := standing n
    rw [if_pos rfl] at hn
    rcases arrives.deleteTook with ⟨-, rfl⟩ | ⟨p, -, took⟩
    · exact ⟨rfl, rfl⟩
    · cases took with
      | queued id' => exact ⟨rfl, rfl⟩
      | free none => exact ⟨rfl, rfl⟩
      | done p idle => exact ⟨rfl, rfl⟩
      | deleted get => exact absurd hn unrequested

/-- After any history in which one manager deletes groups, however its tasks and those of others are
interleaved, and whatever fails, is given up or takes long: the provider never deletes a group while
a deletion of it is under way, so no second one begins; the result of the routine tells what was
done; and unless that was a deletion, none of its steps changed a group or an operation. -/
theorem one_deletion_at_a_time (keyed : m₀.Keyed) (h : History inTurn (begin setup m₀) past s) :
    (∀ m ∈ past, ∀ n id, Acts m n (.deleteNodeGroup id) →
      m.before.provider.pendingDeletes id = []) ∧
    (∀ id, s.provider.pendingDeletes id = m₀.pendingDeletes id ∨
      m₀.pendingDeletes id = [] ∧ ∃ o, s.provider.pendingDeletes id = [o]) ∧
    (∀ n id result, s.standing? n = some (.deleting id (.done result)) →
      (result = .ok .requested ↔ ∃ m ∈ past, Deletes m n id) ∧
      (result = .ok .inFlight → ∃ m ∈ past,
        (∃ o ∈ m.before.provider.operationsOf id, o.isPendingDelete = true) ∧
          Answered m n (.operations id) (.ok (m.before.provider.operationsOf id))) ∧
      (result = .ok .alreadyGone →
        ∃ m ∈ past, ∃ r e, Answered m n r (.error e) ∧ e.isNotFound = true)) ∧
    (∀ n id, s.job? n = some (.deleteGroup id) →
      s.standing? n ≠ some (.deleting id (.done (.ok .requested))) →
      ∀ m ∈ past, m.cause = .stepped n ∨ m.cause = .cancelled n →
        m.after.provider.nodeGroups = m.before.provider.nodeGroups ∧
          m.after.provider.operations = m.before.provider.operations) := by
  have hfresh := fresh_begin setup m₀
  have hjob : ∀ {m n id}, m ∈ past → s.job? n = some (.deleteGroup id) →
      ∀ j, m.before.job? n = some j → j = .deleteGroup id := fun hm hjob j hj =>
    Option.some.inj ((h.job?_of_mem hfresh hm hj).symm.trans hjob)
  refine ⟨fun m hm n id hacts => ?_, (h.unhurried keyed).pending, fun n id result hn => ?_,
    fun n id hn hresult m hm hcause => ?_⟩
  · obtain ⟨before, hbefore, -⟩ := h.exists_of_mem hm
    obtain ⟨-, limit, hold, hhold, -⟩ := hacts
    exact (hbefore.unhurried keyed).pendingDeletes_of_hold? (fun _ _ => hbefore.asked rfl) hhold
  · obtain ⟨m, hm, htells⟩ : ∃ m ∈ past, Tells m n id result := h.grounds rfl hn
    have hgrounds : ∀ {result'}, result = result' → ∃ m ∈ past, Tells m n id result' := by
      rintro _ rfl
      exact ⟨m, hm, htells⟩
    refine ⟨⟨fun hr => hgrounds hr, ?_⟩, fun hr => hgrounds hr, fun hr => hgrounds hr⟩
    rintro ⟨m', hm', hdeletes⟩
    obtain ⟨before, -, hmove⟩ := h.exists_of_mem hm'
    have hdone := hmove.standing?_of_deletes (hjob hm' (job?_of_standing? hn)) hdeletes
    cases hn.symm.trans (h.standing?_done_of_mem hfresh hm' hdone)
    rfl
  · obtain ⟨before, hbefore, hmove⟩ := h.exists_of_mem hm
    exact (hmove.effect (hbefore.fresh hfresh)).eq_of_not_requested hcause (hjob hm hn)
      fun hdone => hresult (h.standing?_done_of_mem hfresh hm hdone)

/-- Of two tasks that delete a group together the second finds that the first one did. -/
theorem second_deletion_in_flight :
    Memory.small.Keyed ∧ ∃ past s, History inTurn (begin Setup.small Memory.small) past s ∧
      s.standing? 0 = some (.deleting "group" (.done (.ok .requested))) ∧
      s.standing? 1 = some (.deleting "group" (.done (.ok .inFlight))) ∧
      (∃ m ∈ past, Deletes m 0 "group") ∧ ∃ o, s.provider.pendingDeletes "group" = [o] := by
  have hkeyed : Memory.small.Keyed := by
    have hput := (Memory.ofNetwork "network").put_addNodeGroup
      (Memory.plainGroup "group" "node" "home" .empty)
    exact hput.keyed nofun rfl
  have hstart : History inTurn (begin Setup.small Memory.small) [] _ := .start
  have hsubmitted := (hstart.go (.submit (j := .deleteGroup "group") none trivial)).go
    (.submit (j := .deleteGroup "group") none trivial)
  obtain ⟨past, h⟩ := hsubmitted.runTasks 60 [0, 1] [0, 1] false
  obtain ⟨-, -, hresults, -⟩ := one_deletion_at_a_time hkeyed h
  obtain ⟨hrequested, -, -⟩ := hresults 0 "group" (.ok .requested) rfl
  exact ⟨hkeyed, past, _, h, rfl, rfl, hrequested.1 rfl, _, rfl⟩

end Session

end NodeSupply
