import NodeSupply.Proofs.Rest.Paging
import NodeSupply.Proofs.Session.Creation
import NodeSupply.Proofs.Session.Deletions

/-!
# Nothing on a page is lost

Answers that come in pages are read to the last page, and each page once.  The routine that deletes
a group relies on it: it asks over the web for the operations of the group first, page by page.  If
one of the pages holds a deletion that is under way, or fails, or does not come in time, the routine
sends no request to delete; and it sends one only when it has got them all.

## Main definitions

* `Rest.Warns` : what there is on a page, or of it, that keeps the routine from deleting.
* `DeleteGroup.Heeds` : what is known of pages and requests where the routine stands.
* `Session.Warned` : a moment at which a task is warned.

## Main statements

* `Session.Took.heedsDeletions` : every step of the routine keeps what is known.
* `Session.History.exists_answered` : when the routine sends a request to delete.
* `Session.no_page_lost` : what comes of the calls, and what the routine promises.
-/

namespace NodeSupply

/-! ### Pages of operations -/

namespace Rest

/-- A page of the operations of a group warns: it holds a deletion that is under way, or it fails,
or it has not come by the end of the time for the call. -/
inductive Warns (id : NodeGroupId) (now : Instant) (deadline : Option Instant) (x : Exchange) :
    Prop where
  | pending {documents : List OperationDocument} {token : String} (arrived : x.due ≤ now)
      (read : readDocument "node group" id OperationDocument.page? x.outcome =
        .ok (documents, token))
      (underWay : ∃ d ∈ documents, d.operation.isPendingDelete = true)
  | failed {e : ProviderError} (arrived : x.due ≤ now)
      (read : readDocument "node group" id OperationDocument.page? x.outcome = .error e)
  | late (missing : now < x.due) (expired : deadline.any (· ≤ now) = true)

/-- A page that warns and yet reads holds a deletion. -/
theorem Warns.any {id : NodeGroupId} {now : Instant} {deadline : Option Instant} {x : Exchange}
    (warns : Warns id now deadline x) (due : x.due ≤ now) {documents : List OperationDocument}
    {token : String} (read : readDocument "node group" id OperationDocument.page? x.outcome =
      .ok (documents, token)) :
    (documents.map OperationDocument.operation).any GroupOperation.isPendingDelete = true := by
  cases warns with
  | pending arrived read' underWay =>
    cases read'.symm.trans read
    simpa using underWay
  | failed arrived read' => cases read'.symm.trans read
  | late missing expired => exact absurd missing (Nat.not_lt.2 due)

/-- The operations that a call has gathered. -/
def Stage.operations {id : NodeGroupId} : Stage (.operations id) → List GroupOperation
  | .reading _ operations => operations
  | .queued use _ => nomatch use
  | .describing use _ _ => nomatch use

/-- The operations that a look at a call comes to, unless it waits or ends in a failure. -/
def operations? {id : NodeGroupId} :
    Progress Rest (Stage (.operations id)) (Request.operations id).Outcome →
      Option (List GroupOperation)
  | .waiting => none
  | .moved stage _ => some stage.operations
  | .finished (.ok operations) _ => some operations
  | .finished (.error _) _ => none

/-- What a look at a call comes to are the operations so far and those of a page that reads. -/
theorem exists_page_of_look {s : Rest} {now : Instant} {id : NodeGroupId} {x : Exchange}
    {sofar operations : List GroupOperation}
    (h : operations? (s.look now (.operations id) (.reading x sofar)) = some operations) :
    x.due ≤ now ∧ ∃ documents token,
      readDocument "node group" id OperationDocument.page? x.outcome = .ok (documents, token) ∧
        operations = sofar ++ documents.map OperationDocument.operation := by
  by_cases due : x.due ≤ now
  · refine ⟨due, ?_⟩
    have hlook := (Paging.operations s.client id).look_reading rfl due sofar
    change s.look now (.operations id) (.reading x sofar) = _ at hlook
    rw [hlook, Paging.read_operations] at h
    cases hread : readDocument "node group" id OperationDocument.page? x.outcome with
    | error e =>
      simp only [hread] at h
      cases h
    | ok page =>
      obtain ⟨documents, token⟩ := page
      simp only [hread, Except.map] at h
      refine ⟨documents, token, rfl, ?_⟩
      split at h <;> exact (Option.some.inj h).symm
  · rw [look, if_pos (Nat.lt_of_not_le due)] at h
    cases h

end Rest

/-! ### What is known of the routine -/

/-- What is known where the routine stands that deletes a group, `warned` saying that a page warned
it, and `deleted` that it sent a request to delete. -/
def DeleteGroup.Heeds (id : NodeGroupId) (warned deleted : Prop) :
    TaskState Rest (.deleteGroup id) → Prop
  | .ready => ¬ warned ∧ ¬ deleted
  | .waiting (.queued _) _ _ => ¬ warned ∧ ¬ deleted
  | .waiting (.checking _) (.call (stage : Rest.Stage (.operations _)) _) _ =>
    (warned → stage.operations.any GroupOperation.isPendingDelete = true) ∧ ¬ deleted
  | .waiting (.deleting _) _ _ => ¬ warned
  | .finished _ => ¬ (warned ∧ deleted)
  | .cancelled => ¬ (warned ∧ deleted)
  | .crashed => ¬ (warned ∧ deleted)

theorem DeleteGroup.heeds_ready (id : NodeGroupId) : Heeds id False False .ready :=
  ⟨not_false, not_false⟩

/-- If a page warned the routine, it deletes nothing. -/
theorem DeleteGroup.Heeds.not_and {id : NodeGroupId} {warned deleted : Prop}
    {state : TaskState Rest (.deleteGroup id)} (h : Heeds id warned deleted state) :
    ¬ (warned ∧ deleted) := by
  unfold Heeds at h
  split at h
  next => exact fun hboth => h.1 hboth.1
  next => exact fun hboth => h.1 hboth.1
  next => exact fun hboth => h.2 hboth.2
  next => exact fun hboth => h hboth.1
  next => exact h
  next => exact h
  next => exact h

theorem DeleteGroup.Heeds.mono {id : NodeGroupId} {warned warned' deleted deleted' : Prop}
    {state : TaskState Rest (.deleteGroup id)} (h : Heeds id warned deleted state)
    (warns : warned' → warned) (deletes : deleted' → deleted) :
    Heeds id warned' deleted' state := by
  unfold Heeds at h ⊢
  split at h
  next => exact ⟨mt warns h.1, mt deletes h.2⟩
  next => exact ⟨mt warns h.1, mt deletes h.2⟩
  next => exact ⟨fun hw => h.1 (warns hw), mt deletes h.2⟩
  next => exact mt warns h
  next => exact fun hboth => h ⟨warns hboth.1, deletes hboth.2⟩
  next => exact fun hboth => h ⟨warns hboth.1, deletes hboth.2⟩
  next => exact fun hboth => h ⟨warns hboth.1, deletes hboth.2⟩

namespace Session

/-- At a moment a task that asks for the operations of a group is warned by a page. -/
def Warned (m : Moment Rest) (n : Nat) : Prop :=
  m.cause = .stepped n ∧ ∃ (id : NodeGroupId) (limit : Limit) (x : Exchange)
    (sofar : List GroupOperation) (deadline : Option Instant), m.before.hold? n =
      some ⟨.call (.operations id) limit, .call (Rest.Stage.reading x sofar) deadline⟩ ∧
        Rest.Warns id m.before.now deadline x

variable {id : NodeGroupId} {warned deleted : Prop} {s s' : Session Rest} {c : Cause} {n : Nat}
  {cancelAt : Option Instant}

/-- The routine is warned only where it looks at the operations of its group. -/
theorem not_warned_of_get? {state : TaskState Rest (.deleteGroup id)}
    (task : s.tasks.get? n = some ⟨.deleteGroup id, cancelAt, state⟩)
    (other : ∀ id' hold slot, state ≠ .waiting (.checking id') hold slot) :
    ¬ Warned ⟨s, c, s'⟩ n := by
  rintro ⟨-, id', limit, x, sofar, deadline, hhold, -⟩
  change s.hold? n = _ at hhold
  rw [hold?, task] at hhold
  cases state with
  | waiting point hold slot =>
    cases point with
    | checking id' => exact other id' hold slot rfl
    | queued id' => cases hhold
    | deleting id' => cases hhold
  | ready => cases hhold
  | finished result => cases hhold
  | cancelled => cases hhold
  | crashed => cases hhold

/-- The routine sends a request to delete only when it goes on to delete. -/
theorem not_sends_proceed {s₁ : Session Rest} {slot : Option Nat}
    {next : Next DeleteGroup.Point DeleteGroup.Result}
    (keeps : Rest.Keeps .delete s.provider s₁.provider)
    (other : ∀ id', next ≠ .goOn (.deleting id')) :
    ¬ Sends .delete ⟨s, c, s₁.proceed n (.deleteGroup id) cancelAt slot next⟩ := by
  refine not_sends_of_keeps ?_
  rw [provider_proceed]
  cases next with
  | done result => exact keeps
  | crash => exact keeps
  | goOn point =>
    cases point with
    | queued id' => exact keeps
    | checking id' =>
      have hget : (Request.operations id').method ≠ .delete := nofun
      exact keeps.trans (Rest.keeps_start _ _ hget)
    | deleting id' => exact absurd rfl (other id')

/-- What is watched of the routine: pages that warn, and requests to delete. -/
def deletionWatch (id : NodeGroupId) : Watch Rest (.deleteGroup id) where
  learns := Warned
  acts := Sends .delete
  known := DeleteGroup.Heeds id
  steps := by
    rintro m n ⟨hcause, id, limit, x, sofar, deadline, hhold, -⟩
    refine ⟨hcause, fun hnone => ?_⟩
    rw [hold?, hnone] at hhold
    cases hhold
  still s c n := not_sends_of_keeps (keeps_cancel .delete s n)
  ready := DeleteGroup.heeds_ready id
  mono h warns deletes := h.mono warns deletes

/-! ### Moves of the routine -/

theorem heedsDeletions_started (task : s.tasks.get? n = some ⟨.deleteGroup id, cancelAt, .ready⟩)
    (h : DeleteGroup.Heeds id warned deleted .ready) (cache : VerdictCache) :
    (deletionWatch id).Now warned deleted ⟨s, .stepped n,
      (s.keepCache .keeper cache).proceed n (.deleteGroup id) cancelAt none
        (.goOn (.queued id))⟩ n := by
  obtain ⟨hold, slot, hafter⟩ := exists_get?_tasks_proceed (s.keepCache .keeper cache) n
    (.deleteGroup id) cancelAt none (.queued id)
  refine ⟨_, _, hafter, not_or.2 ⟨h.1, not_warned_of_get? task nofun⟩, not_or.2 ⟨h.2, ?_⟩⟩
  exact not_sends_proceed (.refl ..) nofun

/-- What a look at the pages comes to has a deletion that is under way if a page has warned by now,
or does so now. -/
theorem any_of_warned {x : Exchange} {sofar : List GroupOperation} {limit : Limit}
    {deadline : Option Instant} {operations : List GroupOperation}
    (waits : s.hold? n = some ⟨.call (.operations id) limit,
      .call (Rest.Stage.reading x sofar) deadline⟩)
    (before : warned → sofar.any GroupOperation.isPendingDelete = true)
    (looked : Rest.operations? (s.provider.look s.now (.operations id) (.reading x sofar)) =
      some operations) (now : warned ∨ Warned ⟨s, c, s'⟩ n) :
    operations.any GroupOperation.isPendingDelete = true := by
  obtain ⟨hdue, documents, token, hread, rfl⟩ := Rest.exists_page_of_look looked
  rw [List.any_append, Bool.or_eq_true]
  refine now.imp before ?_
  rintro ⟨-, id, limit, x, sofar, deadline, hhold, hwarns⟩
  cases waits.symm.trans hhold
  exact hwarns.any hdue hread

theorem heedsDeletions_moved {point : DeleteGroup.Point} {hold hold' : Hold Rest point.awaits}
    {slot : Option Nat} {provider : Rest}
    (task : s.tasks.get? n = some ⟨.deleteGroup id, cancelAt, .waiting point hold slot⟩)
    (h : DeleteGroup.Heeds id warned deleted (.waiting point hold slot))
    (looked : s.look .keeper n point.awaits hold = .moved hold' provider) :
    (deletionWatch id).Now warned deleted ⟨s, .stepped n,
      { s with provider }.setTask n ⟨.deleteGroup id, cancelAt, .waiting point hold' slot⟩⟩ n := by
  have hwaits := hold?_of_get? task
  have hquiet : ¬ Sends .delete ⟨s, .stepped n, { s with provider }.setTask n
      ⟨.deleteGroup id, cancelAt, .waiting point hold' slot⟩⟩ :=
    not_sends_of_keeps (keeps_of_look_eq_moved .delete nofun looked)
  refine ⟨_, _, get?_tasks_setTask_self .., ?_⟩
  cases point with
  | queued id' =>
    obtain ⟨_, _, hawaits⟩ := exists_call_of_look_eq_moved looked
    cases hawaits
  | checking id' =>
    obtain ⟨stage, stage', deadline, rfl, rfl, hmoved⟩ := look_call_moved looked
    obtain ⟨hpending, hdeleted⟩ := h
    cases stage with
    | queued use => cases use
    | describing use => cases use
    | reading x sofar =>
      exact ⟨any_of_warned hwaits hpending (congrArg Rest.operations? hmoved),
        not_or.2 ⟨hdeleted, hquiet⟩⟩
  | deleting id' => exact not_or.2 ⟨h, not_warned_of_get? task nofun⟩

/-- The routine ends and sends nothing more. -/
theorem heedsDeletions_done {s₁ : Session Rest} {slot : Option Nat} (result : DeleteGroup.Result)
    (keeps : Rest.Keeps .delete s.provider s₁.provider)
    (undeleted : warned ∨ Warned ⟨s, c, s₁.proceed n (.deleteGroup id) cancelAt slot
      (.done result)⟩ n → ¬ deleted) :
    (deletionWatch id).Now warned deleted
      ⟨s, c, s₁.proceed n (.deleteGroup id) cancelAt slot (.done result)⟩ n := by
  refine ⟨_, _, get?_tasks_setTask_self .., fun hboth => ?_⟩
  refine not_or.2 ⟨undeleted hboth.1, ?_⟩ hboth.2
  exact not_sends_proceed keeps nofun

/-- The routine has looked at the operations: it goes on to delete only if no page warned it. -/
theorem heedsDeletions_checked {s₁ : Session Rest} {slot : Option Nat} (undeleted : ¬ deleted)
    (keeps : Rest.Keeps .delete s.provider s₁.provider) {id' : NodeGroupId}
    (answer : (Request.operations id').Outcome)
    (pending : ∀ operations s', answer = .ok operations → warned ∨ Warned ⟨s, c, s'⟩ n →
      operations.any GroupOperation.isPendingDelete = true) :
    (deletionWatch id).Now warned deleted ⟨s, c, s₁.proceed n (.deleteGroup id) cancelAt slot
      (DeleteGroup.resume (.checking id') answer)⟩ n := by
  cases answer with
  | error e => exact heedsDeletions_done _ keeps fun _ => undeleted
  | ok operations =>
    cases hany : operations.any GroupOperation.isPendingDelete with
    | true =>
      simp only [DeleteGroup.resume, hany, if_true]
      exact heedsDeletions_done _ keeps fun _ => undeleted
    | false =>
      simp only [DeleteGroup.resume, hany]
      obtain ⟨hold, slot', hafter⟩ :=
        exists_get?_tasks_proceed s₁ n (.deleteGroup id) cancelAt slot (.deleting id')
      refine ⟨_, _, hafter, fun hwarned => ?_⟩
      cases hany.symm.trans (pending operations _ rfl hwarned)

theorem heedsDeletions_answered {point : DeleteGroup.Point} {hold : Hold Rest point.awaits}
    {slot : Option Nat} {answer : point.awaits.Answer} {provider : Rest}
    (task : s.tasks.get? n = some ⟨.deleteGroup id, cancelAt, .waiting point hold slot⟩)
    (h : DeleteGroup.Heeds id warned deleted (.waiting point hold slot))
    (looked : s.look .keeper n point.awaits hold = .finished answer provider)
    (cache : VerdictCache) :
    (deletionWatch id).Now warned deleted ⟨s, .stepped n,
      ({ s with provider }.keepCache .keeper cache).proceed n (.deleteGroup id) cancelAt slot
        (DeleteGroup.resume point answer)⟩ n := by
  have hwaits := hold?_of_get? task
  have hkeeps : Rest.Keeps .delete s.provider
      ({ s with provider }.keepCache .keeper cache).provider :=
    keeps_of_look_eq_finished .delete nofun looked
  cases point with
  | queued id' =>
    obtain ⟨hwarned, hdeleted⟩ := h
    obtain ⟨hold', slot', hafter⟩ := exists_get?_tasks_proceed
      ({ s with provider }.keepCache .keeper cache) n (.deleteGroup id) cancelAt slot
      (.checking id')
    have hnot : ∀ s', ¬ (warned ∨ Warned ⟨s, .stepped n, s'⟩ n) := fun s' =>
      not_or.2 ⟨hwarned, not_warned_of_get? task nofun⟩
    refine ⟨_, _, hafter, ?_⟩
    cases hold' with
    | call stage deadline =>
      refine ⟨fun hw => absurd hw (hnot _), not_or.2 ⟨hdeleted, ?_⟩⟩
      exact not_sends_proceed hkeeps nofun
  | checking id' =>
    cases hold with
    | call stage deadline =>
      obtain ⟨hpending, hdeleted⟩ := h
      refine heedsDeletions_checked hdeleted hkeeps answer fun operations s' hanswer => ?_
      subst hanswer
      obtain ⟨stage, deadline, hhold, hfinished | ⟨herror, -⟩⟩ := look_call_finished looked
      · cases hhold
        cases stage with
        | queued use => cases use
        | describing use => cases use
        | reading x sofar =>
          exact any_of_warned hwaits hpending (congrArg Rest.operations? hfinished)
      · cases herror
  | deleting id' =>
    have hnot : ∀ s', ¬ (warned ∨ Warned ⟨s, .stepped n, s'⟩ n) := fun s' =>
      not_or.2 ⟨h, not_warned_of_get? task nofun⟩
    cases answer <;> exact heedsDeletions_done _ hkeeps fun hwarned => absurd hwarned (hnot _)

/-- A page that has warned by now, or does so now, finds that nothing was deleted. -/
theorem not_deleted_of_warned {state : TaskState Rest (.deleteGroup id)}
    (task : s.tasks.get? n = some ⟨.deleteGroup id, cancelAt, state⟩)
    (h : DeleteGroup.Heeds id warned deleted state) (warns : warned ∨ Warned ⟨s, c, s'⟩ n) :
    ¬ deleted := by
  have before : (∀ id' hold slot, state ≠ .waiting (.checking id') hold slot) → warned :=
    fun other => warns.resolve_right (not_warned_of_get? task other)
  cases state with
  | ready => exact h.2
  | waiting point hold slot =>
    cases point with
    | queued id' => exact h.2
    | checking id' =>
      cases hold with
      | call stage deadline => exact h.2
    | deleting id' => exact absurd (before nofun) h
  | finished result => exact fun hdeleted => h ⟨before nofun, hdeleted⟩
  | cancelled => exact fun hdeleted => h ⟨before nofun, hdeleted⟩
  | crashed => exact fun hdeleted => h ⟨before nofun, hdeleted⟩

theorem heedsDeletions_cancelled {state : TaskState Rest (.deleteGroup id)}
    (task : s.tasks.get? n = some ⟨.deleteGroup id, cancelAt, state⟩)
    (h : DeleteGroup.Heeds id warned deleted state) :
    (deletionWatch id).Now warned deleted ⟨s, c, s.cancel n⟩ n := by
  have hquiet : ¬ Sends .delete ⟨s, c, s.cancel n⟩ :=
    not_sends_of_keeps (keeps_cancel .delete s n)
  have hnot : ¬ ((warned ∨ Warned ⟨s, c, s.cancel n⟩ n) ∧
      (deleted ∨ Sends .delete ⟨s, c, s.cancel n⟩)) := fun hboth =>
    not_or.2 ⟨not_deleted_of_warned task h hboth.1, hquiet⟩ hboth.2
  obtain ⟨state', hafter, rfl | rfl | ⟨result, rfl⟩⟩ := exists_get?_tasks_cancel task
  · exact ⟨_, _, hafter, hnot⟩
  · exact ⟨_, _, hafter, hnot⟩
  · exact ⟨_, _, hafter, hnot⟩

/-- Every step of the routine keeps what is known of pages and requests. -/
theorem Took.heedsDeletions (took : Took s n s') {state : TaskState Rest (.deleteGroup id)}
    (task : s.tasks.get? n = some ⟨.deleteGroup id, cancelAt, state⟩)
    (h : DeleteGroup.Heeds id warned deleted state) :
    (deletionWatch id).Now warned deleted ⟨s, .stepped n, s'⟩ n := by
  cases took with
  | started task' =>
    cases task.symm.trans task'
    exact heedsDeletions_started task h _
  | moved task' looked =>
    cases task.symm.trans task'
    exact heedsDeletions_moved task h looked
  | answered task' looked =>
    cases task.symm.trans task'
    exact heedsDeletions_answered task h looked _
  | dropped => exact heedsDeletions_cancelled task h

/-- After any history, whatever the service answers, what a task of the routine has read and sent
is as is known where it stands. -/
theorem History.heedsDeletions {setup : Setup} {client : RestClient} {service : WebService}
    {past : List (Moment Rest)}
    (h : History scripted (begin setup (Rest.begin client service)) past s)
    {state : TaskState Rest (.deleteGroup id)}
    (task : s.tasks.get? n = some ⟨.deleteGroup id, cancelAt, state⟩) :
    DeleteGroup.Heeds id ((deletionWatch id).Learned past n) ((deletionWatch id).Acted past n)
      state :=
  h.watch rfl (deletionWatch id) (fun _ task known =>
    ⟨fun _ took => took.heedsDeletions task known, heedsDeletions_cancelled task known⟩) task

/-! ### Requests to delete -/

/-- A step of the routine sends a request to delete only if it has got the operations, and none of
them is a deletion that is under way. -/
theorem Took.exists_answered (took : Took s n s')
    (job : ∀ j, s.job? n = some j → j = .deleteGroup id)
    (group : ∀ point, s.standing? n = some ⟨.deleteGroup id, .goOn point⟩ → point.group = id)
    (sends : Sends .delete ⟨s, .stepped n, s'⟩) :
    ∃ operations, Answered ⟨s, .stepped n, s'⟩ n (.operations id) (.ok operations) ∧
      operations.any GroupOperation.isPendingDelete = false := by
  cases took with
  | started task =>
    obtain rfl := job _ (job?_of_get? task)
    exact absurd sends (not_sends_proceed (.refl ..) fun _ h => by cases h)
  | moved task looked =>
    exact absurd sends (not_sends_of_keeps (keeps_of_look_eq_moved .delete nofun looked))
  | dropped => exact absurd sends (not_sends_of_keeps (keeps_cancel .delete s n))
  | @answered _ _ point hold slot answer provider task looked =>
    obtain rfl := job _ (job?_of_get? task)
    have hkeeps : Rest.Keeps .delete s.provider provider :=
      keeps_of_look_eq_finished .delete nofun looked
    obtain ⟨id', hnext⟩ : ∃ id', DeleteGroup.resume point answer = .goOn (.deleting id') :=
      Classical.byContradiction fun hother =>
        not_sends_proceed hkeeps (not_exists.1 hother) sends
    cases point with
    | queued id' => cases hnext
    | deleting id' => cases answer <;> cases hnext
    | checking id' =>
      obtain rfl : id' = id := group _ (standing?_of_get? task)
      cases answer with
      | error e => cases hnext
      | ok operations =>
        refine ⟨operations, ⟨rfl, _, hold, _, provider, hold?_of_get? task, looked⟩, ?_⟩
        simp only [DeleteGroup.resume] at hnext
        split at hnext
        next => cases hnext
        next hany => exact Bool.eq_false_of_not_eq_true hany

/-- A task of the routine stays with its group. -/
theorem History.group_of_goOn {w : Surroundings Rest} {s₀ : Session Rest}
    {past : List (Moment Rest)} (h : History w s₀ past s) (begins : s₀.tasks = .empty)
    {point : DeleteGroup.Point} (hn : s.standing? n = some ⟨.deleteGroup id, .goOn point⟩) :
    point.group = id := by
  refine h.standing?_induction (P := fun _ _ x => ∀ id point,
    x = ⟨.deleteGroup id, .goOn point⟩ → point.group = id) begins (fun _ _ _ h => h) ?_ hn id point
    rfl
  intro past s s' n j next provider _ arrives _ ih id point hx
  cases hx
  rcases arrives.exists with ⟨-, hstart, -⟩ | ⟨_, point', _, _, answer, task, -, hresume⟩
  · cases hstart
    rfl
  · exact (DeleteGroup.group_of_resume hresume.symm).trans
      (ih _ (standing?_of_get? task) id point' rfl)

/-- After any history, a task of the routine has sent a request to delete only at the moment at
which it got the operations, and none of them was a deletion under way. -/
theorem History.exists_answered {w : Surroundings Rest} {s₀ : Session Rest}
    {past : List (Moment Rest)} (h : History w s₀ past s) (begins : s₀.tasks = .empty)
    (job : s.job? n = some (.deleteGroup id)) {m : Moment Rest} (mem : m ∈ past) (own : m.IsOf n)
    (sends : Sends .delete m) : ∃ operations, Answered m n (.operations id) (.ok operations) ∧
      operations.any GroupOperation.isPendingDelete = false := by
  obtain ⟨earlier, hearlier, hmove⟩ := h.exists_of_mem mem
  obtain ⟨before, cause, after⟩ := m
  change Move w before cause after at hmove
  have hjob : ∀ j, before.job? n = some j → j = .deleteGroup id := fun j hj =>
    Option.some.inj ((h.job?_of_mem (fresh_of_empty begins) mem hj).symm.trans job)
  rcases hmove.took_or_cancel own with ⟨rfl, took⟩ | ⟨-, rfl⟩
  · exact took.exists_answered hjob (fun _ => hearlier.group_of_goOn begins) sends
  · exact absurd sends (not_sends_of_keeps (keeps_cancel .delete before n))

/-- A task that has got its last page goes on from the operations that it has gathered. -/
theorem step?_of_lastPage {slot : Option Nat} {deadline : Option Instant} {x : Exchange}
    {sofar : List GroupOperation} (task : s.tasks.get? n = some ⟨.deleteGroup id, cancelAt,
      .waiting (.checking id) (.call (Rest.Stage.reading x sofar) deadline) slot⟩)
    (due : x.due ≤ s.now) {documents : List OperationDocument}
    (read : Rest.readDocument "node group" id OperationDocument.page? x.outcome =
      .ok (documents, "")) :
    s.step? n = some ((s.keepCache .keeper s.keeper.cache).proceed n (.deleteGroup id) cancelAt slot
      (DeleteGroup.resume (.checking id)
        (.ok (sofar ++ documents.map OperationDocument.operation)))) := by
  have hlast := (Rest.Paging.operations s.provider.client id).look_reading rfl due sofar
  rw [Rest.Paging.read_operations, read] at hlast
  exact step?_of_look task (look_call_of_finished _ n deadline hlast) rfl

end Session

/-! ### Runs -/

/-- A service with some responses, and then with none that arrives. -/
def WebService.withResponses (responses : List Response) : WebService := ⟨responses, ⟨0, .lost⟩, []⟩

namespace Rest.Paging

/-- The bytes of `onward`. -/
def onwardBody : List UInt8 :=
  GroupPage.bytes ("\x7b\"operations\":[\x7b\"id\":\"make\",\"done\":true\x7d],".toList ++
    "\"nextPageToken\":\"t\"\x7d".toList)

/-- A page with an operation that is done, which leads on to another page. -/
def onward : (operations .small "group").Page where
  response := ⟨0, .answered 200 (some onwardBody)⟩
  items := [⟨"make", "", true⟩]
  token := "t"
  timely := Nat.zero_le _
  reads := by decide +kernel
  onward := by decide

/-- The bytes of `pending`. -/
def pendingBody : List UInt8 :=
  GroupPage.bytes ("\x7b\"operations\":[\x7b\"id\":\"drop\",\"metadata\":".toList ++
    "\x7b\"@type\":\"DeleteNodeGroup\"\x7d\x7d]\x7d".toList)

/-- The response with a last page on which there is a deletion that is under way. -/
def pending : Response := ⟨0, .answered 200 (some pendingBody)⟩

theorem readDocument_pending : readDocument "node group" "group" OperationDocument.page?
    (.ok pending.delivery) = .ok ([⟨"drop", false, "DeleteNodeGroup", "", none⟩], "") := by
  decide +kernel

theorem read_pending : (operations .small "group").read (.ok pending.delivery) =
    .ok ([⟨"drop", "DeleteNodeGroup", false⟩], "") := by
  rw [read_operations, readDocument_pending]
  rfl

/-- The bytes of `cleared`. -/
def clearedBody : List UInt8 :=
  GroupPage.bytes "\x7b\"operations\":[\x7b\"id\":\"make\",\"done\":true\x7d]\x7d".toList

/-- The response with a last page on which there is an operation that is done. -/
def cleared : Response := ⟨0, .answered 200 (some clearedBody)⟩

theorem readDocument_cleared : readDocument "node group" "group" OperationDocument.page?
    (.ok cleared.delivery) = .ok ([⟨"make", true, "", "", none⟩], "") := by decide +kernel

/-- A page that leads on, and then the last one. -/
def twoPages (url : Url) : (operations .small "group").Script url where
  pages := [onward]
  ending := pending
  last := .ok [⟨"drop", "DeleteNodeGroup", false⟩]
  ends := by
    have timely : ¬ RestClient.small.requestTimeout < pending.stall := Nat.not_lt_zero _
    rw [arrives, WebService.exchange, if_neg timely]
    exact read_pending

/-- The text of a group of a cluster that has the label of this library. -/
def labelledText (id cluster fraction : String) : List Char :=
  "\x7b\"id\":\"".toList ++ id.toList ++ "\",\"clusterId\":\"".toList ++ cluster.toList ++
    "\",\"labels\":\x7b\"managed-by\":\"nodeplan\"\x7d,\"nodeTemplate\":".toList ++
    "\x7b\"resourcesSpec\":\x7b\"coreFraction\":".toList ++ fraction.toList ++
    "\x7d\x7d\x7d".toList

/-- The document with the text of `labelledText`. -/
def labelledDocument (id cluster : String) (fraction : UInt64) : GroupDocument where
  id := id
  name := ""
  cluster := cluster
  labels := .ofList [("managed-by", "nodeplan")]
  status := ""
  template := { (default : GroupDocument.Template) with coreFraction := fraction }
  locations := []

/-- The group of `labelledDocument` on full cores. -/
def labelledGroup (id cluster : String) : NodeGroup where
  id := id
  name := ""
  cluster := cluster
  labels := .ofList [("managed-by", "nodeplan")]
  shape := ⟨"", .full, 0, 0⟩
  zone := none
  subnet := none
  diskType := ""
  diskSizeBytes := 0
  discounted := false
  instanceId := none
  state := .unknown ""

/-- The documents of `mixed`: one is about a group of another cluster, and one about no group. -/
def mixedDocuments : List GroupDocument :=
  [labelledDocument "away" "other" 100, labelledDocument "torn" "home" 0,
    labelledDocument "first" "home" 100]

/-- The bytes of `mixed`. -/
def mixedBody : List UInt8 :=
  GroupPage.bytes ("\x7b\"nodeGroups\":[".toList ++ labelledText "away" "other" "100" ++
    ",".toList ++ labelledText "torn" "home" "0" ++ ",".toList ++
    labelledText "first" "home" "100" ++ "],\"nextPageToken\":\"t\"\x7d".toList)

theorem readDocument_mixed : readDocument "node groups" "folder" GroupDocument.page?
    (.ok (.answered 200 (some mixedBody))) = .ok (mixedDocuments, "t") := by decide +kernel

/-- A page of which one group is listed, and which leads on to another page. -/
def mixed : (groups .small "folder").Page where
  response := ⟨0, .answered 200 (some mixedBody)⟩
  items := [labelledGroup "first" "home"]
  token := "t"
  timely := Nat.zero_le _
  reads := by
    simp only [groups, readDocument_mixed]
    rfl
  onward := by decide

/-- The bytes of `final`. -/
def finalBody : List UInt8 :=
  GroupPage.bytes ("\x7b\"nodeGroups\":[".toList ++ labelledText "second" "home" "100" ++
    "]\x7d".toList)

/-- The response with a last page of one group. -/
def final : Response := ⟨0, .answered 200 (some finalBody)⟩

theorem read_final : (groups .small "folder").read (.ok final.delivery) =
    .ok ([labelledGroup "second" "home"], "") := by decide +kernel

/-- Two pages of groups. -/
def twoGroupPages (url : Url) : (groups .small "folder").Script url where
  pages := [mixed]
  ending := final
  last := .ok [labelledGroup "second" "home"]
  ends := by
    have timely : ¬ RestClient.small.requestTimeout < final.stall := Nat.not_lt_zero _
    rw [arrives, WebService.exchange, if_neg timely]
    exact read_final

/-- A page of groups, and then one that does not arrive. -/
def lostPage (url : Url) : (groups .small "folder").Script url where
  pages := [mixed]
  ending := ⟨0, .lost⟩
  last := .error (.transport WebService.lostText)
  ends := rfl

/-- What is asked for with the pages of groups, the latest first. -/
def groupTargets : List String :=
  ["/nodeGroups?folderId=folder&pageSize=1000&pageToken=t",
    "/nodeGroups?folderId=folder&pageSize=1000&pageToken="]

/-- What is asked for with the pages of operations, the latest first. -/
def operationTargets : List String :=
  ["/nodeGroups/group/operations?pageSize=1000&pageToken=t",
    "/nodeGroups/group/operations?pageSize=1000&pageToken="]

theorem isSome_small_groups :
    (Url.parse? (groups .small "folder").address).isSome = true := by decide +kernel

theorem isSome_small_operations :
    (Url.parse? (operations .small "group").address).isSome = true := by decide +kernel

/-- The address of the groups. -/
def groupsUrl : Url := (Url.parse? _).get isSome_small_groups

theorem targets_groups : [(groups .small "folder").request groupsUrl "t",
    (groups .small "folder").request groupsUrl ""].map (·.url.target) = groupTargets := by
  decide +kernel

/-- The address of the operations of a group. -/
def operationsUrl : Url := (Url.parse? _).get isSome_small_operations

theorem targets_operations : [(operations .small "group").request operationsUrl "t",
    (operations .small "group").request operationsUrl ""].map (·.url.target) =
      operationTargets := by
  decide +kernel

/-- A client that is served two pages of operations. -/
def served : Rest := .begin .small (.withResponses [onward.response, pending])

/-- A client that knows about the cluster and is served a page of groups and what comes after it. -/
def servedGroups (ending : Response) : Rest :=
  ⟨.small, .withResponses [mixed.response, ending], some ⟨"folder", "network"⟩, .idle, 0⟩

/-- The first page arrives at once, if its response is prompt. -/
theorem start_operations_of_prompt {service : WebService} {delivery : Delivery}
    {rest : List Response} (scripted : service.responses = ⟨0, delivery⟩ :: rest) :
    (start (.begin .small service) 0 (.operations "group")).1 =
      .reading ⟨0, .ok delivery⟩ [] := by
  obtain ⟨url, written⟩ := Option.isSome_iff_exists.1 isSome_small_operations
  have hclient : (Rest.begin .small service).client = .small := rfl
  have hask := askPage_eq hclient written RestClient.isHeaderText_small scripted 0 ""
  have hprompt : ∀ url, WebService.exchange 0 RestClient.small.requestTimeout url ⟨0, delivery⟩ =
      ⟨0, .ok delivery⟩ := fun _ => if_neg (Nat.not_lt_zero _)
  rw [start_operations, hclient, hask, hprompt]
  rfl

end Rest.Paging

theorem Rest.isSome_small_group :
    (Url.parse? (RestClient.small.groupAddress "group")).isSome = true := by decide +kernel

/-- A call to delete sends a request to delete if its address can be written down. -/
theorem Rest.sent_delete_ne (s : Rest) (now : Instant) {id : NodeGroupId}
    (written : (Url.parse? (s.client.groupAddress id)).isSome = true)
    (header : isHeaderText s.client.authorization = true) :
    (s.start now (.deleteNodeGroup id)).2.sent .delete ≠ s.sent .delete := by
  obtain ⟨url, hurl⟩ := Option.isSome_iff_exists.1 written
  simp [start, await, send, hurl, header, sent, WebService.send]

namespace Session

/-- A session in which a group is to be deleted, and its task has begun to look at the operations.
-/
def checking (service : WebService) : Session Rest :=
  ((begin Setup.small (Rest.begin .small service)).submit (.deleteGroup "group") none).2.runTasks 2
    [0] [0] false

theorem get?_tasks_checking (service : WebService) : (checking service).tasks.get? 0 =
    some ⟨.deleteGroup "group", none, .waiting (.checking "group") (.call
      (Rest.start (.begin .small service) 0 (.operations "group")).1 (some 2)) (some 0)⟩ := rfl

/-- A task gets the operations on the first page, which is the last one, and goes on from them. -/
theorem exists_checked {delivery : Delivery} {documents : List OperationDocument}
    (read : Rest.readDocument "node group" "group" OperationDocument.page? (.ok delivery) =
      .ok (documents, "")) : ∃ past s s', s.provider.client = .small ∧
    s.hold? 0 = some ⟨.call (.operations "group") .standard,
      .call (Rest.Stage.reading ⟨0, .ok delivery⟩ []) (some 2)⟩ ∧
    History scripted (begin Setup.small (Rest.begin .small (.withResponses [⟨0, delivery⟩])))
      (⟨s, .stepped 0, s'⟩ :: past) s' ∧
    s'.job? 0 = some (.deleteGroup "group") ∧
    s' = (s.keepCache .keeper s.keeper.cache).proceed 0 (.deleteGroup "group") none (some 0)
      (DeleteGroup.resume (.checking "group")
        (.ok (documents.map OperationDocument.operation))) := by
  let service : WebService := .withResponses [⟨0, delivery⟩]
  have hstart : History scripted (begin Setup.small (Rest.begin .small service)) [] _ := .start
  have hsubmitted := hstart.go (.submit (j := .deleteGroup "group") none trivial)
  obtain ⟨past, hchecking⟩ := hsubmitted.runTasks 2 [0] [0] false
  have task := get?_tasks_checking service
  rw [Rest.Paging.start_operations_of_prompt rfl] at task
  have hstep := step?_of_lastPage task (Nat.zero_le _) read
  exact ⟨past, checking service, _, History.client_eq hchecking, hold?_of_get? task,
    History.go hchecking (.step hstep), ((took_of_step? hstep).job? 0).trans (job?_of_get? task),
    rfl⟩

/-! ### What comes of pages -/

/-- Answers that come in pages lose nothing and repeat nothing.  A call for the node groups that has
come to know about the cluster, and a call for the operations of a group, send one request for each
page, with the token of the page before it, and come to the items of all pages in order; if a page
fails, they come to its failure and ask for no other page.  So, after any history, a task that
deletes a group sends no request to delete if a page held a deletion under way, failed, or did not
come in time; and it sends one only with all operations at hand. -/
theorem no_page_lost :
    (∀ (s : Rest) (info : ClusterInfo) (stage : Rest.Stage .nodeGroups), stage.Knows s info →
      ∀ url, Url.parse? (Rest.Paging.groups s.client info.folder).address = some url →
      isHeaderText s.client.authorization = true →
      ∀ (script : (Rest.Paging.groups s.client info.folder).Script url) (rest : List Response),
        s.service.responses = script.responses ++ rest → ∀ now, ∃ line,
        Rest.follow .nodeGroups (script.pages.length + 2) s now stage = some
          (script.answer, { s with line, info := some info }.asked script.requests rest)) ∧
    (∀ (s : Rest) (id : NodeGroupId),
      ∀ url, Url.parse? (Rest.Paging.operations s.client id).address = some url →
      isHeaderText s.client.authorization = true →
      ∀ (script : (Rest.Paging.operations s.client id).Script url) (rest : List Response),
        s.service.responses = script.responses ++ rest → ∀ now,
        Rest.follow (.operations id) (script.pages.length + 1) (s.start now (.operations id)).2 now
          (s.start now (.operations id)).1 = some (script.answer, s.asked script.requests rest)) ∧
    ∀ (setup : Setup) (client : RestClient) (service : WebService) (past : List (Moment Rest))
      (s : Session Rest), History scripted (begin setup (Rest.begin client service)) past s →
      ∀ n id, s.job? n = some (.deleteGroup id) → ∀ m ∈ past, m.IsOf n →
        ((∃ m' ∈ past, Warned m' n) →
          m.after.provider.sent .delete = m.before.provider.sent .delete) ∧
        (m.after.provider.sent .delete ≠ m.before.provider.sent .delete →
          ∃ operations, Answered m n (.operations id) (.ok operations) ∧
            operations.any GroupOperation.isPendingDelete = false) := by
  refine ⟨fun s info stage knows url written header script rest scripted now =>
    Rest.follow_groups knows written header script scripted now,
    fun s id url written header script rest scripted now =>
      Rest.follow_operations written header script scripted now,
    fun setup client service past s h n id job m hm hof =>
      ⟨fun warned => ?_, h.exists_answered rfl job hm hof⟩⟩
  obtain ⟨⟨j, cancelAt, state⟩, task, hj⟩ := Option.map_eq_some_iff.1 job
  cases hj
  refine Classical.byContradiction fun hsends => ?_
  exact (h.heedsDeletions task).not_and ⟨warned, m, hm, hof, hsends⟩

/-- Two pages of groups are read one after the other, and of the first one the group that was made
here and can be made out is listed; if the second one does not arrive, nothing is.  So are two pages
of operations, and a task sends a request to delete unless it finds a deletion under way. -/
theorem two_pages_read :
    (Rest.readDocument "node groups" "folder" GroupDocument.page?
        (.ok Rest.Paging.mixed.response.delivery) = .ok (Rest.Paging.mixedDocuments, "t") ∧
      Rest.Paging.mixedDocuments.map (fun d => (d.isManagedIn "home", d.group.toOption)) =
        [(false, some (Rest.Paging.labelledGroup "away" "other")), (true, none),
          (true, some (Rest.Paging.labelledGroup "first" "home"))]) ∧
    (∃ s, Rest.follow .nodeGroups 3 (Rest.Paging.servedGroups Rest.Paging.final) 0
        (.queued .folder 0) = some (.ok [Rest.Paging.labelledGroup "first" "home",
          Rest.Paging.labelledGroup "second" "home"], s) ∧
      s.service.requests.map (·.url.target) = Rest.Paging.groupTargets) ∧
    (∃ s, Rest.follow .nodeGroups 3 (Rest.Paging.servedGroups ⟨0, .lost⟩) 0 (.queued .folder 0) =
        some (.error (.transport WebService.lostText), s) ∧
      s.service.requests.map (·.url.target) = Rest.Paging.groupTargets) ∧
    (∃ s, Rest.follow (.operations "group") 2 (Rest.Paging.served.start 0 (.operations "group")).2 0
        (Rest.Paging.served.start 0 (.operations "group")).1 =
          some (.ok [⟨"make", "", true⟩, ⟨"drop", "DeleteNodeGroup", false⟩], s) ∧
      s.service.requests.map (·.url.target) = Rest.Paging.operationTargets) ∧
    (∃ past s, History scripted (begin Setup.small
        (Rest.begin .small (.withResponses [Rest.Paging.pending]))) past s ∧
      s.job? 0 = some (.deleteGroup "group") ∧ (∃ m ∈ past, Warned m 0) ∧
      ∀ m ∈ past, m.IsOf 0 → m.after.provider.sent .delete = m.before.provider.sent .delete) ∧
    ∃ past s, History scripted (begin Setup.small
        (Rest.begin .small (.withResponses [Rest.Paging.cleared]))) past s ∧
      s.job? 0 = some (.deleteGroup "group") ∧ ∃ m ∈ past, m.IsOf 0 ∧ Sends .delete m ∧
        ∃ operations, Answered m 0 (.operations "group") (.ok operations) ∧
          operations.any GroupOperation.isPendingDelete = false := by
  have header := RestClient.isHeaderText_small
  obtain ⟨hgroups, hoperations, hdelete⟩ := no_page_lost
  have hwritten : Url.parse? (Rest.Paging.groups .small "folder").address =
    some Rest.Paging.groupsUrl := (Option.some_get _).symm
  have hwritten' : Url.parse? (Rest.Paging.operations .small "group").address =
    some Rest.Paging.operationsUrl := (Option.some_get _).symm
  refine ⟨⟨Rest.Paging.readDocument_mixed, rfl⟩, ?_, ?_, ?_, ?_, ?_⟩
  · obtain ⟨line, hfollow⟩ := hgroups (Rest.Paging.servedGroups Rest.Paging.final)
      ⟨"folder", "network"⟩ (.queued .folder 0) rfl _ hwritten header
      (Rest.Paging.twoGroupPages _) [] rfl 0
    exact ⟨_, hfollow, Rest.Paging.targets_groups⟩
  · obtain ⟨line, hfollow⟩ := hgroups (Rest.Paging.servedGroups ⟨0, .lost⟩)
      ⟨"folder", "network"⟩ (.queued .folder 0) rfl _ hwritten header
      (Rest.Paging.lostPage _) [] rfl 0
    exact ⟨_, hfollow, Rest.Paging.targets_groups⟩
  · have hfollow := hoperations Rest.Paging.served "group" _ hwritten' header
      (Rest.Paging.twoPages _) [] rfl 0
    exact ⟨_, hfollow, Rest.Paging.targets_operations⟩
  · obtain ⟨past, s, s', -, hhold, h, hjob, -⟩ := exists_checked Rest.Paging.readDocument_pending
    have hwarned : Warned ⟨s, .stepped 0, s'⟩ 0 := ⟨rfl, _, _, _, _, _, hhold,
      .pending (Nat.zero_le _) Rest.Paging.readDocument_pending ⟨_, List.mem_cons_self, rfl⟩⟩
    exact ⟨_, _, h, hjob, ⟨_, List.mem_cons_self, hwarned⟩, fun m hm hof =>
      (hdelete _ _ _ _ _ h 0 "group" hjob m hm hof).1 ⟨_, List.mem_cons_self, hwarned⟩⟩
  · obtain ⟨past, s, s', hclient, -, h, hjob, hs'⟩ :=
      exists_checked Rest.Paging.readDocument_cleared
    have hsends : Sends .delete ⟨s, .stepped 0, s'⟩ := by
      have hsent := Rest.sent_delete_ne s.provider s.now (hclient ▸ Rest.isSome_small_group)
        (hclient ▸ header)
      subst hs'
      rw [Sends, provider_proceed]
      exact hsent
    exact ⟨_, _, h, hjob, _, List.mem_cons_self, .inl rfl, hsends,
      (hdelete _ _ _ _ _ h 0 "group" hjob _ List.mem_cons_self (.inl rfl)).2 hsends⟩

end Session

end NodeSupply
