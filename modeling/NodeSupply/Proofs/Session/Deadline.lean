import Mathlib.Algebra.Order.Floor.Div
import NodeSupply.Configuration.Basic
import NodeSupply.Proofs.Session.InMemory
import NodeSupply.Proofs.Session.Lone

/-!
# The search for an external id keeps its deadline

The search polls the provider and rests in between.  Each poll is started before the deadline and
may take what is left until then, and no rest goes on beyond it, so the search is over at the
deadline at the latest.  What is left gets less with every rest, so there is an end.  All of this
needs a clock that can tell the deadline: without one the search breaks off before its first poll.

## Main definitions

* `ResolveId.Poll`, `ResolveId.Polled` : the polls of a search, as the provider answers them.
* `ResolveId.Exhausted` : no poll of a search is left out.
* `ResolveId.conclude` : what a search comes to.
* `Session.Concluded` : a search has come to its end.

## Main statements

* `Configuration.pollInterval_pos` : there are rests between polls.
* `ResolveId.Polled.bounded`, `ResolveId.Polled.length_le` : when polls are made, and how many.
* `ResolveId.Polled.unique` : the provider settles the polls of a search.
* `Session.exists_leads_resolving` : a search goes on to its end.
* `Session.resolveId_keeps_deadline` : all of it for a job that is run on its own.
* `Session.resolveId_breaks_off` : a search whose deadline no clock tells.
-/

namespace NodeSupply

/-- A configuration without fault has the search rest between polls. -/
theorem Configuration.pollInterval_pos {c : Configuration} (h : c.validate = .ok ()) :
    0 < c.settings.pollInterval := by
  refine Nat.pos_of_ne_zero fun hzero => ?_
  have hms : c.pollIntervalMs = 0 := UInt64.toNat_inj.1 hzero
  unfold validate fault? at h
  rw [if_pos hms] at h
  split_ifs at h <;> cases h

/-! ### Polls -/

namespace ResolveId

/-- A poll. -/
structure Poll where
  /-- When it was started. -/
  started : Instant
  /-- How long it might take. -/
  limit : Duration
  /-- When it was over. -/
  ended : Instant
  /-- What came of it. -/
  outcome : Except ProviderError (Option String)

namespace Poll

/-- The instance that a poll names. -/
def named? (p : Poll) : Option String :=
  match p.outcome with
  | .ok (some instanceId) => if instanceId = "" then none else some instanceId
  | .ok none => none
  | .error _ => none

/-- What is said about a poll that failed. -/
def failure? (p : Poll) : Option String :=
  match p.outcome with
  | .ok _ => none
  | .error e => some e.message

end Poll

/-- Polls in a row, the first of them at some time: each is started before the deadline, may take
as long as any call but not beyond the deadline, and comes to what the provider says.  Then there is
a rest, which does not go on beyond the deadline either.  Last come the provider after the polls and
the time of the next. -/
inductive Polled {σ : Type} [Provider σ] (settings : Settings) (id : NodeGroupId)
    (deadline : Instant) : σ → Instant → List Poll → σ → Instant → Prop where
  | nil {provider : σ} {now : Instant} : Polled settings id deadline provider now [] provider now
  | cons {before after final : σ} {now ended next : Instant}
      {outcome : Except ProviderError (Option String)} {polls : List Poll}
      (early : now < deadline)
      (ends : Provider.Ends before now (.instanceOf id)
        (min settings.callTimeout (deadline - now)) ended outcome after)
      (rest : Polled settings id deadline after
        (ended + min settings.pollInterval (deadline - ended)) polls final next) :
      Polled settings id deadline before now
        (⟨now, min settings.callTimeout (deadline - now), ended, outcome⟩ :: polls) final next

/-- Polls go on until one of them names an instance, or until the deadline if none does. -/
structure Exhausted (deadline : Instant) (polls : List Poll) (next : Instant) : Prop where
  /-- Only the last poll may name an instance. -/
  silent : ∀ poll ∈ polls.dropLast, poll.named? = none
  /-- Without an instance there is no time left for another poll. -/
  lapsed : polls.findSome? Poll.named? = none → next = deadline

/-- When the time of a search is up. -/
def Search.deadline (search : Search) (settings : Settings) : Instant :=
  search.began + settings.resolveTimeout

/-- A search after one more poll: it remembers what was said if the poll failed. -/
def Search.after (search : Search) (p : Poll) : Search :=
  { search with lastError := p.failure?.or search.lastError }

/-- What a search comes to after some more polls: the first instance named, or word that the time is
up with what was said about the latest failure. -/
def conclude (settings : Settings) (search : Search) (polls : List Poll) : Result :=
  match polls.findSome? Poll.named? with
  | some instanceId => .ok (.forInstance instanceId)
  | none => .error (.externalIdTimeout search.id settings.resolveTimeout
      ((polls.reverse.findSome? Poll.failure?).or search.lastError))

section

variable {settings : Settings} {search : Search} {p : Poll} {polls : List Poll}

theorem conclude_of_named {instanceId : String} (h : p.named? = some instanceId) :
    conclude settings search (p :: polls) = .ok (.forInstance instanceId) := by
  rw [conclude, List.findSome?_cons, h]

theorem conclude_of_unnamed (h : p.named? = none) :
    conclude settings search (p :: polls) = conclude settings (search.after p) polls := by
  have herror : ((p :: polls).reverse.findSome? Poll.failure?).or search.lastError =
      (polls.reverse.findSome? Poll.failure?).or (search.after p).lastError := by
    rw [List.reverse_cons, List.findSome?_append, List.findSome?_singleton, Option.or_assoc,
      Search.after]
  rw [conclude, conclude, List.findSome?_cons, h, herror, Search.after]

variable {left : Duration} {now : Instant}

theorem resume_of_named {instanceId : String} (h : p.named? = some instanceId) :
    resume settings now (.polling search left) p.outcome =
      .done (.ok (.forInstance instanceId)) := by
  unfold Poll.named? at h
  split at h
  next i houtcome =>
    split at h
    next => cases h
    next hne =>
      cases h
      rw [houtcome, resume, if_neg hne]
  next => cases h
  next => cases h

theorem resume_of_unnamed (h : p.named? = none) :
    resume settings now (.polling search left) p.outcome =
      (search.after p).rest settings now := by
  unfold Poll.named? at h
  unfold Search.after Poll.failure?
  split at h
  next i houtcome =>
    split at h
    next hempty =>
      rw [houtcome, resume, if_pos hempty]
      rfl
    next => cases h
  next houtcome =>
    rw [houtcome, resume]
    rfl
  next e houtcome =>
    rw [houtcome, resume]
    rfl

end

section

variable {σ : Type} [Provider σ] {settings : Settings} {id : NodeGroupId} {deadline : Instant}
  {before after : σ} {now next : Instant} {polls : List Poll}

/-- A poll keeps within its limits. -/
theorem Polled.bounded (h : Polled settings id deadline before now polls after next) :
    ∀ p ∈ polls, now ≤ p.started ∧ p.started < deadline ∧
      p.limit = min settings.callTimeout (deadline - p.started) ∧
      p.ended ≤ p.started + p.limit := by
  induction h with
  | nil => exact fun p hp => absurd hp List.not_mem_nil
  | @cons _ _ _ now ended _ _ _ early ends rest ih =>
    refine List.forall_mem_cons.2 ⟨⟨Nat.le_refl _, early, rfl, ends.ended_le⟩, fun p hp => ?_⟩
    obtain ⟨hstarted, hbounds⟩ := ih p hp
    have hrest : now ≤ ended + min settings.pollInterval (deadline - ended) :=
      Nat.le_add_right_of_le ends.started_le
    exact ⟨hrest.trans hstarted, hbounds⟩

/-- Before the last of some polls there is time for a rest after each of the others. -/
theorem Polled.mul_lt {poll : Poll}
    (h : Polled settings id deadline before now (poll :: polls) after next) :
    settings.pollInterval * polls.length < deadline - now := by
  generalize hall : poll :: polls = all at h
  induction h generalizing poll polls with
  | nil => cases hall
  | @cons _ _ _ now ended _ _ others early ends rest ih =>
    cases hall
    cases others with
    | nil => exact Nat.sub_pos_of_lt early
    | cons q others =>
      have hstep : ∀ now ended deadline d n : Nat, now ≤ ended →
          n < deadline - (ended + min d (deadline - ended)) → n + d < deadline - now := by
        omega
      exact hstep now ended deadline _ _ ends.started_le (ih rfl)

theorem exhausted_nil : Exhausted deadline [] deadline where
  silent := fun _ hp => absurd hp List.not_mem_nil
  lapsed := fun _ => rfl

theorem exhausted_of_named {p : Poll} {instanceId : String} (named : p.named? = some instanceId) :
    Exhausted deadline [p] next where
  silent := fun _ hp => absurd hp List.not_mem_nil
  lapsed hnone := by
    rw [List.findSome?_singleton, named] at hnone
    cases hnone

/-- A poll that names no instance is followed by others as long as there is time. -/
theorem exhausted_cons_iff {p : Poll} (unnamed : p.named? = none) :
    Exhausted deadline (p :: polls) next ↔ Exhausted deadline polls next := by
  have hfind : (p :: polls).findSome? Poll.named? = polls.findSome? Poll.named? := by
    rw [List.findSome?_cons, unnamed]
  have hsilent : (∀ poll ∈ (p :: polls).dropLast, poll.named? = none) ↔
      ∀ poll ∈ polls.dropLast, poll.named? = none := by
    cases polls with
    | nil => exact Iff.rfl
    | cons q polls =>
      rw [List.dropLast_cons_cons, List.forall_mem_cons]
      exact and_iff_right unnamed
  constructor
  · rintro ⟨silent, lapsed⟩
    exact ⟨hsilent.1 silent, hfind ▸ lapsed⟩
  · rintro ⟨silent, lapsed⟩
    exact ⟨hsilent.2 silent, hfind ▸ lapsed⟩

/-- A poll that names an instance is the last. -/
theorem Exhausted.eq_nil_of_named {p : Poll} (h : Exhausted deadline (p :: polls) next)
    {instanceId : String} (named : p.named? = some instanceId) : polls = [] := by
  cases polls with
  | nil => rfl
  | cons q polls => cases named.symm.trans (h.silent p List.mem_cons_self)

/-- The provider settles the polls of a search. -/
theorem Polled.unique (h : Polled settings id deadline before now polls after next)
    (whole : Exhausted deadline polls next) {polls' : List Poll} {after' : σ} {next' : Instant}
    (h' : Polled settings id deadline before now polls' after' next')
    (whole' : Exhausted deadline polls' next') :
    polls = polls' ∧ after = after' ∧ next = next' := by
  induction h generalizing polls' with
  | nil =>
    cases h' with
    | nil => exact ⟨rfl, rfl, rfl⟩
    | cons early ends rest => exact absurd (whole.lapsed rfl) (Nat.ne_of_lt early)
  | cons early ends rest ih =>
    cases h' with
    | nil => exact absurd (whole'.lapsed rfl) (Nat.ne_of_lt early)
    | cons early' ends' rest' =>
      obtain ⟨rfl, rfl, rfl⟩ := ends.unique ends'
      cases hnamed : Poll.named? ⟨_, _, _, _⟩ with
      | some instanceId =>
        obtain rfl := whole.eq_nil_of_named hnamed
        obtain rfl := whole'.eq_nil_of_named hnamed
        cases rest
        cases rest'
        exact ⟨rfl, rfl, rfl⟩
      | none =>
        obtain ⟨rfl, rfl, rfl⟩ := ih ((exhausted_cons_iff hnamed).1 whole) rest'
          ((exhausted_cons_iff hnamed).1 whole')
        exact ⟨rfl, rfl, rfl⟩

/-- There are no more polls than rests that can be begun in time. -/
theorem Polled.length_le (rests : 0 < settings.pollInterval)
    (h : Polled settings id deadline before now polls after next) :
    polls.length ≤ (deadline - now) ⌈/⌉ settings.pollInterval := by
  cases polls with
  | nil => exact Nat.zero_le _
  | cons poll polls =>
    have hlt := h.mul_lt
    rw [List.length_cons, Nat.succ_le_iff, ← not_le, ceilDiv_le_iff_le_mul rests, not_le]
    exact hlt

end

end ResolveId

namespace Session

open ResolveId

variable {σ : Type} [Provider σ] {s : Session σ} {number : Nat} {id : NodeGroupId}
  {settings : Settings}

/-- A search for an external id goes on as the routine says. -/
abbrev resolving (s : Session σ) (number : Nat) (id : NodeGroupId)
    (next : Next ResolveId.Point ResolveId.Result) : Session σ :=
  s.proceed number (.resolveId id) none none next

/-- A search with time left polls the provider and goes on from what comes of it. -/
theorem exists_leads_ask (told : s.setup.settings = settings) (number : Nat) {search : Search}
    (timed : Provider.Timed σ (.instanceOf search.id)) (early : s.now < search.deadline settings) :
    ∃ (s' : Session σ) (outcome : Except ProviderError (Option String)),
      s'.setup.settings = settings ∧
      Provider.Ends s.provider s.now (.instanceOf search.id)
        (min settings.callTimeout (search.deadline settings - s.now)) s'.now outcome s'.provider ∧
      Leads number (s.resolving number search.id (search.ask settings s.now))
        (s'.resolving number search.id (resume settings s'.now
          (.polling search (search.deadline settings - s.now)) outcome)) := by
  subst told
  set left := search.deadline s.setup.settings - s.now with hleft
  have hask : search.ask s.setup.settings s.now = .goOn (.polling search left) :=
    if_neg (Nat.sub_ne_zero_of_lt early)
  rw [hask]
  have htask := get?_tasks_setTask_self
    { s with provider := (Provider.start s.provider s.now (.instanceOf search.id)).2 } number
    ⟨.resolveId search.id, none,
      .waiting (.polling search left)
        (.call (Provider.start s.provider s.now (.instanceOf search.id)).1
          (some (s.now + min s.setup.settings.callTimeout left))) none⟩
  obtain ⟨ended, outcome, after, hends, hgets⟩ :=
    exists_gets_call (s := s.resolving number search.id (.goOn (.polling search left))) .keeper
      number timed rfl (min s.setup.settings.callTimeout left)
  have hleads := hgets.leads htask rfl
  refine ⟨_, outcome, ?_, ?_, hleads⟩
  · rfl
  · exact hends

/-- A search rests, though not beyond its deadline, and asks again. -/
theorem exists_leads_rest (told : s.setup.settings = settings) (number : Nat) (search : Search) :
    ∃ s' : Session σ, s'.setup.settings = settings ∧ s'.provider = s.provider ∧
      s'.now = s.now + min settings.pollInterval (search.deadline settings - s.now) ∧
      Leads number (s.resolving number search.id (search.rest settings s.now))
        (s'.resolving number search.id (search.ask settings s'.now)) := by
  subst told
  set left := search.deadline s.setup.settings - s.now with hleft
  by_cases hover : left = 0
  · have hrest : search.rest s.setup.settings s.now = search.giveUp s.now := if_pos hover
    have hask : search.ask s.setup.settings s.now = search.giveUp s.now := if_pos hover
    refine ⟨s, rfl, rfl, by rw [hover, Nat.min_zero, Nat.add_zero], ?_⟩
    rw [hrest, hask]
    exact Leads.refl number _
  · set d := min s.setup.settings.pollInterval left with hd
    have hrest : search.rest s.setup.settings s.now = .goOn (.resting search d) := if_neg hover
    rw [hrest]
    have htask := get?_tasks_setTask_self s number
      ⟨.resolveId search.id, none, .waiting (.resting search d) (.pause (s.now + d)) none⟩
    have hgets := gets_pause (s := s.resolving number search.id (.goOn (.resting search d)))
      (d := d) .keeper number (Nat.le_add_right s.now d)
    have hleads := hgets.leads htask rfl
    refine ⟨_, ?_, ?_, ?_, hleads⟩
    · rfl
    · rfl
    · rfl

/-- A search that was about to ask, at some time and with some provider, has come to its end. -/
structure Concluded (number : Nat) (settings : Settings) (search : Search) (before : σ)
    (now : Instant) (polls : List Poll) (s : Session σ) : Prop where
  /-- It made these polls, left none out, and made no other calls. -/
  polled : ∃ next,
    Polled settings search.id (search.deadline settings) before now polls s.provider next ∧
      Exhausted (search.deadline settings) polls next
  /-- It has come to its result. -/
  finished : s.tasks.get? number =
    some ⟨.resolveId search.id, none, .finished (conclude settings search polls)⟩
  /-- It has kept its deadline. -/
  inTime : s.now ≤ search.deadline settings
  /-- It has not given up before the deadline. -/
  lapsed : polls.findSome? Poll.named? = none → s.now = search.deadline settings

section

variable {search : Search} {before after : σ} {now ended : Instant}
  {outcome : Except ProviderError (Option String)} {polls : List Poll} {poll : Poll}

/-- A poll that names no instance, and what comes after it. -/
theorem Concluded.cons (early : now < search.deadline settings)
    (ends : Provider.Ends before now (.instanceOf search.id)
      (min settings.callTimeout (search.deadline settings - now)) ended outcome after)
    (made : poll =
      ⟨now, min settings.callTimeout (search.deadline settings - now), ended, outcome⟩)
    (unnamed : poll.named? = none)
    (h : Concluded number settings (search.after poll) after
      (ended + min settings.pollInterval (search.deadline settings - ended)) polls s) :
    Concluded number settings search before now (poll :: polls) s where
  polled := by
    obtain ⟨next, hpolled, hwhole⟩ := h.polled
    have hwhole' := (exhausted_cons_iff unnamed).2 hwhole
    subst made
    exact ⟨next, .cons early ends hpolled, hwhole'⟩
  finished := by
    rw [conclude_of_unnamed unnamed]
    exact h.finished
  inTime := h.inTime
  lapsed hnone := by
    rw [List.findSome?_cons, unnamed] at hnone
    exact h.lapsed hnone

/-- A poll that names an instance is the last. -/
theorem concluded_of_named (early : now < search.deadline settings)
    (ends : Provider.Ends before now (.instanceOf search.id)
      (min settings.callTimeout (search.deadline settings - now)) s.now outcome s.provider)
    (made : poll =
      ⟨now, min settings.callTimeout (search.deadline settings - now), s.now, outcome⟩)
    {instanceId : String} (named : poll.named? = some instanceId)
    (inTime : s.now ≤ search.deadline settings) :
    Concluded number settings search before now [poll]
      (s.resolving number search.id (.done (.ok (.forInstance instanceId)))) where
  polled := by
    have hwhole : ∀ next, Exhausted (search.deadline settings) [poll] next :=
      fun _ => exhausted_of_named named
    subst made
    exact ⟨_, .cons early ends .nil, hwhole _⟩
  finished := by
    rw [conclude_of_named named]
    exact get?_tasks_setTask_self ..
  inTime := inTime
  lapsed hnone := by
    rw [List.findSome?_singleton, named] at hnone
    cases hnone

/-- At its deadline a search is over. -/
theorem concluded_of_timeUp (timeUp : s.now = search.deadline settings) :
    Concluded number settings search s.provider s.now []
      (s.resolving number search.id (search.ask settings s.now)) := by
  have hask : search.ask settings s.now = .done (conclude settings search []) := by
    have hnone : search.left settings s.now = 0 :=
      Nat.sub_eq_zero_of_le (Nat.le_of_eq timeUp.symm)
    have hwaited : s.now - search.began = settings.resolveTimeout := by
      rw [timeUp, Search.deadline, Nat.add_sub_cancel_left]
    rw [Search.ask, if_pos hnone, Search.giveUp, hwaited]
    rfl
  rw [hask]
  exact
    { polled := ⟨s.now, .nil, timeUp ▸ exhausted_nil⟩
      finished := get?_tasks_setTask_self ..
      inTime := Nat.le_of_eq timeUp
      lapsed := fun _ => timeUp }

end

/-- A search that began in time goes on to its end: what is left until the deadline gets less with
each poll and the rest after it. -/
theorem exists_leads_resolving (told : s.setup.settings = settings)
    (rests : 0 < settings.pollInterval) (number : Nat) (search : Search)
    (timed : Provider.Timed σ (.instanceOf search.id)) (inTime : s.now ≤ search.deadline settings) :
    ∃ polls s',
      Leads number (s.resolving number search.id (search.ask settings s.now)) s' ∧
      Concluded number settings search s.provider s.now polls s' := by
  induction hleft : search.deadline settings - s.now using Nat.strong_induction_on
    generalizing s search with
  | _ left ih =>
  rcases Nat.eq_or_lt_of_le inTime with hover | hearly
  · exact ⟨_, _, Leads.refl number _, concluded_of_timeUp hover⟩
  obtain ⟨s₁, outcome, htold₁, hends, hpolled⟩ := exists_leads_ask told number timed hearly
  set limit := min settings.callTimeout (search.deadline settings - s.now) with hlimit
  obtain ⟨poll, hpoll⟩ : ∃ poll : Poll, poll = ⟨s.now, limit, s₁.now, outcome⟩ := ⟨_, rfl⟩
  have houtcome : outcome = poll.outcome := by
    rw [hpoll]
  have hin : s₁.now ≤ search.deadline settings := by
    have hsum : s.now + limit ≤ s.now + (search.deadline settings - s.now) :=
      Nat.add_le_add_left (Nat.min_le_right ..) _
    rw [Nat.add_sub_cancel' inTime] at hsum
    exact hends.ended_le.trans hsum
  cases hnamed : poll.named? with
  | some instanceId =>
    rw [houtcome, resume_of_named hnamed] at hpolled
    exact ⟨_, _, hpolled, concluded_of_named hearly hends hpoll hnamed hin⟩
  | none =>
    rw [houtcome, resume_of_unnamed hnamed] at hpolled
    obtain ⟨s₂, htold₂, hprovider, hnow, hrested⟩ :=
      exists_leads_rest htold₁ number (search.after poll)
    have hless : ∀ t t₁ t₂ d e : Nat, t < e → t ≤ t₁ → t₁ ≤ e → 0 < d →
        t₂ = t₁ + min d (e - t₁) → t₂ ≤ e ∧ e - t₂ < e - t := by
      omega
    obtain ⟨hrestedIn, hleft₂⟩ := hless _ _ _ _ _ hearly hends.started_le hin rests hnow
    rw [hleft] at hleft₂
    obtain ⟨polls, s', hleads, hconcluded⟩ :=
      ih _ hleft₂ htold₂ (search.after poll) timed hrestedIn rfl
    rw [hprovider, hnow] at hconcluded
    refine ⟨poll :: polls, s', (hpolled.trans hrested).trans hleads, ?_⟩
    exact hconcluded.cons hearly hends hpoll hnamed

/-- A search for an external id that is run on its own and rests between polls, as every
configuration without fault has it, comes to an end by its deadline if a clock can tell it, however
long the polls take and whatever they come to.  It polls as often at most as rests can be begun in
time; each poll is started before the deadline and may take as long as any call, but not beyond the
deadline.  The first instance that a poll names is the result, and no poll follows.  If none does,
the result tells that the whole time was waited, and what was said about the latest poll that
failed. -/
theorem resolveId_keeps_deadline (timed : Provider.Timed σ (.instanceOf id)) (s : Session σ)
    (rests : 0 < s.setup.settings.pollInterval)
    (told : s.now + s.setup.settings.resolveTimeout ≤ Instant.greatest) :
    (∀ c : Configuration, c.validate = .ok () → 0 < c.settings.pollInterval) ∧
    ∃ (s' : Session σ) (polls : List Poll) (result : ResolveId.Result),
      (∃ looks, ∀ fuel, (s.submit (.resolveId id) none).2.runTasks (fuel + looks) [s.next] [s.next]
        false = s') ∧
      s'.tasks.get? s.next = some ⟨.resolveId id, none, .finished result⟩ ∧
      s'.now ≤ s.now + s.setup.settings.resolveTimeout ∧
      (∃ next, Polled s.setup.settings id (s.now + s.setup.settings.resolveTimeout) s.provider
        s.now polls s'.provider next ∧
        Exhausted (s.now + s.setup.settings.resolveTimeout) polls next) ∧
      polls.length ≤ s.setup.settings.resolveTimeout ⌈/⌉ s.setup.settings.pollInterval ∧
      (∀ poll ∈ polls, s.now ≤ poll.started ∧
        poll.started < s.now + s.setup.settings.resolveTimeout ∧
        poll.limit = min s.setup.settings.callTimeout
          (s.now + s.setup.settings.resolveTimeout - poll.started) ∧
        poll.ended ≤ poll.started + poll.limit) ∧
      match polls.findSome? Poll.named? with
      | some instanceId =>
        result = .ok (.forInstance instanceId) ∧ ∀ poll ∈ polls.dropLast, poll.named? = none
      | none =>
        result = .error (.externalIdTimeout id s.setup.settings.resolveTimeout
          (polls.reverse.findSome? Poll.failure?)) ∧
        s'.now = s.now + s.setup.settings.resolveTimeout := by
  have hbegan : Leads s.next (s.submit (.resolveId id) none).2
      ((s.submit (.resolveId id) none).2.resolving s.next id
        (Search.ask ⟨id, s.now, none⟩ s.setup.settings s.now)) := by
    have hstart : ResolveId.start s.setup.settings s.now id =
        Search.ask ⟨id, s.now, none⟩ s.setup.settings s.now := if_pos told
    rw [← hstart]
    exact leads_of_ready (get?_tasks_submit_self ..) rfl
  obtain ⟨polls, s', hleads, hconcluded⟩ :=
    exists_leads_resolving (s := (s.submit (.resolveId id) none).2) rfl rests s.next
      ⟨id, s.now, none⟩ timed (Nat.le_add_right s.now _)
  obtain ⟨next, hpolled, hwhole⟩ := hconcluded.polled
  refine ⟨fun _ => Configuration.pollInterval_pos, s', polls, _,
    (hbegan.trans hleads).exists_runTasks (over_of_finished hconcluded.finished),
    hconcluded.finished, hconcluded.inTime, ⟨next, hpolled, hwhole⟩, ?_, hpolled.bounded, ?_⟩
  · have hlength : polls.length ≤
        (s.now + s.setup.settings.resolveTimeout - s.now) ⌈/⌉ s.setup.settings.pollInterval :=
      hpolled.length_le rests
    rwa [Nat.add_sub_cancel_left] at hlength
  · unfold conclude
    split
    next hnamed => exact ⟨rfl, hwhole.silent⟩
    next hnone =>
      rw [Option.or_none]
      exact ⟨rfl, hconcluded.lapsed hnone⟩

/-- A session over a provider that does not answer the first look for an instance, fails the second,
names no instance at the third, and names one at the fourth just when the time is up. -/
def troubled : Session Script :=
  begin Setup.small
    { looks := fun
        | 0 => (none, .ok none)
        | 1 => (some 0, .error (.transport "reset"))
        | 2 => (some 1, .ok (some ""))
        | _ => (some 2, .ok (some "instance"))
      count := 0 }

/-- The polls that a search makes there. -/
def troubledPolls : List Poll :=
  [⟨0, 2, 2, .error (.timedOut "get node group instance")⟩, ⟨3, 2, 3, .error (.transport "reset")⟩,
    ⟨4, 2, 5, .ok (some "")⟩, ⟨6, 2, 8, .ok (some "instance")⟩]

theorem polled_troubled : ∃ after next,
    Polled Setup.small.settings "group" 8 troubled.provider 0 troubledPolls after next ∧
      Exhausted 8 troubledPolls next := by
  refine ⟨_, _, .cons (by decide) (.cutOff nofun) <|
    .cons (by decide) (Script.ends_of_looks (by decide) rfl (by decide)) <|
    .cons (by decide) (Script.ends_of_looks (by decide) rfl (by decide)) <|
    .cons (by decide) (Script.ends_of_looks (by decide) rfl (by decide)) .nil, ?_⟩
  exact ⟨by decide, nofun⟩

/-- A search that is answered late and badly keeps its deadline all the same: it polls four times,
the last time with two of the eight milliseconds left, and the instance that it is told of then is
its result. -/
theorem resolveId_of_troubled :
    Provider.Timed Script (.instanceOf "group") ∧ 0 < troubled.setup.settings.pollInterval ∧
    troubled.now + troubled.setup.settings.resolveTimeout ≤ Instant.greatest ∧
    ∃ (s' : Session Script) (next : Instant),
      (∃ looks, ∀ fuel,
        (troubled.submit (.resolveId "group") none).2.runTasks (fuel + looks) [0] [0] false = s') ∧
      s'.tasks.get? 0 =
        some ⟨.resolveId "group", none, .finished (.ok ⟨"yandex://instance"⟩)⟩ ∧
      s'.now ≤ 8 ∧
      Polled Setup.small.settings "group" 8 troubled.provider 0 troubledPolls s'.provider next := by
  have hrests : 0 < troubled.setup.settings.pollInterval := by decide
  have htold : troubled.now + troubled.setup.settings.resolveTimeout ≤ Instant.greatest := by decide
  obtain ⟨-, s', polls, result, hends, htask, hin, ⟨next, hpolled, hwhole⟩, -, -, hresult⟩ :=
    resolveId_keeps_deadline (Script.timed (.instanceOf "group")) troubled hrests htold
  obtain ⟨after, next', hpolled', hwhole'⟩ := polled_troubled
  obtain ⟨rfl, -, -⟩ := hpolled.unique hwhole hpolled' hwhole'
  obtain ⟨rfl, -⟩ : result = .ok ⟨"yandex://instance"⟩ ∧ _ := hresult
  exact ⟨Script.timed _, hrests, htold, s', next, hends, htask, hin, hpolled⟩

/-! ### A deadline that no clock tells -/

/-- A search whose deadline no clock tells breaks off before its first poll. -/
theorem resolveId_breaks_off (s : Session σ) (id : NodeGroupId)
    (untold : Instant.greatest < s.now + s.setup.settings.resolveTimeout) :
    ∃ s' : Session σ, (∃ looks, ∀ fuel,
        (s.submit (.resolveId id) none).2.runTasks (fuel + looks) [s.next] [s.next] false = s') ∧
      s'.tasks.get? s.next = some ⟨.resolveId id, none, .crashed⟩ ∧ s'.provider = s.provider := by
  have hstart : ResolveId.start s.setup.settings s.now id = .crash := if_neg (Nat.not_le.2 untold)
  have hleads : Leads s.next (s.submit (.resolveId id) none).2
      ((s.submit (.resolveId id) none).2.resolving s.next id .crash) := by
    rw [← hstart]
    exact leads_of_ready (get?_tasks_submit_self ..) rfl
  have htask : ((s.submit (.resolveId id) none).2.resolving s.next id .crash).tasks.get? s.next =
      some ⟨.resolveId id, none, .crashed⟩ := get?_tasks_setTask_self ..
  exact ⟨_, hleads.exists_runTasks (over_of_crashed htask), htask, rfl⟩

/-- A configuration without fault that gives a search as many seconds as a word can say. -/
def patient : Configuration :=
  { Configuration.standard with
    iamToken := "token"
    clusterId := "home"
    resolveTimeoutSecs := .ofNat (Nat.pow 2 64 - 1) }

/-- A session with these settings over a provider that names an instance at once. -/
def prompt : Session Script :=
  begin { Setup.small with settings := patient.settings }
    { looks := fun _ => (some 0, .ok (some "instance")), count := 0 }

/-- With all the time in the world, and an instance named at once, a search comes to no result. -/
theorem resolveId_of_patient :
    patient.validate = .ok () ∧ prompt.setup.settings = patient.settings ∧
    0 < prompt.setup.settings.pollInterval ∧ Provider.Timed Script (.instanceOf "group") ∧
    ¬ ∃ (s' : Session Script) (result : ResolveId.Result),
      (∃ looks, ∀ fuel,
        (prompt.submit (.resolveId "group") none).2.runTasks (fuel + looks) [0] [0] false = s') ∧
      s'.tasks.get? 0 = some ⟨.resolveId "group", none, .finished result⟩ := by
  refine ⟨by decide, rfl, by decide, Script.timed _, ?_⟩
  rintro ⟨s', result, ⟨looks, hends⟩, htask⟩
  obtain ⟨s'', ⟨looks', hcrashes⟩, htask', -⟩ := resolveId_breaks_off prompt "group" (by decide)
  have hsame : s' = s'' := by
    rw [← hends looks', ← hcrashes looks, Nat.add_comm]
    rfl
  rw [hsame] at htask
  cases htask.symm.trans htask'

end Session

end NodeSupply
