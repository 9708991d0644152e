import NodeSupply.Proofs.Session.History

/-!
# What a task has learned and done

A task learns something at some of its steps, and does something at some of its moves.  What is
known of both where it stands holds after any history, if each of its own moves keeps it.

## Main definitions

* `Session.Moment.IsOf` : a move is a task's own.
* `Session.Watch` : what is watched of the tasks that do a job.
* `Session.Watch.Now` : what is known after a move of a task's own.

## Main statements

* `Session.History.watch` : what is known after any history.
-/

namespace NodeSupply.Session

variable {σ : Type} [Provider σ]

/-- A move was a step of a task, or gave it up. -/
def Moment.IsOf {σ : Type} [Provider σ] (m : Moment σ) (n : Nat) : Prop :=
  m.cause = .stepped n ∨ m.cause = .cancelled n

/-- A task's own move is a step of it, or gives it up. -/
theorem Move.took_or_cancel {w : Surroundings σ} {s s' : Session σ} {c : Cause} {n : Nat}
    (move : Move w s c s') (own : c = .stepped n ∨ c = .cancelled n) :
    c = .stepped n ∧ Took s n s' ∨ c = .cancelled n ∧ s' = s.cancel n := by
  rcases own with rfl | rfl
  · cases move with
    | step taken => exact .inl ⟨rfl, took_of_step? taken⟩
  · cases move with
    | cancel => exact .inr ⟨rfl, rfl⟩

/-- What is watched of the tasks that do a job. -/
structure Watch (σ : Type) [Provider σ] (j : Job) where
  /-- At a moment a task learns something. -/
  learns : Moment σ → Nat → Prop
  /-- At a moment something is done. -/
  acts : Moment σ → Prop
  /-- What is known where a task stands, depending on whether it has learned and done something. -/
  known : Prop → Prop → TaskState σ j → Prop
  steps : ∀ {m n}, learns m n → m.cause = .stepped n ∧ m.before.tasks.get? n ≠ none
  still : ∀ s c n, ¬ acts ⟨s, c, s.cancel n⟩
  ready : known False False .ready
  mono : ∀ {learned learned' acted acted' : Prop} {state}, known learned acted state →
    (learned' → learned) → (acted' → acted) → known learned' acted' state

namespace Watch

variable {j : Job} (watch : Watch σ j)

/-- What is known where a task stands after a move of its own. -/
def Now (learned acted : Prop) (m : Moment σ) (n : Nat) : Prop :=
  ∃ cancelAt state, m.after.tasks.get? n = some ⟨j, cancelAt, state⟩ ∧
    watch.known (learned ∨ watch.learns m n) (acted ∨ watch.acts m) state

/-- A task has learned something. -/
def Learned (past : List (Moment σ)) (n : Nat) : Prop := ∃ m ∈ past, watch.learns m n

/-- A task has done something. -/
def Acted (past : List (Moment σ)) (n : Nat) : Prop := ∃ m ∈ past, m.IsOf n ∧ watch.acts m

variable {watch}

theorem learned_cons {m : Moment σ} {past : List (Moment σ)} {n : Nat} :
    watch.Learned (m :: past) n ↔ watch.Learned past n ∨ watch.learns m n := by
  simp [Learned, or_comm]

theorem acted_cons {m : Moment σ} {past : List (Moment σ)} {n : Nat} :
    watch.Acted (m :: past) n ↔ watch.Acted past n ∨ m.IsOf n ∧ watch.acts m := by
  simp [Acted, or_comm]

/-- What a task has learned and done is as is known where it stands; no task means that nothing was
learned or done. -/
structure Holds (past : List (Moment σ)) (s : Session σ) (n : Nat) : Prop where
  absent : s.tasks.get? n = none → ¬ watch.Learned past n ∧ ¬ watch.Acted past n
  present : ∀ {cancelAt state}, s.tasks.get? n = some ⟨j, cancelAt, state⟩ →
    watch.known (watch.Learned past n) (watch.Acted past n) state

variable {past : List (Moment σ)} {s s' : Session σ} {c : Cause} {n : Nat}

/-- A task that is not there learns and does nothing. -/
theorem Holds.own_absent (h : watch.Holds past s n) (none : s.tasks.get? n = none) :
    watch.Holds (⟨s, c, s.cancel n⟩ :: past) (s.cancel n) n := by
  obtain ⟨hlearned, hacted⟩ := h.absent none
  have hjob : (s.cancel n).tasks.get? n = .none := by
    have hjob := job?_cancel s n n
    rw [job?, job?, none] at hjob
    exact Option.map_eq_none_iff.1 hjob
  refine ⟨fun _ => ⟨?_, ?_⟩, fun htask => ?_⟩
  · rw [learned_cons]
    exact not_or.2 ⟨hlearned, fun hnow => (watch.steps hnow).2 none⟩
  · rw [acted_cons]
    exact not_or.2 ⟨hacted, fun hnow => watch.still s c n hnow.2⟩
  · cases hjob.symm.trans htask

/-- A move of a task's own. -/
theorem Holds.own (h : watch.Now (watch.Learned past n) (watch.Acted past n) ⟨s, c, s'⟩ n) :
    watch.Holds (⟨s, c, s'⟩ :: past) s' n := by
  obtain ⟨cancelAt, state, hafter, hknown⟩ := h
  refine ⟨fun habsent => ?_, fun htask => ?_⟩
  · cases hafter.symm.trans habsent
  · cases hafter.symm.trans htask
    rw [learned_cons, acted_cons]
    exact watch.mono hknown id (Or.imp_right And.right)

/-- Nothing is watched of a task that does another job. -/
theorem Holds.foreign {j' : Job} (job : s.job? n = some j') (ne : j' ≠ j) :
    watch.Holds past s n := by
  refine ⟨fun habsent => ?_, fun htask => absurd ?_ ne⟩
  · rw [job?, habsent] at job
    cases job
  · exact Option.some.inj (job.symm.trans (job?_of_get? htask))

/-- A move of another task, or of none. -/
theorem Holds.other {w : Surroundings σ} (h : watch.Holds past s n) (move : Move w s c s')
    (fresh : s.Fresh) (other : ¬ (c = .stepped n ∨ c = .cancelled n)) :
    watch.Holds (⟨s, c, s'⟩ :: past) s' n := by
  have hlearned : watch.Learned (⟨s, c, s'⟩ :: past) n → watch.Learned past n := fun hl =>
    (learned_cons.1 hl).resolve_right fun hnow => other (.inl (watch.steps hnow).1)
  have hacted : watch.Acted (⟨s, c, s'⟩ :: past) n → watch.Acted past n := fun ha =>
    (acted_cons.1 ha).resolve_right fun hnow => other hnow.1
  rcases move.get?_tasks fresh other with hsame | ⟨hnone, j', cancelAt, hready⟩
  · refine ⟨fun habsent => ?_, fun htask => ?_⟩
    · obtain ⟨hunlearned, hidle⟩ := h.absent (hsame ▸ habsent)
      exact ⟨mt hlearned hunlearned, mt hacted hidle⟩
    · exact watch.mono (h.present (hsame ▸ htask)) hlearned hacted
  · obtain ⟨hunlearned, hidle⟩ := h.absent hnone
    refine ⟨fun habsent => ?_, fun htask => ?_⟩
    · cases hready.symm.trans habsent
    · cases hready.symm.trans htask
      exact watch.mono watch.ready (mt hlearned hunlearned) (mt hacted hidle)

end Watch

/-- What is known of the tasks that do a job holds after any history, if each move of such a task
keeps it. -/
theorem History.watch {w : Surroundings σ} {s₀ s : Session σ} {past : List (Moment σ)}
    (h : History w s₀ past s) (begins : s₀.tasks = .empty) {j : Job} (watch : Watch σ j)
    (own : ∀ {past s n learned acted cancelAt state}, History w s₀ past s →
      s.tasks.get? n = some ⟨j, cancelAt, state⟩ → watch.known learned acted state →
        (∀ s', Took s n s' → watch.Now learned acted ⟨s, .stepped n, s'⟩ n) ∧
          watch.Now learned acted ⟨s, .cancelled n, s.cancel n⟩ n)
    {n : Nat} {cancelAt : Option Instant} {state : TaskState σ j}
    (task : s.tasks.get? n = some ⟨j, cancelAt, state⟩) :
    watch.known (watch.Learned past n) (watch.Acted past n) state := by
  suffices watch.Holds past s n from this.present task
  clear task
  have hfresh := fresh_of_empty begins
  induction h with
  | start =>
    have hnone : s₀.tasks.get? n = none := by rw [begins, SortedMap.get?_empty]
    refine ⟨fun _ => ⟨?_, ?_⟩, fun htask => ?_⟩
    · rintro ⟨_, hm, _⟩
      cases hm
    · rintro ⟨_, hm, _⟩
      cases hm
    · cases hnone.symm.trans htask
  | @go past s s' c h move ih =>
    by_cases hown : c = .stepped n ∨ c = .cancelled n
    · have hmove := move.took_or_cancel hown
      cases htask : s.tasks.get? n with
      | none =>
        have hcancel : s' = s.cancel n := by
          rcases hmove with ⟨-, took⟩ | ⟨-, hcancel⟩
          · exact took.eq_cancel htask
          · exact hcancel
        exact hcancel ▸ ih.own_absent htask
      | some t =>
        obtain ⟨j', cancelAt, state⟩ := t
        by_cases hj : j' = j
        · subst hj
          obtain ⟨hsteps, hcancel⟩ := own h htask (ih.present htask)
          rcases hmove with ⟨rfl, took⟩ | ⟨rfl, rfl⟩
          · exact .own (hsteps s' took)
          · exact .own hcancel
        · have hjob : s'.job? n = s.job? n := by
            rcases hmove with ⟨-, took⟩ | ⟨-, rfl⟩
            · exact took.job? n
            · exact job?_cancel s n n
          exact .foreign (hjob.trans (job?_of_get? htask)) hj
    · exact ih.other move (h.fresh hfresh) hown

end NodeSupply.Session
