import NodeSupply.Proofs.Session.Move
import NodeSupply.Session.Run

/-!
# Histories of sessions

Any order of moves is a history, so what holds after every history holds for every interleaving of
tasks, for every latency and for every time at which a task is looked at.

## Main definitions

* `Session.History` : any number of moves, with the moments at which they were made.
* `Session.Answered` : a moment at which a task gets the answer to a call.

## Main statements

* `Session.History.standing?_induction` : what holds of every standing after any history.
* `Session.History.exists_arrives` : wherever a task stands, it got there at some moment.
* `Session.History.runTasks` : running tasks together is a history.
-/

namespace NodeSupply.Session

variable {σ : Type} [Provider σ]

/-- A move that was made. -/
structure Moment (σ : Type) [Provider σ] where
  /-- The session before the move. -/
  before : Session σ
  /-- What made it go on. -/
  cause : Cause
  /-- The session after the move. -/
  after : Session σ

/-- `History w s₀ past s` says that the moments of `past`, latest first, lead from `s₀` to `s`. -/
inductive History (w : Surroundings σ) (s₀ : Session σ) : List (Moment σ) → Session σ → Prop where
  | start : History w s₀ [] s₀
  | go {past : List (Moment σ)} {s s' : Session σ} {c : Cause} (h : History w s₀ past s)
      (move : Move w s c s') : History w s₀ (⟨s, c, s'⟩ :: past) s'

/-- At a moment a task gets the answer to a call. -/
def Answered (m : Moment σ) (number : Nat) (r : Request) (outcome : r.Outcome) : Prop :=
  m.cause = .stepped number ∧ ∃ limit hold worker provider,
    m.before.hold? number = some ⟨.call r limit, hold⟩ ∧
      m.before.look worker number (.call r limit) hold = .finished outcome provider

namespace History

variable {w : Surroundings σ} {s₀ s : Session σ} {past : List (Moment σ)}

theorem append (h : History w s₀ past s) {later : List (Moment σ)} {s' : Session σ}
    (h' : History w s later s') : History w s₀ (later ++ past) s' := by
  induction h' with
  | start => exact h
  | go _ move ih => exact ih.go move

theorem fresh (h : History w s₀ past s) (begins : s₀.Fresh) : s.Fresh := by
  induction h with
  | start => exact begins
  | go _ move ih => exact move.fresh ih

theorem setup (h : History w s₀ past s) : s.setup = s₀.setup := by
  induction h with
  | start => rfl
  | go _ move ih => exact move.setup.trans ih

/-- In a session that began without tasks, every task does a job that was asked for. -/
theorem asked (h : History w s₀ past s) (begins : s₀.tasks = .empty) {k : Nat} {j : Job}
    (job : s.job? k = some j) : w.asks j := by
  have hfresh := fresh_of_empty begins
  induction h with
  | start => simp [job?, begins] at job
  | go h move ih =>
    rcases move.job? (h.fresh hfresh) _ with hjob | ⟨-, -, j', hjob, hasked⟩
    · exact ih (hjob ▸ job)
    · cases hjob.symm.trans job
      exact hasked

/-- Every moment of the past was a move of a session that the moments before it lead to. -/
theorem exists_of_mem (h : History w s₀ past s) {m : Moment σ} (mem : m ∈ past) :
    ∃ before, History w s₀ before m.before ∧ Move w m.before m.cause m.after := by
  induction h with
  | start => cases mem
  | go h move ih =>
    rcases List.mem_cons.1 mem with rfl | mem
    · exact ⟨_, h, move⟩
    · exact ih mem

/-- The moments before a moment lead to it. -/
theorem of_append {later earlier : List (Moment σ)} {m : Moment σ}
    (h : History w s₀ (later ++ m :: earlier) s) :
    History w s₀ earlier m.before ∧ Move w m.before m.cause m.after := by
  induction later generalizing s with
  | nil =>
    cases h with
    | go h move => exact ⟨h, move⟩
  | cons m' later ih =>
    cases h with
    | go h move => exact ih h

/-- A task keeps its job. -/
theorem job?_of_mem (h : History w s₀ past s) (begins : s₀.Fresh) {m : Moment σ} (mem : m ∈ past)
    {k : Nat} {j : Job} (job : m.before.job? k = some j) : s.job? k = some j := by
  induction h with
  | start => cases mem
  | @go past s s' c h move ih =>
    have hkeeps : s.job? k = some j → s'.job? k = some j := fun hj => by
      rcases move.job? (h.fresh begins) k with hsame | ⟨hnone, -, -⟩
      · exact hsame.trans hj
      · cases hnone.symm.trans hj
    rcases List.mem_cons.1 mem with rfl | mem
    · exact hkeeps job
    · exact hkeeps (ih mem)

/-- A task that was done at some moment is done for good. -/
theorem standing?_done_of_mem (h : History w s₀ past s) (begins : s₀.Fresh) {m : Moment σ}
    (mem : m ∈ past) {k : Nat} {j : Job} {result : j.Result}
    (done : m.after.standing? k = some ⟨j, .done result⟩) :
    s.standing? k = some ⟨j, .done result⟩ := by
  induction h with
  | start => cases mem
  | go h move ih =>
    rcases List.mem_cons.1 mem with rfl | mem
    · exact done
    · exact move.standing?_done (h.fresh begins) (ih mem)

/-- What holds of a standing when a task gets there, and ever after, holds of every standing. -/
theorem standing?_induction {P : List (Moment σ) → Nat → Standing → Prop}
    (begins : s₀.tasks = .empty)
    (later : ∀ {past : List (Moment σ)} (m : Moment σ) {number : Nat} {x : Standing},
      P past number x → P (m :: past) number x)
    (arrived : ∀ {past : List (Moment σ)} {s s' : Session σ} {number : Nat} {j : Job}
      {next : Next j.Point j.Result} {provider : σ}, History w s₀ past s →
      Arrives s number j next provider → s'.provider = toldNext provider s.now j next →
      (∀ x, s.standing? number = some x → P past number x) →
      P (⟨s, .stepped number, s'⟩ :: past) number ⟨j, next⟩)
    (h : History w s₀ past s) {number : Nat} {x : Standing} (hx : s.standing? number = some x) :
    P past number x := by
  induction h generalizing number x with
  | start => simp [standing?, begins] at hx
  | @go past s s' c h move ih =>
    cases move.effect (h.fresh (fresh_of_empty begins)) with
    | @arrived k j next provider _ arrives standing provider_eq =>
      rw [standing] at hx
      split at hx
      next hk =>
        cases hx
        subst hk
        exact arrived h arrives provider_eq fun x hx => ih hx
      next => exact later _ (ih hx)
    | quiet standing idles => exact later _ (ih ((standing number).eq_some hx))
    | meddled standing changed => exact later _ (ih (standing number ▸ hx))

/-- Wherever a task stands, it got there at some moment. -/
theorem exists_arrives (h : History w s₀ past s) (begins : s₀.tasks = .empty) {number : Nat}
    {x : Standing} (hx : s.standing? number = some x) :
    ∃ later m earlier provider, past = later ++ m :: earlier ∧ m.cause = .stepped number ∧
      m.after.standing? number = some x ∧ Arrives m.before number x.job x.next provider := by
  induction h generalizing x with
  | start => simp [standing?, begins] at hx
  | @go past s s' c h move ih =>
    have older : s.standing? number = some x → ∃ later m earlier provider,
        ⟨s, c, s'⟩ :: past = later ++ m :: earlier ∧ m.cause = .stepped number ∧
          m.after.standing? number = some x ∧ Arrives m.before number x.job x.next provider :=
      fun hx => by
        obtain ⟨later, m, earlier, provider, rfl, hm⟩ := ih hx
        exact ⟨_ :: later, m, earlier, provider, rfl, hm⟩
    cases move.effect (h.fresh (fresh_of_empty begins)) with
    | @arrived k j next provider _ arrives standing provider_eq =>
      by_cases hk : number = k
      · subst hk
        have hafter := standing number
        rw [if_pos rfl] at hafter
        cases hafter.symm.trans hx
        exact ⟨[], _, past, provider, rfl, rfl, hx, arrives⟩
      · rw [standing, if_neg hk] at hx
        exact older hx
    | quiet standing idles => exact older ((standing number).eq_some hx)
    | meddled standing changed => exact older (standing number ▸ hx)

/-- Running tasks together is a history, whatever else surrounds the session. -/
theorem runTasks (h : History w s₀ past s) (fuel : Nat) (all round : List Nat) (moved : Bool) :
    ∃ past', History w s₀ past' (s.runTasks fuel all round moved) := by
  induction fuel generalizing past s round moved with
  | zero => exact ⟨past, h⟩
  | succ fuel ih =>
    cases round with
    | cons number rest =>
      rw [Session.runTasks]
      cases taken : s.step? number with
      | some s' => exact ih (h.go (.step taken)) _ _
      | none => exact ih h _ _
    | nil =>
      rw [Session.runTasks]
      split
      next => exact ih h _ _
      next =>
        split
        next => exact ⟨past, h⟩
        next time _ =>
          have hpass : { s with now := max s.now time } = s.advance (time - s.now) := by
            rw [advance, Nat.add_comm, Nat.sub_add_eq_max, Nat.max_comm]
          rw [hpass]
          exact ih (h.go (.pass _)) _ _

end History

end NodeSupply.Session
