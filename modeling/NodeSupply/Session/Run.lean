import NodeSupply.Session.Basic
import NodeSupply.Session.Plan

/-!
# Running a session

Tasks that run together are looked at in their order, each until it can take no step, round after
round.  When none of them can, the clock is set to the next time that one of them waits for.

## Main definitions

* `Session.due?` : the next time that a task waits for.
* `Session.run` : the jobs of a plan, run together until nothing more can come of them.
-/

namespace NodeSupply.Session

variable {σ : Type} [Provider σ]

/-- The next time that a task waits for. -/
def due? (s : Session σ) (number : Nat) : Option Instant :=
  match s.tasks.get? number with
  | some ⟨_, cancelAt, .waiting _ hold _⟩ => earlier hold.due? cancelAt
  | _ => none

/-- Runs tasks together, with at most `fuel` looks at them: those of `round` are still to be looked
at in this round, and `moved` says whether one took a step in it. -/
def runTasks (fuel : Nat) (s : Session σ) (all round : List Nat) (moved : Bool) : Session σ :=
  match fuel with
  | 0 => s
  | fuel + 1 =>
    match round with
    | number :: rest =>
      match s.step? number with
      | some s => runTasks fuel s all round true
      | none => runTasks fuel s all rest moved
    | [] =>
      if moved then runTasks fuel s all all false
      else
        match (all.map s.due?).foldl earlier none with
        | none => s
        | some time => runTasks fuel { s with now := max s.now time } all all false

/-- The number of looks after which tasks that run together are left alone. -/
def patience : Nat := 1000000000000

/-- The jobs of a plan, each given up after some time if a time is set, run together until nothing
more can come of them.  The tasks take the places of the jobs and are taken out of the session. -/
def run (s : Session σ) (plan : Plan (Job × Option Duration)) :
    Plan (Option (Task σ)) × Session σ :=
  let (numbers, s) := plan.mapAccum (fun s (j, cancelAfter) => s.submit j cancelAfter) s
  let all := numbers.leaves
  let s := runTasks patience s all all false
  (numbers.map s.tasks.get?,
    { s with tasks := s.tasks.filter fun number _ => !all.contains number })

end NodeSupply.Session
