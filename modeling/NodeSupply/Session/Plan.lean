/-!
# Plans

What is to be done together.  A plan is one thing or a list of plans, which may be empty and may be
nested to any depth; its things stand in the order in which they are written.  Main statements: what
is done with each thing changes neither their number nor their order (`leaves_map`), and what is
numbered by a plan is numbered in that order (`leaves_mapAccum`).

## Main definitions

* `Plan` : one thing, or plans together.
* `Plan.leaves` : the things of a plan, in order.
* `Plan.map`, `Plan.mapAccum` : a plan of the same shape with other things.
-/

namespace NodeSupply

/-- One thing, or plans together. -/
inductive Plan (α : Type) where
  /-- One thing. -/
  | one (a : α)
  /-- Plans together. -/
  | together (parts : List (Plan α))

namespace Plan

variable {α β σ : Type}

mutual

/-- The things of a plan, in order. -/
def leaves : Plan α → List α
  | one a => [a]
  | together parts => leavesOf parts

/-- The things of some plans, in order. -/
def leavesOf : List (Plan α) → List α
  | [] => []
  | part :: parts => leaves part ++ leavesOf parts

end

mutual

/-- A plan of the same shape, where `f` says what stands for each thing. -/
def map (f : α → β) : Plan α → Plan β
  | one a => one (f a)
  | together parts => together (mapAll f parts)

/-- Plans of the same shapes, where `f` says what stands for each thing. -/
def mapAll (f : α → β) : List (Plan α) → List (Plan β)
  | [] => []
  | part :: parts => map f part :: mapAll f parts

end

mutual

/-- As `map`, where each thing is dealt with in the state that the ones before it leave. -/
def mapAccum (f : σ → α → β × σ) (s : σ) : Plan α → Plan β × σ
  | one a => let (b, s) := f s a; (one b, s)
  | together parts => let (parts, s) := mapAccumAll f s parts; (together parts, s)

/-- As `mapAll`, where each thing is dealt with in the state that the ones before it leave. -/
def mapAccumAll (f : σ → α → β × σ) (s : σ) : List (Plan α) → List (Plan β) × σ
  | [] => ([], s)
  | part :: parts =>
    let (part, s) := mapAccum f s part
    let (parts, s) := mapAccumAll f s parts
    (part :: parts, s)

end

/-! ### Order -/

mutual

/-- The things of a mapped plan are the mapped things. -/
theorem leaves_map (f : α → β) : (p : Plan α) → (p.map f).leaves = p.leaves.map f
  | one _ => rfl
  | together parts => leavesOf_mapAll f parts

theorem leavesOf_mapAll (f : α → β) :
    (parts : List (Plan α)) → leavesOf (mapAll f parts) = (leavesOf parts).map f
  | [] => rfl
  | part :: parts => by
    simp only [mapAll, leavesOf, List.map_append, leaves_map f part, leavesOf_mapAll f parts]

end

/-- As `Plan.mapAccum`, for things in a row. -/
def listAccum (f : σ → α → β × σ) (s : σ) : List α → List β × σ
  | [] => ([], s)
  | a :: as => ((f s a).1 :: (listAccum f (f s a).2 as).1, (listAccum f (f s a).2 as).2)

theorem listAccum_append (f : σ → α → β × σ) (s : σ) (as bs : List α) :
    listAccum f s (as ++ bs) = ((listAccum f s as).1 ++ (listAccum f (listAccum f s as).2 bs).1,
      (listAccum f (listAccum f s as).2 bs).2) := by
  induction as generalizing s with
  | nil => rfl
  | cons a as ih => simp [listAccum, ih]

mutual

/-- A plan is dealt with as its things are, one after the other. -/
theorem leaves_mapAccum (f : σ → α → β × σ) (s : σ) : (p : Plan α) →
    ((p.mapAccum f s).1.leaves, (p.mapAccum f s).2) = listAccum f s p.leaves
  | one _ => rfl
  | together parts => leavesOf_mapAccumAll f s parts

theorem leavesOf_mapAccumAll (f : σ → α → β × σ) (s : σ) : (parts : List (Plan α)) →
    (leavesOf (mapAccumAll f s parts).1, (mapAccumAll f s parts).2) =
      listAccum f s (leavesOf parts)
  | [] => rfl
  | part :: parts => by
    have first := leaves_mapAccum f s part
    have others := leavesOf_mapAccumAll f (mapAccum f s part).2 parts
    simp only [Prod.ext_iff] at first others
    simp [mapAccumAll, leavesOf, listAccum_append, ← first.1, ← first.2, ← others.1, ← others.2]

end

end Plan

end NodeSupply
