import NodeSupply.Offer.Offering

/-!
# Choosing an offering

Of the instance types that meet a request the one with the least price is taken, the first by name
among equals, and of its offerings at that price one in the zone with the most free addresses.  A
tie that is left is broken by a rule of the caller's.

## Main definitions

* `Demand` : what is asked for.
* `TieBreak`, `TieBreaker` : a rule that picks among equally good offerings, and rules for one call
  after another.
* `Selection.select` : the chosen offering.
-/

namespace NodeSupply

/-- What is asked for: labels and least amounts. -/
structure Demand where
  /-- The labels that the node must be able to have. -/
  requirements : Requirements
  /-- The least that the node must have. -/
  resources : Resources
deriving DecidableEq

/-- A chosen way to buy an instance type. -/
structure Selection where
  /-- The instance type with all its offerings. -/
  instanceType : InstanceType
  /-- The chosen offering. -/
  offering : Offering
deriving DecidableEq

/-- Why nothing can be chosen. -/
inductive SelectionError where
  /-- None of so many instance types has a fitting offering. -/
  | noCompatibleOffering (candidates : Nat)
deriving Repr, DecidableEq

/-- What is said where nothing can be chosen. -/
def SelectionError.message : SelectionError → String
  | noCompatibleOffering candidates =>
    "insufficient capacity: none of " ++ Numeral.text candidates
      ++ " instance types has a compatible available offering"

/-- A rule that gives the place of one of some offerings. -/
abbrev TieBreak := List Offering → Nat

namespace TieBreak

/-- The first offering with the least zone. -/
def lexical : TieBreak
  | [] => 0
  | o :: os =>
    let rest := lexical os
    match os[rest]? with
    | none => 0
    | some least => if (compare o.zone least.zone).isLE then 0 else rest + 1

/-- The offering that a random number picks, each with the same chance. -/
def drawn (draw : Nat) : TieBreak := fun tied => draw % tied.length

/-- Always the same place. -/
def place (n : Nat) : TieBreak := fun _ => n

end TieBreak

/-- Who breaks ties for one call after another.  Each call has a rule of its own, since whoever
draws at random draws anew for each. -/
structure TieBreaker where
  /-- The rule for the call of a number. -/
  rule : Nat → TieBreak

namespace TieBreaker

/-- The same rule for every call. -/
def always (rule : TieBreak) : TieBreaker := ⟨fun _ => rule⟩

/-- The first offering with the least zone at every call. -/
def lexical : TieBreaker := .always .lexical

end TieBreaker

namespace Selection

/-- Whether an offering can be bought and has the labels asked for. -/
def fits (d : Demand) (o : Offering) : Bool :=
  o.available && o.price.isSome && o.requirements.compatible d.requirements

/-- Whether an instance type has the least amounts asked for. -/
def meets (d : Demand) (t : InstanceType) : Bool :=
  d.resources.cpu ≤ t.capacity.cpu && d.resources.memoryMib ≤ t.capacity.memoryMib &&
    d.resources.diskGib ≤ t.capacity.diskGib

/-- The instance types with a fitting offering, each with its least price. -/
def eligible (d : Demand) (candidates : List InstanceType) : List (Binary64 × InstanceType) :=
  (candidates.filter fun t => t.requirements.compatible d.requirements && meets d t).filterMap
    fun t => (t.cheapest? (fits d)).map (·, t)

/-- The better of two instance types with their prices: by price, then by name. -/
def better (a b : Binary64 × InstanceType) : Bool :=
  ((a.1.compare b.1).then (compare a.2.name b.2.name)).isLE

/-- The best of some instance types, the first among equals. -/
def best? : List (Binary64 × InstanceType) → Option (Binary64 × InstanceType)
  | [] => none
  | a :: rest =>
    match best? rest with
    | none => some a
    | some b => some (if better a b then a else b)

/-- The greatest number of free addresses that some offerings report. -/
def mostHeadroom? (tied : List Offering) : Option UInt64 :=
  (tied.filterMap (·.availableIps)).foldl
    (fun most ips => some (most.elim ips fun m => if m ≤ ips then ips else m)) none

/-- The offerings with the most free addresses, or all where none are known. -/
def roomiest (tied : List Offering) : List Offering :=
  match mostHeadroom? tied with
  | none => tied
  | some most => tied.filter (·.availableIps == some most)

/-- One of some offerings: the only one, or the one a rule picks, or the first where the rule
picks none. -/
def pick (rule : TieBreak) : List Offering → Option Offering
  | [] => none
  | [only] => some only
  | many => many[rule many]? <|> many.head?

/-- The chosen offering for a demand. -/
def select (rule : TieBreak) (candidates : List InstanceType) (d : Demand) :
    Except SelectionError Selection :=
  let refused := SelectionError.noCompatibleOffering candidates.length
  match best? (eligible d candidates) with
  | none => .error refused
  | some (price, t) =>
    match pick rule (roomiest (t.offerings.filter fun o => fits d o && o.price == some price)) with
    | none => .error refused
    | some o => .ok ⟨t, o⟩

end Selection

end NodeSupply
