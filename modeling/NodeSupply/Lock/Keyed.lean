import NodeSupply.Lock.Fair

/-!
# Keyed locks

One fair lock for each key.  The table says which slot holds the lock of a key; a client keeps the
number of the slot it was sent to.  Whoever asks for a lock first clears the slots without clients
away, so the table stays as small as the number of keys in use.

## Main definitions

* `KeyedLock` : the table and the slots.
* `KeyedLock.enter` : a client asks for the lock of a key and is sent to a slot.
* `KeyedLock.leave` : a client gives up its place in a slot.
* `KeyedLock.activeKeys` : the number of keys that are held or awaited.
-/

namespace NodeSupply

/-- The lock of a key, with a number that no other slot has had. -/
structure LockSlot (κ τ : Type) where
  /-- The number of the slot. -/
  number : Nat
  /-- The key that it was made for. -/
  key : κ
  /-- The lock. -/
  lock : FairLock τ
deriving DecidableEq

/-- A fair lock for each key. -/
structure KeyedLock (κ τ : Type) where
  /-- The number of the slot of each key. -/
  table : List (κ × Nat)
  /-- The slots. -/
  slots : List (LockSlot κ τ)
  /-- The number of the next slot. -/
  next : Nat
deriving DecidableEq

namespace KeyedLock

variable {κ τ : Type}

/-- No key is held or awaited. -/
def empty : KeyedLock κ τ := ⟨[], [], 0⟩

/-- The slot of a number. -/
def slot? (k : KeyedLock κ τ) (number : Nat) : Option (LockSlot κ τ) :=
  k.slots.find? (·.number == number)

/-- Whether the slot of a number has clients. -/
def isActive (k : KeyedLock κ τ) (number : Nat) : Bool :=
  (k.slot? number).any fun s => !s.lock.isIdle

/-- The number of the slot that the table has for a key. -/
def numberOf? [BEq κ] (k : KeyedLock κ τ) (key : κ) : Option Nat :=
  (k.table.find? (·.1 == key)).map (·.2)

/-- Without the slots that have no clients. -/
def prune (k : KeyedLock κ τ) : KeyedLock κ τ :=
  { k with
    table := k.table.filter fun e => k.isActive e.2
    slots := k.slots.filter fun s => !s.lock.isIdle }

/-- With the lock in the slot of a number changed. -/
def modify (k : KeyedLock κ τ) (number : Nat) (f : FairLock τ → FairLock τ) : KeyedLock κ τ :=
  { k with slots := k.slots.map fun s => if s.number = number then { s with lock := f s.lock } else s }

/-- A client asks for the lock of a key: the slots in use, and the one it was sent to. -/
def enter [BEq κ] (k : KeyedLock κ τ) (key : κ) (t : τ) : KeyedLock κ τ × Nat :=
  let k := k.prune
  match k.numberOf? key with
  | some number => (k.modify number (·.enter t), number)
  | none =>
    ({ table := (key, k.next) :: k.table
       slots := ⟨k.next, key, FairLock.idle.enter t⟩ :: k.slots
       next := k.next + 1 }, k.next)

/-- A client gives up its place in a slot, whether it holds the lock or waits for it. -/
def leave [BEq τ] (k : KeyedLock κ τ) (number : Nat) (t : τ) : KeyedLock κ τ :=
  k.modify number (·.leave t)

/-- Whether a client holds the lock in a slot. -/
def isHeldBy [BEq τ] (k : KeyedLock κ τ) (number : Nat) (t : τ) : Bool :=
  (k.slot? number).any (·.lock.isHeldBy t)

/-- The number of keys that are held or awaited. -/
def activeKeys (k : KeyedLock κ τ) : Nat := (k.table.filter fun e => k.isActive e.2).length

end KeyedLock

end NodeSupply
