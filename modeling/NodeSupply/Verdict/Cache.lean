import NodeSupply.Time
import NodeSupply.Verdict.Basic
import NodeSupply.Verdict.Fingerprint

/-!
# Kept verdicts

Verdicts are kept for a while.  A new verdict on a class replaces those on its earlier content, and
one that has grown too old is dropped when it is looked for.

## Main definitions

* `VerdictCache.get`, `VerdictCache.insert`, `VerdictCache.clear` : looking for a verdict, keeping
  one, and dropping those on a class.
-/

namespace NodeSupply

/-- A kept verdict. -/
structure KeptVerdict where
  /-- The verdict. -/
  verdict : Verdict
  /-- When it was kept. -/
  since : Instant
deriving Repr, DecidableEq

/-- Verdicts under their keys. -/
structure VerdictCache where
  /-- How long a verdict counts. -/
  ttl : Duration
  /-- The kept verdicts, those that no longer count included. -/
  entries : SortedMap String KeptVerdict
deriving DecidableEq

namespace VerdictCache

/-- No verdicts. -/
def empty (ttl : Duration) : VerdictCache := ⟨ttl, .empty⟩

/-- Whether a kept verdict counts at some time. -/
def counts (c : VerdictCache) (now : Instant) (k : KeptVerdict) : Bool := now - k.since < c.ttl

/-- The verdict under a key, if it counts; one that does not is dropped. -/
def get (c : VerdictCache) (now : Instant) (key : String) : Option Verdict × VerdictCache :=
  match c.entries.get? key with
  | none => (none, c)
  | some k =>
    if c.counts now k then (some k.verdict, c)
    else (none, { c with entries := c.entries.erase key })

/-- Without the verdicts under other keys that belong to the same name. -/
def dropOthers (c : VerdictCache) (key : String) : VerdictCache :=
  match Fingerprint.owner? key with
  | none => c
  | some name =>
    { c with
      entries := c.entries.filter fun other _ =>
        other == key || Fingerprint.owner? other != some name }

/-- Keeps a verdict under a key. -/
def insert (c : VerdictCache) (now : Instant) (key : String) (v : Verdict) : VerdictCache :=
  let c := c.dropOthers key
  { c with entries := c.entries.insert key ⟨v, now⟩ }

/-- Drops the verdicts under the keys that belong to a name. -/
def clear (c : VerdictCache) (name : String) : VerdictCache :=
  { c with entries := c.entries.filter fun key _ => Fingerprint.owner? key != some name }

/-- The number of kept verdicts, those that no longer count included. -/
def size (c : VerdictCache) : Nat := c.entries.size

end VerdictCache

end NodeSupply
