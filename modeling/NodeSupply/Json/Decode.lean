import NodeSupply.Json.Value
import NodeSupply.Sorted.Map

/-!
# Decoding JSON values

Values of the domain read from JSON values.  A record may be written as an object, where members
are found by name, unknown ones are skipped and a known one may not be repeated, or as a list of
its members in their declared order.

## Main definitions

* `Json.record?` : the members of a record.
* `Json.string?`, `Json.bool?`, `Json.naturalBelow?`, `Json.list?`, `Json.stringMap?` : values.
-/

namespace NodeSupply.Json

/-- The string that a value is. -/
def string? : Json → Option String
  | text s => some s
  | _ => none

/-- The truth value that a value is. -/
def bool? : Json → Option Bool
  | bool b => some b
  | _ => none

/-- The natural number below `bound` that a value is. -/
def naturalBelow? (bound : Nat) : Json → Option Nat
  | integer (.ofNat n) => if n < bound then some n else none
  | _ => none

/-- The word that a value is. -/
def word? (v : Json) : Option UInt64 := (v.naturalBelow? UInt64.size).map UInt64.ofNat

/-- The list that a value is, each item decoded. -/
def list? (decode : Json → Option α) : Json → Option (List α)
  | array items => items.mapM decode
  | _ => none

/-- The keys and strings of an object, in the order of the document. -/
def stringMembers? : Json → Option (List (String × String))
  | object members => members.mapM fun (key, value) => value.string?.map (key, ·)
  | _ => none

/-- The map that an object is; the last of equal keys counts. -/
def stringMap? (v : Json) : Option (SortedMap String String) := v.stringMembers?.map .ofList

/-- The members of a record in their declared order, absent ones left out. -/
structure Members where
  /-- Whether the record was written as a list. -/
  positional : Bool
  /-- The value of each declared member. -/
  values : List (Option Json)

/-- The members named `names` of a record.  As an object it may not repeat one of them; as a list
it may not have more items than there are names. -/
def record? (names : List String) : Json → Option Members
  | object members =>
    let found := names.map fun name => (members.filter (·.1 == name)).map (·.2)
    if found.any (1 < ·.length) then none else some ⟨false, found.map List.head?⟩
  | array items =>
    if names.length < items.length then none
    else some ⟨true, items.map some ++ List.replicate (names.length - items.length) none⟩
  | _ => none

/-- The member at a place, if it is present. -/
def Members.at? (members : Members) (place : Nat) : Option Json := (members.values[place]?).join

/-- The member at a place, which must be present. -/
def Members.required (members : Members) (place : Nat) (decode : Json → Option α) : Option α := do
  decode (← members.at? place)

/-- The member at a place, or a default where it is absent. -/
def Members.optional (members : Members) (place : Nat) (default_ : α) (decode : Json → Option α) :
    Option α :=
  match members.at? place with
  | none => some default_
  | some value => decode value

/-- A value that may be `null`. -/
def nullable (decode : Json → Option α) : Json → Option (Option α)
  | null => some none
  | value => (decode value).map some

end NodeSupply.Json
