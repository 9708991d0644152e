import NodeSupply.Text.Numeral

/-!
# Arguments

What the arguments of the command line ask for.  An option takes its value from behind an equals
sign or from the next argument, which must not look like an option then; behind two dashes nothing
looks like one.

## Main definitions

* `Command` : what can be asked for.
* `Command.ofArguments` : what some arguments ask for.
-/

namespace NodeSupply

/-- Which offerings are looked at. -/
structure OfferOptions where
  /-- The zones that were named. -/
  zones : List String
  /-- Whether discounted capacity may be bought. -/
  spot : Bool
  /-- The only platform to look at, if one was named. -/
  platform : Option String
deriving Repr, DecidableEq

/-- What can be asked for. -/
inductive Command where
  /-- A list of the instance types. -/
  | catalog (o : OfferOptions)
  /-- The prices of an instance type, and of a disk with it. -/
  | price (name : String) (diskType : Option String) (diskGib : Option UInt64)
  /-- The choice for least amounts. -/
  | select (cpu : UInt32) (memoryGib diskGib : UInt64) (o : OfferOptions)
  /-- A list of the node groups. -/
  | nodeGroups
deriving Repr, DecidableEq

/-- Why arguments ask for nothing. -/
inductive UsageEnd where
  /-- They ask how to ask. -/
  | help
  /-- They are wrong. -/
  | misuse
deriving Repr, DecidableEq

namespace Arguments

/-- What an option goes with. -/
inductive OptionKind where
  /-- It stands alone, and only once. -/
  | flag
  /-- It has a value that some test accepts, and stands only once. -/
  | single (accepts : String → Bool)
  /-- It has a value, and may stand again. -/
  | repeated

/-- What a command takes. -/
structure Grammar where
  /-- The options. -/
  options : List (String × OptionKind)
  /-- The number of arguments that are no options. -/
  places : Nat

/-- What was given. -/
structure Given where
  /-- The options with their values, in order. -/
  options : List (String × String)
  /-- The other arguments, in order. -/
  places : List String
deriving Repr, DecidableEq

/-- Whether an argument looks like an option. -/
def looksLikeOption (s : String) : Bool :=
  match s.toList with
  | '-' :: _ :: _ => true
  | _ => false

/-- The name of a long option, and the value behind an equals sign. -/
def splitOption (cs : List Char) : String × Option String :=
  (String.ofList (cs.takeWhile (· != '=')),
    match cs.dropWhile (· != '=') with
    | [] => none
    | _ :: value => some (String.ofList value))

/-- With an option given, unless it stands too often or has a wrong value. -/
def Given.addOption (g : Given) (name value : String) (kind : OptionKind) :
    Except UsageEnd Given :=
  let twice := g.options.any (·.1 == name)
  let added : Given := { g with options := g.options ++ [(name, value)] }
  match kind with
  | .flag => if twice then .error .misuse else .ok added
  | .single accepts => if twice || !accepts value then .error .misuse else .ok added
  | .repeated => .ok added

/-- With an argument given that is no option, unless there are too many. -/
def Given.addPlace (g : Given) (grammar : Grammar) (s : String) : Except UsageEnd Given :=
  if g.places.length < grammar.places then .ok { g with places := g.places ++ [s] }
  else .error .misuse

/-- What some arguments give. -/
def scan (grammar : Grammar) (g : Given) : List String → Except UsageEnd Given
  | [] => .ok g
  | s :: rest =>
    if s = "--" then rest.foldlM (·.addPlace grammar) g
    else
      match s.toList with
      | '-' :: '-' :: cs =>
        let (name, attached) := splitOption cs
        match grammar.options.lookup name, attached with
        | none, none => .error (if name = "help" then .help else .misuse)
        | none, some _ => .error .misuse
        | some .flag, some _ => .error .misuse
        | some .flag, none =>
          match g.addOption name "" .flag with
          | .error e => .error e
          | .ok g => scan grammar g rest
        | some kind, some value =>
          match g.addOption name value kind with
          | .error e => .error e
          | .ok g => scan grammar g rest
        | some kind, none =>
          match rest with
          | [] => .error .misuse
          | value :: rest =>
            if looksLikeOption value then .error .misuse
            else
              match g.addOption name value kind with
              | .error e => .error e
              | .ok g => scan grammar g rest
      | '-' :: 'h' :: _ => .error .help
      | '-' :: _ :: _ => .error .misuse
      | _ =>
        match g.addPlace grammar s with
        | .error e => .error e
        | .ok g => scan grammar g rest

/-- The value of an option, if it was given. -/
def Given.value? (g : Given) (name : String) : Option String := g.options.lookup name

/-- The word that text is; a plus sign may stand before it. -/
def word? (s : String) : Option UInt64 :=
  (Numeral.readSignedBelow? UInt64.size s.toList).map UInt64.ofNat

/-- The number of cores that text is; a sign may stand before it. -/
def cores? (s : String) : Option UInt32 :=
  match s.toList with
  | '-' :: digits => (Numeral.readBelow? 1 digits).map UInt32.ofNat
  | cs => (Numeral.readSignedBelow? UInt32.size cs).map UInt32.ofNat

/-- The options about offerings. -/
def offerOptions : List (String × OptionKind) :=
  [("zone", .repeated), ("spot", .flag), ("platform", .single fun _ => true)]

/-- Which offerings are looked at. -/
def Given.offers (g : Given) : OfferOptions where
  zones := (g.options.filter (·.1 == "zone")).map (·.2)
  spot := (g.value? "spot").isSome
  platform := g.value? "platform"

/-- An option whose value is a word. -/
def wordOption (name : String) : String × OptionKind := (name, .single fun s => (word? s).isSome)

/-- What `price` takes. -/
def priceGrammar : Grammar :=
  ⟨[("disk-type", .single fun _ => true), wordOption "disk-gib"], 1⟩

/-- What `select` takes. -/
def selectGrammar : Grammar :=
  ⟨("cpu", .single fun s => (cores? s).isSome) :: wordOption "memory-gib" :: wordOption "disk-gib"
    :: offerOptions, 0⟩

/-- What must be there. -/
def require : Option α → Except UsageEnd α
  | none => .error .misuse
  | some a => .ok a

/-- The prices that are asked for. -/
def price (rest : List String) : Except UsageEnd Command := do
  let g ← scan priceGrammar ⟨[], []⟩ rest
  let name ← require g.places.head?
  let diskGib := (g.value? "disk-gib").bind word?
  if (g.value? "disk-type").isSome && diskGib.isNone then throw .misuse
  return .price name (g.value? "disk-type") diskGib

/-- The choice that is asked for. -/
def select (rest : List String) : Except UsageEnd Command := do
  let g ← scan selectGrammar ⟨[], []⟩ rest
  let cpu ← require ((g.value? "cpu").bind cores?)
  let memoryGib ← require ((g.value? "memory-gib").bind word?)
  return .select cpu memoryGib (((g.value? "disk-gib").bind word?).getD 0) g.offers

/-- The names of the commands. -/
def commandNames : List String := ["catalog", "price", "select", "node-groups", "help"]

end Arguments

/-- What some arguments ask for. -/
def Command.ofArguments : List String → Except UsageEnd Command
  | "catalog" :: rest => do
    return .catalog (← Arguments.scan ⟨Arguments.offerOptions, 0⟩ ⟨[], []⟩ rest).offers
  | "price" :: rest => Arguments.price rest
  | "select" :: rest => Arguments.select rest
  | "node-groups" :: rest => do
    let _ ← Arguments.scan ⟨[], 0⟩ ⟨[], []⟩ rest
    return .nodeGroups
  | ["help"] => .error .help
  | ["help", name] => .error (if Arguments.commandNames.contains name then .help else .misuse)
  | first :: _ =>
    .error (if first = "--help" ∨ "-h".toList.isPrefixOf first.toList then .help else .misuse)
  | [] => .error .misuse

end NodeSupply
