import NodeSupply.CommandLine.Arguments
import NodeSupply.Configuration.Environment
import NodeSupply.Price.Region
import NodeSupply.Session.Run

/-!
# Reports

What the commands print.  The catalog, prices and choices need no provider: they are those of the
built-in region, for a class of nodes with one subnet in each zone.

## Main definitions

* `Report` : what a command printed, and how it ended.
* `Report.catalog`, `Report.price`, `Report.select`, `Report.nodeGroups` : the commands.
* `Command.report` : what any command prints.
-/

namespace NodeSupply

/-- Why a command failed. -/
inductive CommandError where
  /-- The configuration cannot be used. -/
  | configuration (cause : ConfigurationError)
  /-- A name leads to no shape on sale. -/
  | catalog (cause : CatalogError)
  /-- Offerings cannot be given. -/
  | offering (cause : OfferingError)
  /-- Nothing can be chosen. -/
  | selection (cause : SelectionError)
  /-- There is no such kind of disk. -/
  | diskType (name : String)
  /-- The node groups cannot be listed. -/
  | listing (cause : LifecycleError)
deriving Repr, DecidableEq

/-- What is said about a failed command. -/
def CommandError.message : CommandError → String
  | configuration cause => "configuration error: " ++ cause.message
  | catalog cause => cause.message
  | offering cause => cause.message
  | selection cause => cause.message
  | diskType name => DiskKind.refusal name
  | listing cause => "node group listing failed: " ++ cause.message

/-- What a command printed, and why it failed if it did. -/
structure Report where
  /-- The printed text. -/
  text : String
  /-- Why the command failed. -/
  error : Option CommandError
deriving Repr, DecidableEq

namespace Report

/-- A line of text. -/
def line (s : String) : String := s ++ "\n"

/-- A line of columns. -/
def row (columns : List String) : String := line ("\t".intercalate columns)

/-- Nothing was printed. -/
def failed (e : CommandError) : Report := ⟨"", some e⟩

/-- A price as it is printed. -/
def priceText (price : Option Binary64) : String := price.elim "-" Binary64.fourPlaces

/-! ### The region -/

/-- The zones that were asked for, or those of the region. -/
def wantedZones (o : OfferOptions) : SortedSet Zone :=
  .ofList (if o.zones.isEmpty then Region.zones else o.zones)

/-- What can be bought: the region, and the zones that were asked for. -/
def market (o : OfferOptions) : Market :=
  ⟨Region.catalog, Region.prices, .ofList (Region.zones ++ (wantedZones o).toList)⟩

/-- The class of the nodes: with a disk of some size and a subnet in each zone that was asked
for. -/
def nodeClass (o : OfferOptions) (diskGib : UInt64) : NodeClass :=
  { NodeClass.named "offline" with
    discountable := o.spot
    diskSizeBytes := Saturating.mul diskGib (UInt64.ofNat gibibyte)
    subnets := (wantedZones o).toList.map fun zone => ⟨"offline-" ++ zone, zone, none⟩ }

/-! ### The catalog -/

/-- The zones in which an instance type is available. -/
def zonesText (t : InstanceType) : String :=
  match (SortedSet.ofList ((t.offerings.filter (·.available)).map (·.zone))).toList with
  | [] => "-"
  | zones => ",".intercalate zones

/-- The line of an instance type. -/
def catalogRow (t : InstanceType) : String :=
  row [t.name, Numeral.text t.shape.cpu.toNat, Numeral.text t.shape.memoryMib.toNat ++ "Mi",
    priceText (t.cheapest? (·.capacityType == .onDemand)),
    priceText (t.cheapest? (·.capacityType == .spot)), zonesText t]

/-- Whether an instance type is of the platform that was asked for, if one was. -/
def ofPlatform (o : OfferOptions) (t : InstanceType) : Bool :=
  o.platform.all (t.shape.platform == ·)

/-- A list of the instance types. -/
def catalog (o : OfferOptions) : Report :=
  match (market o).list (nodeClass o 0) with
  | .error e => failed (.offering e)
  | .ok types =>
    let head := row ["INSTANCE TYPE", "CPU", "MEMORY", "ON-DEMAND", "SPOT", "ZONES"]
    ⟨String.join (head :: (types.filter (ofPlatform o)).map catalogRow), none⟩

/-! ### Prices and choices -/

/-- The prices of an instance type, and of a disk with it. -/
def price (name : String) (diskType : Option String) (diskGib : Option UInt64) : Report :=
  match Region.catalog.byName name with
  | .error e => failed (.catalog e)
  | .ok s =>
    let prices := line ("instance_type: " ++ s.name)
      ++ line ("on_demand: " ++ priceText (Region.prices.onDemand? s))
      ++ line ("spot: " ++ priceText (Region.prices.discounted? s))
    match diskGib with
    | none => ⟨prices, none⟩
    | some gib =>
      let configured := diskType.getD ""
      match DiskKind.ofConfigured? configured with
      | none => ⟨prices, some (.diskType configured)⟩
      | some kind =>
        ⟨prices ++ line ("disk (" ++ kind.name ++ ", " ++ Numeral.text gib.toNat ++ "Gi): "
          ++ priceText (Region.prices.disk? kind gib)), none⟩

/-- The demand for least amounts. -/
def demand (cpu : UInt32) (memoryGib diskGib : UInt64) (o : OfferOptions) : Demand where
  requirements := .of (o.platform.toList.map fun p => (Label.platform, [p]))
  resources := ⟨cpu, Saturating.mul memoryGib 1024, diskGib⟩

/-- The choice for least amounts. -/
def select (tieBreak : TieBreak) (cpu : UInt32) (memoryGib diskGib : UInt64) (o : OfferOptions) :
    Report :=
  match (market o).list (nodeClass o diskGib) with
  | .error e => failed (.offering e)
  | .ok candidates =>
    match Selection.select tieBreak candidates (demand cpu memoryGib diskGib o) with
    | .error e => failed (.selection e)
    | .ok s =>
      ⟨line ("instance_type: " ++ s.instanceType.name)
        ++ line ("zone: " ++ s.offering.zone)
        ++ line ("capacity_type: " ++ s.offering.capacityType.label)
        ++ line ("price: " ++ priceText s.offering.price), none⟩

/-! ### Node groups -/

/-- The line of a node group. -/
def groupRow (g : NodeGroup) : String :=
  row [g.id, g.name, g.shape.name, g.zone.getD "-", g.state.text]

/-- A list of node groups. -/
def groups : ListGroups.Result → Report
  | .error e => failed (.listing e)
  | .ok groups =>
    ⟨String.join (row ["ID", "NAME", "INSTANCE TYPE", "ZONE", "STATE"] :: groups.map groupRow), none⟩

/-- What came of listing the node groups. -/
def ofTask {σ : Type} [Provider σ] : Plan (Option (Session.Task σ)) → Report
  | .one (some ⟨.listGroups, _, .finished result⟩) => groups result
  | _ => ⟨"", none⟩

/-- The node groups of the configured cluster, asked for at a service that answers by a script; and
the service after that. -/
def nodeGroups (tieBreak : TieBreak) (service : WebService) (c : Configuration) :
    Report × WebService :=
  match c.client with
  | .error e => (failed (.configuration e), service)
  | .ok client =>
    let setup : Setup := ⟨c.settings, ⟨Region.catalog, Region.prices, c.zoneSet⟩, .always tieBreak⟩
    let session := Session.begin setup (Rest.begin client service)
    let (task, session) := session.run (.one (.listGroups, none))
    (ofTask task, session.provider.service)

end Report

/-- What a command prints under environment variables; and the service after that. -/
def Command.report (tieBreak : TieBreak) (service : WebService) (environment : Environment) :
    Command → Report × WebService
  | catalog o => (.catalog o, service)
  | price name diskType diskGib => (.price name diskType diskGib, service)
  | select cpu memoryGib diskGib o => (.select tieBreak cpu memoryGib diskGib o, service)
  | nodeGroups =>
    match Configuration.ofEnvironment environment with
    | .error e => (.failed (.configuration e), service)
    | .ok c => Report.nodeGroups tieBreak service c

end NodeSupply
