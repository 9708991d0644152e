import NodeSupply.Text.Numeral
import NodeSupply.Text.Quoted
import NodeSupply.Text.Lowercase
import NodeSupply.Text.Utf8
import NodeSupply.Binary64
import NodeSupply.Sha256
import NodeSupply.Json.Reader
import NodeSupply.Json.Decode
import NodeSupply.Sorted.Set
import NodeSupply.Sorted.Map
import NodeSupply.Identifier
import NodeSupply.Shape.Region
import NodeSupply.Price.Region
import NodeSupply.NodeClassDocument
import NodeSupply.Offer.Selection
import NodeSupply.Provider.Memory
import NodeSupply.Session.Run
import NodeSupply.Rest.Client
import NodeSupply.Main
import NodeSupply.Proofs.Sorted
import NodeSupply.Proofs.Lock.Keyed
import NodeSupply.Proofs.Provider.Memory
import NodeSupply.Proofs.Session.Move
import NodeSupply.Proofs.Session.History
import NodeSupply.Proofs.Session.InMemory
import NodeSupply.Proofs.Session.Gates
import NodeSupply.Proofs.Session.Turns
import NodeSupply.Proofs.Session.Names
import NodeSupply.Proofs.Verdict.Cache
import NodeSupply.Proofs.Offer.Selection
import NodeSupply.Proofs.Routine.LaunchPlan
import NodeSupply.Proofs.Routine.Provision
import NodeSupply.Proofs.Session.Launch
import NodeSupply.Proofs.Session.Origin
import NodeSupply.Proofs.Json.Compact
import NodeSupply.Proofs.Text.Utf8
import NodeSupply.Proofs.Verdict.Fingerprint
import NodeSupply.Proofs.Verdict.Checks
import NodeSupply.Proofs.Routine.Reconcile
import NodeSupply.Proofs.Verdict.Served
import NodeSupply.Proofs.Session.Deletions
import NodeSupply.Proofs.Session.Verdicts
import NodeSupply.Proofs.Json.Parts
import NodeSupply.Proofs.Rest.Listing
import NodeSupply.Proofs.Rest.Mention
import NodeSupply.Proofs.Rest.Requests
import NodeSupply.Proofs.Session.Creation
import NodeSupply.Proofs.Rest.Echo
import NodeSupply.Proofs.Shape.Catalog
import NodeSupply.Proofs.Offer.Listing
import NodeSupply.Proofs.Lock.Calls
import NodeSupply.Proofs.Routine.NodeLabels
import NodeSupply.Proofs.Session.NodeLabels
import NodeSupply.Proofs.Offer.Inventory
import NodeSupply.Proofs.Routine.Passing
import NodeSupply.Proofs.Routine.Placement
import NodeSupply.Proofs.Session.Reconciling
import NodeSupply.Proofs.Session.Placement
import NodeSupply.Proofs.Session.Reuse
import NodeSupply.Proofs.Session.SingleFlight
import NodeSupply.Proofs.Offer.Choice
import NodeSupply.Proofs.Offer.Resolution
import NodeSupply.Proofs.Verdict.Entries
import NodeSupply.Proofs.Provider.Timed
import NodeSupply.Proofs.Session.Lone
import NodeSupply.Proofs.Session.Deadline
import NodeSupply.Proofs.Offer.Relaxation
import NodeSupply.Proofs.Shape.Lookup
import NodeSupply.Proofs.Verdict.Steps
import NodeSupply.Proofs.Routine.Checking
import NodeSupply.Proofs.Verdict.Log
import NodeSupply.Proofs.Shape.Grammar
import NodeSupply.Proofs.CommandLine.Planners
import NodeSupply.Proofs.Rest.Paging
import NodeSupply.Proofs.Session.Watch
import NodeSupply.Proofs.Session.Paging
import NodeSupply.Proofs.Offer.Reserve
import NodeSupply.Proofs.Rest.AskedMemory
import NodeSupply.Proofs.Json.Variation
import NodeSupply.Proofs.Rest.Spelling
import NodeSupply.Proofs.Provider.Instances
import NodeSupply.Proofs.Session.ExternalIds
import NodeSupply.Proofs.Disk
import NodeSupply.Proofs.Rest.Percent
import NodeSupply.Proofs.Rest.Path
import NodeSupply.Proofs.Rest.Place
import NodeSupply.Proofs.Rest.Resource
