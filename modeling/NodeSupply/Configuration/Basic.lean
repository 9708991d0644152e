import NodeSupply.Rest.Client
import NodeSupply.Routine.Basic
import NodeSupply.Shape.Region
import NodeSupply.Text.Blank

/-!
# Configuration

What a user configures: who to be at the provider, which cluster to work for, and how much time
things may take.

## Main definitions

* `Configuration` : what is configured.
* `Configuration.validate` : whether the library can work with it.
* `Configuration.settings`, `Configuration.client` : what routines and the provider are told.
-/

namespace NodeSupply

/-- What a user configures. -/
structure Configuration where
  /-- The token that is shown to the provider. -/
  iamToken : String
  /-- The cluster that node groups are made for. -/
  clusterId : String
  /-- The zones of the region. -/
  zones : List String
  /-- The time between two looks for the instance of a new node, in milliseconds. -/
  pollIntervalMs : UInt64
  /-- The time that all looks for the instance of a new node may take, in seconds. -/
  resolveTimeoutSecs : UInt64
  /-- The time that a call of the provider may take, in seconds. -/
  callTimeoutSecs : UInt64
  /-- How long a verdict counts, in seconds. -/
  cacheTtlSecs : UInt64
  /-- The time after which a node class is to be looked at again, in seconds. -/
  requeueAfterSecs : UInt64
  /-- Whether node classes pass without checks. -/
  checksDisabled : Bool
  /-- Where the services of the provider are. -/
  endpoints : Endpoints
deriving Repr, DecidableEq

/-- A field that must be configured well. -/
inductive Configuration.Field where
  /-- The token. -/
  | iamToken
  /-- The cluster. -/
  | clusterId
  /-- The zones. -/
  | zones
  /-- The time between two looks for an instance. -/
  | pollInterval
  /-- The time that all looks for an instance may take. -/
  | resolveTimeout
  /-- The time that a call may take. -/
  | callTimeout
deriving Repr, DecidableEq

namespace Configuration.Field

/-- A field as it is named in messages. -/
def description : Field → String
  | iamToken => "IAM token"
  | clusterId => "cluster ID"
  | zones => "zones"
  | pollInterval => "poll interval"
  | resolveTimeout => "resolve timeout"
  | callTimeout => "call timeout"

/-- The key of a field in a file, and the environment variable for it. -/
def keys : Field → String × String
  | iamToken => ("iam_token", "NODEPLAN_IAM_TOKEN")
  | clusterId => ("cluster_id", "NODEPLAN_CLUSTER_ID")
  | zones => ("zones", "NODEPLAN_ZONES")
  | pollInterval => ("poll_interval_ms", "NODEPLAN_POLL_INTERVAL_MS")
  | resolveTimeout => ("resolve_timeout_secs", "NODEPLAN_RESOLVE_TIMEOUT_SECS")
  | callTimeout => ("call_timeout_secs", "NODEPLAN_CALL_TIMEOUT_SECS")

/-- How to configure a field. -/
def hint (f : Field) : String :=
  "set " ++ f.keys.2 ++ " or add " ++ f.keys.1 ++ " to nodeplan.toml"

end Configuration.Field

/-- Why the library cannot work with a configuration. -/
inductive ConfigurationError where
  /-- A field is missing or blank. -/
  | missing (field : Configuration.Field)
  /-- A time is zero. -/
  | notPositive (field : Configuration.Field)
  /-- A value is of the wrong kind. -/
  | unreadable
deriving Repr, DecidableEq

/-- What is said about a configuration that cannot be used. -/
def ConfigurationError.message : ConfigurationError → String
  | missing field =>
    "missing configuration field: missing " ++ field.description ++ ": " ++ field.hint
  | notPositive field =>
    "invalid configuration: " ++ field.description ++ " must be greater than zero: " ++ field.hint
  | unreadable => "configuration parsing failed: <loader>"

namespace Configuration

/-- What counts where nothing is configured. -/
def standard : Configuration where
  iamToken := ""
  clusterId := ""
  zones := Region.zones
  pollIntervalMs := 1000
  resolveTimeoutSecs := 300
  callTimeoutSecs := 30
  cacheTtlSecs := 600
  requeueAfterSecs := 600
  checksDisabled := false
  endpoints :=
    { mks := "https://mks.api.cloud.yandex.net/managed-kubernetes/v1"
      vpc := "https://vpc.api.cloud.yandex.net/vpc/v1"
      compute := "https://compute.api.cloud.yandex.net/compute/v1" }

/-- The first fault of a configuration: the required fields come first, then the times. -/
def fault? (c : Configuration) : Option ConfigurationError :=
  if Text.isBlank c.iamToken then some (.missing .iamToken)
  else if Text.isBlank c.clusterId then some (.missing .clusterId)
  else if c.zones.all Text.isBlank then some (.missing .zones)
  else if c.pollIntervalMs = 0 then some (.notPositive .pollInterval)
  else if c.resolveTimeoutSecs = 0 then some (.notPositive .resolveTimeout)
  else if c.callTimeoutSecs = 0 then some (.notPositive .callTimeout)
  else none

/-- Whether the library can work with a configuration. -/
def validate (c : Configuration) : Except ConfigurationError Unit := c.fault?.elim (.ok ()) .error

/-- The zones of the region, without white space around them and without blank ones. -/
def zoneSet (c : Configuration) : SortedSet Zone :=
  .ofList ((c.zones.map Text.trim).filter (· ≠ ""))

/-- So many seconds. -/
def seconds (n : UInt64) : Duration := n.toNat * 1000

/-- What routines are told. -/
def settings (c : Configuration) : Settings where
  cluster := c.clusterId
  pollInterval := c.pollIntervalMs.toNat
  resolveTimeout := seconds c.resolveTimeoutSecs
  callTimeout := seconds c.callTimeoutSecs
  requeueAfter := seconds c.requeueAfterSecs
  cacheTtl := seconds c.cacheTtlSecs
  checksDisabled := c.checksDisabled

/-- Where the services are, without slashes at the ends. -/
def services (c : Configuration) : Endpoints where
  mks := Text.trimEnd '/' c.endpoints.mks
  vpc := Text.trimEnd '/' c.endpoints.vpc
  compute := Text.trimEnd '/' c.endpoints.compute

/-- The client for a configuration that the library can work with. -/
def client (c : Configuration) : Except ConfigurationError RestClient := do
  c.validate
  return {
    token := c.iamToken
    cluster := c.clusterId
    endpoints := c.services
    requestTimeout := seconds c.callTimeoutSecs }

end Configuration

end NodeSupply
