import NodeSupply.Configuration.Basic
import NodeSupply.Configuration.Setting

/-!
# Configuration from environment variables

A variable is for a field if its name is `NODEPLAN_` and that of the field, in letters of any case.
Two underscores go down into a field, which is then a table of values.  A field takes only values of
its own kind, so text that looks like a number is no text.

## Main definitions

* `Environment.setting?` : what variables say about a field.
* `Configuration.ofEnvironment` : what is configured by variables.
-/

namespace NodeSupply

/-- The names and values of variables, in the order in which they count. -/
abbrev Environment := List (String × String)

namespace Environment

/-- What the name of a variable for this program begins with. -/
def namespaceMark : List Char := "NODEPLAN_".toList

/-- Text with dots for pairs of underscores. -/
def dotted : List Char → List Char
  | '_' :: '_' :: cs => '.' :: dotted cs
  | c :: cs => c :: dotted cs
  | [] => []

/-- The field that the name of a variable stands for, and the way down into it. -/
def place? (name : String) : Option (String × List String) :=
  let cs := Text.trimChars name.toList
  if (cs.take namespaceMark.length).map Char.toUpper = namespaceMark then
    let parts := Text.fields '.' (Text.trimChars (dotted (cs.drop namespaceMark.length)))
    if parts.any (·.isEmpty) then none
    else
      match parts.map fun part => String.ofList (part.map Char.toLower) with
      | [] => none
      | field :: way => some (field, way)
  else none

/-- What variables say about a field; the last of them counts. -/
def setting? (environment : Environment) (field : String) : Option Setting :=
  environment.reverse.findSome? fun (name, value) =>
    match place? name with
    | none => none
    | some (place, way) =>
      if place = field then some (if way.isEmpty then .ofText value else .table) else none

end Environment

namespace Configuration

/-- What is configured by variables.  Zones come after those of the region, if they are a list of
text; whether node classes pass without checks is not for variables to say. -/
def ofEnvironment (environment : Environment) : Except ConfigurationError Configuration :=
  let value {α : Type} (field : String) (kind : Setting → Option α) (default_ : α) :
      Except ConfigurationError α :=
    match environment.setting? field with
    | none => .ok default_
    | some s => (kind s).elim (.error .unreadable) .ok
  do
    return {
      iamToken := ← value "iam_token" Setting.text? standard.iamToken
      clusterId := ← value "cluster_id" Setting.text? standard.clusterId
      zones := standard.zones ++ ((environment.setting? "zones").bind Setting.texts?).getD []
      pollIntervalMs := ← value "poll_interval_ms" Setting.word? standard.pollIntervalMs
      resolveTimeoutSecs :=
        ← value "resolve_timeout_secs" Setting.word? standard.resolveTimeoutSecs
      callTimeoutSecs := ← value "call_timeout_secs" Setting.word? standard.callTimeoutSecs
      cacheTtlSecs := ← value "validation_cache_ttl_secs" Setting.word? standard.cacheTtlSecs
      requeueAfterSecs := ← value "requeue_after_secs" Setting.word? standard.requeueAfterSecs
      checksDisabled := standard.checksDisabled
      endpoints := {
        mks := ← value "mks_endpoint" Setting.text? standard.endpoints.mks
        vpc := ← value "vpc_endpoint" Setting.text? standard.endpoints.vpc
        compute := ← value "compute_endpoint" Setting.text? standard.endpoints.compute } }

end Configuration

end NodeSupply
