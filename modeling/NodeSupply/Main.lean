import NodeSupply.CommandLine.Report

/-!
# The command line

Plans and inspects managed node groups.  The program has no network of its own, so what it asks the
provider for gets no answer.
-/

namespace NodeSupply.CommandLine

/-- The service of a program without a network. -/
def unreachable : WebService := ⟨[], ⟨0, .lost⟩, []⟩

/-- The environment variables that are looked up, one for each field. -/
def environmentNames : List String :=
  ["IAM_TOKEN", "CLUSTER_ID", "ZONES", "POLL_INTERVAL_MS", "RESOLVE_TIMEOUT_SECS",
   "CALL_TIMEOUT_SECS", "VALIDATION_CACHE_TTL_SECS", "REQUEUE_AFTER_SECS", "MKS_ENDPOINT",
   "VPC_ENDPOINT", "COMPUTE_ENDPOINT"].map ("NODEPLAN_" ++ ·)

end NodeSupply.CommandLine

open NodeSupply in
/-- Runs the command that the arguments ask for. -/
def main (arguments : List String) : IO UInt32 := do
  match Command.ofArguments arguments with
  | .error .help => return 0
  | .error .misuse => return 2
  | .ok command =>
    let values ← CommandLine.environmentNames.mapM fun name => return (name, ← IO.getEnv name)
    let environment : Environment := values.filterMap fun (name, value) => value.map (name, ·)
    let draw ← IO.rand 0 0x3fffffff
    let (report, _) := command.report (.drawn draw) CommandLine.unreachable environment
    IO.print report.text
    match report.error with
    | none => return 0
    | some e =>
      IO.eprintln e.message
      return 1
