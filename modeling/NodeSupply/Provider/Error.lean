import NodeSupply.Text.Numeral

/-!
# Failures of the provider

Why a call of the provider gave no answer, what is said about it, and whether it may help to call
again.
-/

namespace NodeSupply

/-- Why a call of the provider failed. -/
inductive ProviderError where
  /-- There is no such resource. -/
  | notFound (resource id : String)
  /-- The call took longer than it was given. -/
  | timedOut (operation : String)
  /-- No answer came. -/
  | transport (message : String)
  /-- The provider refused. -/
  | refused (status : UInt16) (message : String)
  /-- The answer could not be understood. -/
  | undecodable (what message : String)
deriving Repr, DecidableEq

namespace ProviderError

/-- What is said about a failure. -/
def message : ProviderError → String
  | notFound resource id => resource ++ " " ++ id ++ " not found"
  | timedOut operation => operation ++ " timed out"
  | transport message => "transport error: " ++ message
  | refused status message =>
    "provider returned HTTP " ++ Numeral.text status.toNat ++ ": " ++ message
  | undecodable what message => "failed to decode " ++ what ++ ": " ++ message

/-- Whether a failure says that the resource is not there. -/
def isNotFound : ProviderError → Bool
  | notFound .. => true
  | _ => false

/-- Whether calling again may help.  A refusal that blames the caller is final, unless it asks the
caller to slow down. -/
def isRetryable : ProviderError → Bool
  | timedOut _ => true
  | transport _ => true
  | refused status _ => !(400 ≤ status && status < 500) || status == 429
  | notFound .. => false
  | undecodable .. => false

end ProviderError

end NodeSupply
