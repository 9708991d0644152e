import NodeSupply.Json.Value
import NodeSupply.Provider.Error
import NodeSupply.Rest.Url
import NodeSupply.Time

/-!
# Web requests

Requests to a web service, and a service that answers them by a script: each request takes the next
response, whether or not anyone is still there to read it.

## Main definitions

* `HttpRequest` : a request.
* `Delivery` : what arrives for it.
* `WebService.send` : a request is sent.
-/

namespace NodeSupply

/-- What a request wants. -/
inductive HttpMethod where
  /-- To read. -/
  | get
  /-- To add. -/
  | post
  /-- To delete. -/
  | delete
deriving Repr, DecidableEq

/-- The name of a method. -/
def HttpMethod.text : HttpMethod → String
  | get => "GET"
  | post => "POST"
  | delete => "DELETE"

/-- A request to a web service. -/
structure HttpRequest where
  /-- What it wants. -/
  method : HttpMethod
  /-- The address. -/
  url : Url
  /-- The text of the authorization header. -/
  authorization : String
  /-- The document that goes with it. -/
  body : Option Json

/-- What arrives for a request. -/
inductive Delivery where
  /-- Nothing. -/
  | lost
  /-- A status, and the body unless it was cut short. -/
  | answered (status : Nat) (body : Option (List UInt8))
deriving Repr, DecidableEq

/-- A response of a script. -/
structure Response where
  /-- The time before it arrives. -/
  stall : Duration
  /-- What arrives. -/
  delivery : Delivery
deriving Repr, DecidableEq

/-- A web service that answers by a script. -/
structure WebService where
  /-- The responses that are left. -/
  responses : List Response
  /-- The response when none is left. -/
  afterwards : Response
  /-- The requests so far, latest first. -/
  requests : List HttpRequest

/-- A request under way. -/
structure Exchange where
  /-- When something is known about it. -/
  due : Instant
  /-- What is known then. -/
  outcome : Except ProviderError Delivery

namespace WebService

/-- What is said about a request that got no answer. -/
def lostText : String := "<transport>"

/-- A request that gets no answer. -/
def failed (now : Instant) : Exchange := ⟨now, .error (.transport lostText)⟩

/-- What comes of a response to a request for an address, if it may take some time. -/
def exchange (now : Instant) (timeout : Duration) (url : Url) (r : Response) : Exchange :=
  if timeout < r.stall then ⟨now + timeout, .error (.timedOut url.text)⟩
  else ⟨now + r.stall, .ok r.delivery⟩

/-- A request is sent, and takes the next response. -/
def send (s : WebService) (now : Instant) (timeout : Duration) (r : HttpRequest) :
    Exchange × WebService :=
  (exchange now timeout r.url (s.responses.head?.getD s.afterwards),
    { s with responses := s.responses.tail, requests := r :: s.requests })

end WebService

/-- What arrives of the text of a header: the spaces and tabs at its end do not count. -/
def headerValue (s : String) : String :=
  String.ofList ((s.toList.reverse.dropWhile fun c => c == ' ' || c == '\t').reverse)

/-- Whether text can stand in a header: it has no controls but tabs. -/
def isHeaderText (s : String) : Bool :=
  s.toList.all fun c => (0x20 ≤ c.toNat && c.toNat != 0x7f) || c == '\t'

end NodeSupply
