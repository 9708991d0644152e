import NodeSupply.Json.Reader
import NodeSupply.Lock.Fair
import NodeSupply.Rest.Documents
import NodeSupply.Rest.Http

/-!
# The provider over the web

A provider that is reached by web requests.  What is known about the cluster is asked for once: those
who need it wait in line while the first of them asks, and if that fails the next one does.  Long
lists come in pages, which are asked for one after the other.

## Main definitions

* `RestClient` : who asks, and where.
* `Rest` : a client with its service and what it knows about the cluster.
* `Rest.Stage` : a call under way.
* The instance of `Provider`.
-/

namespace NodeSupply

/-- Where the services of the provider are. -/
structure Endpoints where
  /-- Clusters and node groups. -/
  mks : String
  /-- Networks. -/
  vpc : String
  /-- Compute instances. -/
  compute : String
deriving Repr, DecidableEq

/-- Who asks the provider, and where. -/
structure RestClient where
  /-- The token that it shows. -/
  token : String
  /-- The cluster that it works for. -/
  cluster : String
  /-- Where the services are. -/
  endpoints : Endpoints
  /-- The time that a request may take. -/
  requestTimeout : Duration
deriving Repr, DecidableEq

namespace RestClient

/-- The text of a client, without its token. -/
def text (c : RestClient) : String :=
  "YandexApi \x7b cluster_id: " ++ Text.quote c.cluster ++ ", endpoints: Endpoints \x7b mks: "
    ++ Text.quote c.endpoints.mks ++ ", vpc: " ++ Text.quote c.endpoints.vpc ++ ", compute: "
    ++ Text.quote c.endpoints.compute ++ " \x7d, .. \x7d"

/-- The text of the authorization header. -/
def authorization (c : RestClient) : String := "Bearer " ++ c.token

/-- The address of the cluster. -/
def clusterAddress (c : RestClient) : String := c.endpoints.mks ++ "/clusters/" ++ c.cluster

/-- The address of the node groups. -/
def groupsAddress (c : RestClient) : String := c.endpoints.mks ++ "/nodeGroups"

/-- The address of a node group. -/
def groupAddress (c : RestClient) (id : NodeGroupId) : String := c.groupsAddress ++ "/" ++ id

/-- The query parameters of a page. -/
def pageQuery (token : String) : List (String × String) :=
  [("pageSize", "1000"), ("pageToken", token)]

end RestClient

/-- A page of a long answer. -/
structure PageAddress where
  /-- The address of the answer. -/
  address : String
  /-- The query parameters that name the page. -/
  query : List (String × String)
deriving Repr, DecidableEq

/-- The page of a token of the node groups in a folder. -/
def RestClient.groupsPage (c : RestClient) (folder token : String) : PageAddress :=
  ⟨c.groupsAddress, ("folderId", folder) :: pageQuery token⟩

/-- The page of a token of the operations recorded for a group. -/
def RestClient.operationsPage (c : RestClient) (id : NodeGroupId) (token : String) : PageAddress :=
  ⟨c.groupAddress id ++ "/operations", pageQuery token⟩

/-- A client with its service and what it knows about the cluster. -/
structure Rest where
  /-- The client. -/
  client : RestClient
  /-- The service. -/
  service : WebService
  /-- What is known about the cluster. -/
  info : Option ClusterInfo
  /-- Those who wait for what is not known about the cluster; the first of them asks. -/
  line : FairLock Nat
  /-- The number of the next one in the line. -/
  next : Nat

namespace Rest

/-- A client that has asked nothing of a service. -/
def begin (client : RestClient) (service : WebService) : Rest := ⟨client, service, none, .idle, 0⟩

/-- Sends a request; one that cannot be written down gets no answer. -/
def send (s : Rest) (now : Instant) (method : HttpMethod) (address : String)
    (query : List (String × String)) (body : Option Json) : Exchange × Rest :=
  match Url.parse? address with
  | none => (WebService.failed now, s)
  | some url =>
    if isHeaderText s.client.authorization then
      let url := url.withoutCredentials
      let url := if query.isEmpty then url else url.addQuery query
      let (exchange, service) := s.service.send now s.client.requestTimeout
        ⟨method, url, headerValue s.client.authorization, body⟩
      (exchange, { s with service })
    else (WebService.failed now, s)

/-! ### Reading answers -/

/-- What is said about a document that cannot be read. -/
def documentText : String := "<json>"

/-- The body of an answer about a resource.  A missing resource is told by the status alone. -/
def readBody (resource id : String) :
    Except ProviderError Delivery → Except ProviderError (List UInt8)
  | .error e => .error e
  | .ok .lost => .error (.transport WebService.lostText)
  | .ok (.answered status body) =>
    if status = 404 then .error (.notFound resource id)
    else
      match body with
      | none => .error (.transport WebService.lostText)
      | some bytes =>
        if 200 ≤ status ∧ status < 300 then .ok bytes
        else .error (.refused (UInt16.ofNat status) (Utf8.decodeLossy bytes))

/-- The document in an answer about a resource. -/
def readDocument (resource id : String) (decode : Json → Option α)
    (outcome : Except ProviderError Delivery) : Except ProviderError α := do
  let bytes ← readBody resource id outcome
  match (Json.read? bytes).bind decode with
  | some a => return a
  | none => throw (.undecodable resource documentText)

/-! ### Calls -/

/-- The calls that need to know about the cluster. -/
inductive ClusterUse : Request → Type where
  /-- Its network is the answer. -/
  | network : ClusterUse .clusterNetwork
  /-- Its folder is where the node groups are. -/
  | folder : ClusterUse .nodeGroups

/-- What a call has when it asks for its answer or for a page of it: what the earlier pages gave.
The network of the cluster is not asked for in this way. -/
abbrev Earlier : Request → Type
  | .clusterNetwork => Empty
  | .nodeGroups => String × List NodeGroup
  | .operations _ => List GroupOperation
  | _ => Unit

/-- A call under way. -/
inductive Stage (r : Request) where
  /-- It needs to know about the cluster. -/
  | queued (use : ClusterUse r) (number : Nat)
  /-- It asks about the cluster. -/
  | describing (use : ClusterUse r) (number : Nat) (x : Exchange)
  /-- It asks for its answer, or for the next page of it. -/
  | reading (x : Exchange) (earlier : Earlier r)

/-- How a call goes on from an answer. -/
inductive Next (r : Request) where
  /-- It is finished. -/
  | finished (outcome : r.Outcome)
  /-- It asks for a page. -/
  | page (next : PageAddress) (earlier : Earlier r)

/-- On from a page: to the one of a token, unless the token is empty. -/
def turnPage {r : Request} (token : String) (page : String → PageAddress) (earlier : Earlier r)
    (reply : r.Reply) : Next r :=
  if token = "" then .finished (.ok reply) else .page (page token) earlier

/-- On from an answer. -/
def readAnswer (c : RestClient) :
    (r : Request) → Earlier r → Except ProviderError Delivery → Next r
  | .clusterNetwork, earlier, _ => nomatch earlier
  | .subnet id, (), x => .finished (readDocument "subnet" id Subnet.ofJson? x)
  | .securityGroup id, (), x =>
    .finished (readDocument "security group" id SecurityGroup.ofJson? x)
  | .nodeGroups, (folder, earlier), x =>
    match readDocument "node groups" folder GroupDocument.page? x with
    | .error e => .finished (.error e)
    | .ok (documents, token) =>
      let groups := earlier ++ GroupDocument.managedGroups c.cluster documents
      turnPage token (c.groupsPage folder) (folder, groups) groups
  | .nodeGroup id, (), x =>
    .finished ((readDocument "node group" id GroupDocument.ofJson? x).bind (·.group))
  | .createNodeGroup spec, (), x =>
    .finished (do
      let d ← readDocument "cluster" spec.cluster OperationDocument.ofJson? x
      (← d.accepted).newGroup)
  | .deleteNodeGroup id, (), x =>
    .finished (do
      let d ← readDocument "node group" id OperationDocument.ofJson? x
      let _ ← d.accepted
      return ())
  | .operations id, earlier, x =>
    match readDocument "node group" id OperationDocument.page? x with
    | .error e => .finished (.error e)
    | .ok (documents, token) =>
      let operations := earlier ++ documents.map OperationDocument.operation
      turnPage token (c.operationsPage id) operations operations
  | .instanceOf id, (), x => .finished (readDocument "node group" id firstInstance? x)
  | .ownerOf instanceId, (), x => .finished (readDocument "instance" instanceId owner? x)

/-- Asks for a page. -/
def askPage (s : Rest) (now : Instant) (p : PageAddress) : Exchange × Rest :=
  s.send now .get p.address p.query none

/-- A call takes its place among those who need to know about the cluster. -/
def enterLine (s : Rest) {r : Request} (use : ClusterUse r) : Stage r × Rest :=
  (.queued use s.next, { s with line := s.line.enter s.next, next := s.next + 1 })

/-- A call waits for an answer. -/
def await {r : Request} (earlier : Earlier r) (sent : Exchange × Rest) : Stage r × Rest :=
  (.reading sent.1 earlier, sent.2)

/-- Starts a call. -/
def start (s : Rest) (now : Instant) : (r : Request) → Stage r × Rest
  | .clusterNetwork => s.enterLine .network
  | .nodeGroups => s.enterLine .folder
  | .subnet id => await () (s.send now .get (s.client.endpoints.vpc ++ "/subnets/" ++ id) [] none)
  | .securityGroup id =>
    await () (s.send now .get (s.client.endpoints.vpc ++ "/securityGroups/" ++ id) [] none)
  | .nodeGroup id => await () (s.send now .get (s.client.groupAddress id) [] none)
  | .createNodeGroup spec =>
    await () (s.send now .post s.client.groupsAddress [] (some spec.document))
  | .deleteNodeGroup id => await () (s.send now .delete (s.client.groupAddress id) [] none)
  | .operations id => await [] (s.askPage now (s.client.operationsPage id ""))
  | .instanceOf id => await () (s.send now .get (s.client.groupAddress id ++ "/nodes") [] none)
  | .ownerOf instanceId =>
    await () (s.send now .get (s.client.endpoints.compute ++ "/instances/" ++ instanceId)
      [("view", "BASIC")] none)

/-- On from what is known about the cluster. -/
def afterInfo (s : Rest) (now : Instant) (info : ClusterInfo) {r : Request} :
    ClusterUse r → Progress Rest (Stage r) r.Outcome
  | .network => .finished (.ok info.network) s
  | .folder =>
    let (stage, s) := await (r := .nodeGroups) (info.folder, [])
      (s.askPage now (s.client.groupsPage info.folder ""))
    .moved stage s

/-- Looks at a call. -/
def look (s : Rest) (now : Instant) (r : Request) : Stage r → Progress Rest (Stage r) r.Outcome
  | .queued use number =>
    match s.info with
    | some info => { s with line := s.line.leave number }.afterInfo now info use
    | none =>
      if s.line.isHeldBy number then
        let (x, s) := s.send now .get s.client.clusterAddress [] none
        .moved (.describing use number x) s
      else .waiting
  | .describing use number x =>
    if now < x.due then .waiting
    else
      let s := { s with line := s.line.leave number }
      match readDocument "cluster" s.client.cluster ClusterInfo.ofJson? x.outcome with
      | .error e => .finished (.error e) s
      | .ok info => { s with info := some info }.afterInfo now info use
  | .reading x earlier =>
    if now < x.due then .waiting
    else
      match readAnswer s.client r earlier x.outcome with
      | .finished outcome => .finished outcome s
      | .page next earlier =>
        let (stage, s) := await earlier (s.askPage now next)
        .moved stage s

/-- When something is known about a call. -/
def Stage.due? {r : Request} : Stage r → Option Instant
  | queued .. => none
  | describing _ _ x => some x.due
  | reading x _ => some x.due

/-- Gives a call up: its place in the line is free. -/
def abandon {r : Request} (s : Rest) : Stage r → Rest
  | .queued _ number => { s with line := s.line.leave number }
  | .describing _ number _ => { s with line := s.line.leave number }
  | .reading .. => s

instance : Provider Rest where
  Pending := Stage
  start := start
  look := look
  due? := Stage.due?
  abandon := abandon

end Rest

end NodeSupply
