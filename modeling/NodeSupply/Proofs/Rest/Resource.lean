import NodeSupply.Proofs.Provider.Instances
import NodeSupply.Proofs.Rest.GroupPage
import NodeSupply.Proofs.Rest.Place
import NodeSupply.Proofs.Rest.Requests

/-!
# Resources and their addresses

A client asks for a resource by an address that ends in the id of the resource, or in the name of a
part of it.  The id is written into the address as it is.  So the address is that of the resource
only for an id that is one segment of a path and is read as itself; any other id leads elsewhere,
though never to another server.

## Main definitions

* `Resource` : a resource that a client asks for, and its address.
* `Resource.StandsAlone` : an id that leads to the resource.
* `Url.IsOf` : an address of a resource.
* `RestClient.resource?` : the resource that a call is about.
* `RestClient.Asks` : the requests that are sent in the course of a call.

## Main statements

* `Url.exists_segment_iff` : which ids come back as a segment that is read as the id.
* `RestClient.Asks.exists_parse?` : the address of all requests of a call.
* `RestClient.Asks.isOf_iff` : which requests go to the resource.
* `RestClient.addresses_own_resource_iff` : which ids lead to the resource.
-/

namespace NodeSupply

open Utf8 (bytes)

/-! ### Ids in paths -/

namespace Url

/-- Text, and a name behind a slash if there is one. -/
def withName (cs : List Char) (name : Option String) : List Char :=
  cs ++ name.elim [] fun name => '/' :: name.toList

/-- Text behind a mark does not belong to the path. -/
theorem pathPart_append_of_not_unmarked {xs : List Char} (h : ¬ Unmarked xs) (ys : List Char) :
    pathPart (xs ++ ys) = pathPart xs := by
  by_cases hash : '#' ∈ xs
  · rw [pathPart, pathPart, fst_cut_append hash]
  · have mark : '?' ∈ xs := not_not.1 fun mark => h ⟨hash, mark⟩
    rw [pathPart, pathPart, cut_append hash, fst_cut_append mark, cut_of_not_mem hash]

theorem mem_segmentsOf_pathPart_append {xs ys : List Char} {segment : String}
    (h : segment ∈ segmentsOf (pathPart (xs ++ '/' :: ys))) :
    segment ∈ segmentsOf (pathPart xs) ∨ segment ∈ segmentsOf (pathPart ys) := by
  by_cases unmarked : Unmarked xs
  · have hsplit : pathPart (xs ++ '/' :: ys) = xs ++ '/' :: pathPart ys := by
      simpa using pathPart_append unmarked.append_slash ys
    rw [hsplit, segmentsOf_append, List.mem_append] at h
    rwa [pathPart_eq_self unmarked]
  · rw [pathPart_append_of_not_unmarked unmarked] at h
    exact .inl h

/-- A segment that is there when dots are resolved was there before. -/
theorem mem_of_resolveDots_eq {above segments rest : List String} {segment : String}
    (h : resolveDots above segments = above ++ segment :: rest) (nonempty : segment ≠ "") :
    segment ∈ segments ∧ isDots segment = false := by
  have hmem : segment ∈ (resolveDots above segments).drop above.length := by
    rw [h, List.drop_left]
    exact List.mem_cons_self
  rcases mem_drop_resolveDots hmem with habove | hempty | hnew
  · rw [List.drop_length] at habove
    cases habove
  · exact absurd hempty nonempty
  · exact hnew

section Names

variable {cs : List Char} {part : Option String} (letters : ∀ name ∈ part, IsName name)
include letters

/-- The way of a segment into a path. -/
theorem segmentsOf_withName (h : IsSegment cs)
    (ends : part = none → ∀ c, cs.getLast? = some c → isEnd c = false) :
    segmentsOf (pathPart (tidyEnd (withName cs part))) =
      String.ofList (encoded cs) :: part.toList := by
  cases part with
  | none =>
    rw [withName, Option.elim_none, List.append_nil, tidyEnd_eq_self_iff.2 ⟨h.kept, ends rfl⟩,
      pathPart_eq_self h.unmarked, h.segmentsOf_eq]
    rfl
  | some name =>
    have hname : IsName name := letters name rfl
    have hunmarked : Unmarked (cs ++ '/' :: name.toList) :=
      unmarked_append_cons_iff.2 ⟨h.unmarked, hname.isSegment.unmarked⟩
    rw [withName, Option.elim_some, tidyEnd_append, List.filter_eq_self.2 h.kept,
      hname.tidyEnd_eq, pathPart_eq_self hunmarked, segmentsOf_append, h.segmentsOf_eq,
      hname.segmentsOf_eq]
    rfl

/-- The way back from a path. -/
theorem isSegment_of_mem_withName {segment : String}
    (mem : segment ∈ segmentsOf (pathPart (tidyEnd (withName cs part))))
    (plain : isDots segment = false)
    (read : Host.percentDecode (Utf8.encode segment) = bytes cs) :
    IsSegment cs ∧ (part = none → ∀ c, cs.getLast? = some c → isEnd c = false) := by
  cases part with
  | none =>
    rw [withName, Option.elim_none, List.append_nil] at mem
    obtain ⟨hcs, htidy⟩ := isSegment_of_mem (tidyEnd_sublist cs)
      (fun c => isKept_of_mem_tidyEnd) mem plain read
    exact ⟨hcs, fun _ => (tidyEnd_eq_self_iff.1 htidy).2⟩
  | some name =>
    refine ⟨?_, nofun⟩
    have hname : IsName name := letters name rfl
    rw [withName, Option.elim_some, tidyEnd_append] at mem
    rcases mem_segmentsOf_pathPart_append mem with hid | hpart
    · exact (isSegment_of_mem List.filter_sublist (fun c hc => (List.mem_filter.1 hc).2) hid
        plain read).1
    · -- The text is the name.
      rw [hname.tidyEnd_eq, pathPart_eq_self hname.isSegment.unmarked, hname.segmentsOf_eq,
        List.mem_singleton] at hpart
      have hself := hname.isSegment.percentDecode_eq
      rw [hname.encoded_eq, String.ofList_toList, ← hpart, read] at hself
      obtain rfl := Utf8.bytes_inj hself
      exact hpart ▸ hname.isSegment

/-- Which ids come back as a segment that is read as the id. -/
theorem exists_segment_iff (nonempty : cs ≠ []) (above : List String) :
    (∃ segment, resolveDots above (segmentsOf (pathPart (tidyEnd (withName cs part)))) =
        above ++ segment :: part.toList ∧
      Host.percentDecode (Utf8.encode segment) = bytes cs) ↔
    IsSegment cs ∧ (part = none → ∀ c, cs.getLast? = some c → isEnd c = false) := by
  constructor
  · rintro ⟨segment, hpath, hread⟩
    have hsegment : segment ≠ "" := by
      rintro rfl
      rw [Utf8.encode_eq] at hread
      exact nonempty (Utf8.bytes_inj hread.symm)
    obtain ⟨hmem, hplain⟩ := mem_of_resolveDots_eq hpath hsegment
    exact isSegment_of_mem_withName letters hmem hplain hread
  · rintro ⟨hcs, hends⟩
    refine ⟨String.ofList (encoded cs), ?_, hcs.percentDecode_eq⟩
    rw [segmentsOf_withName letters hcs hends]
    refine resolveDots_of_plain (fun s hs => ?_) above
    rcases List.mem_cons.1 hs with rfl | hs
    · exact hcs.isDots_eq_false
    · exact (letters s (Option.mem_toList.1 hs)).isDots_eq_false

end Names

end Url

/-! ### Resources -/

/-- A resource that a client asks for. -/
@[ext] structure Resource where
  /-- The place of its collection. -/
  place : String
  /-- The name of its collection. -/
  collection : String
  /-- Its id. -/
  id : String
  /-- The name of the part of it that is asked for, unless it is all of it. -/
  part : Option String
deriving Repr, DecidableEq

namespace Resource

/-- The address that a resource is asked for by. -/
def address (x : Resource) : String :=
  x.place ++ "/" ++ x.collection ++ "/" ++ (x.id ++ x.part.elim "" ("/" ++ ·))

/-- The id is one segment that is read as the id.  Where nothing follows it, it must not end in
what does not count at the end of an address. -/
def StandsAlone (x : Resource) : Prop :=
  Url.IsSegment x.id.toList ∧
    (x.part = none → ∀ c, x.id.toList.getLast? = some c → Url.isEnd c = false)

end Resource

/-- The path is that of the place, the collection and a segment that is read as the id, and then the
part that is asked for. -/
def Url.IsOf (u base : Url) (x : Resource) : Prop :=
  ∃ segment, u.path = base.path.dropLast ++ x.collection :: segment :: x.part.toList ∧
    Host.percentDecode (Utf8.encode segment) = Utf8.encode x.id

namespace Resource

/-- The address of a resource leads to the server of its place. -/
theorem exists_parse?_address {x : Resource} {base : Url} (place : Url.IsPlace x.place base)
    (letters : Url.IsName x.collection) :
    ∃ u, Url.parse? x.address = some u ∧ u.server = base.server ∧
      u.path = Url.resolveDots (base.path.dropLast ++ [x.collection])
        (Url.segmentsOf (Url.pathPart (Url.tidyEnd (Url.withName x.id.toList x.part)))) := by
  rw [address, (place.append letters).parse?_append]
  refine ⟨_, rfl, Url.server_below .., ?_⟩
  have hrest : (x.id ++ x.part.elim "" ("/" ++ ·)).toList = Url.withName x.id.toList x.part := by
    rw [Url.withName, String.toList_append]
    cases x.part <;> simp
  have habove : (base.path.dropLast ++ [x.collection, ""]).dropLast =
      base.path.dropLast ++ [x.collection] := by simp
  rw [Url.path_below, hrest, habove]

/-- Which ids lead to the resource. -/
theorem isOf_iff {x : Resource} (named : x.id ≠ "") (letters : ∀ name ∈ x.part, Url.IsName name)
    {u base : Url} (path : u.path = Url.resolveDots (base.path.dropLast ++ [x.collection])
      (Url.segmentsOf (Url.pathPart (Url.tidyEnd (Url.withName x.id.toList x.part))))) :
    u.IsOf base x ↔ x.StandsAlone := by
  have hid : x.id.toList ≠ [] := fun h => named (String.toList_inj.1 h)
  rw [StandsAlone, ← Url.exists_segment_iff letters hid (base.path.dropLast ++ [x.collection])]
  simp only [Url.IsOf, path, Utf8.encode_eq x.id, List.append_assoc, List.singleton_append]

/-- Different resources of a place have different addresses. -/
theorem eq_of_isOf {x x' : Resource} {u base : Url} (h : u.IsOf base x) (h' : u.IsOf base x')
    (same : x.place = x'.place) : x = x' := by
  obtain ⟨segment, hpath, hread⟩ := h
  obtain ⟨segment', hpath', hread'⟩ := h'
  obtain ⟨hcollection, hrest⟩ :=
    List.cons.inj (List.append_cancel_left (hpath.symm.trans hpath'))
  obtain ⟨rfl, hpart⟩ := List.cons.inj hrest
  exact Resource.ext same hcollection (Utf8.encode_inj (hread.symm.trans hread'))
    (by simpa using congrArg List.head? hpart)

end Resource

/-! ### Calls -/

/-- The resource that a call is about, if it is about one that has an id. -/
def RestClient.resource? (c : RestClient) : Request → Option Resource
  | .clusterNetwork => none
  | .nodeGroups => none
  | .createNodeGroup _ => none
  | .subnet id => some ⟨c.endpoints.vpc, "subnets", id, none⟩
  | .securityGroup id => some ⟨c.endpoints.vpc, "securityGroups", id, none⟩
  | .nodeGroup id => some ⟨c.endpoints.mks, "nodeGroups", id, none⟩
  | .deleteNodeGroup id => some ⟨c.endpoints.mks, "nodeGroups", id, none⟩
  | .operations id => some ⟨c.endpoints.mks, "nodeGroups", id, some "operations"⟩
  | .instanceOf id => some ⟨c.endpoints.mks, "nodeGroups", id, some "nodes"⟩
  | .ownerOf instanceId => some ⟨c.endpoints.compute, "instances", instanceId, none⟩

/-- The requests that a client sends in the course of a call. -/
inductive RestClient.Asks (c : RestClient) (r : Request) (q : HttpRequest) : Prop where
  /-- Where the call starts. -/
  | start (s : Rest) (now : Instant) (client : s.client = c)
      (sends : (s.start now r).2.service.requests = q :: s.service.requests)
  /-- Where the call goes on. -/
  | look (s : Rest) (now : Instant) (stage : Rest.Stage r) (client : s.client = c)
      (sends : ((s.look now r stage).state s).service.requests = q :: s.service.requests)

theorem RestClient.isName_of_resource? {c : RestClient} {r : Request} {x : Resource}
    (names : c.resource? r = some x) :
    Url.IsName x.collection ∧ ∀ name ∈ x.part, Url.IsName name := by
  have hall : ∀ name ∈ ["subnets", "securityGroups", "nodeGroups", "instances", "operations",
      "nodes"], Url.IsName name := by decide
  cases r <;> cases names <;>
    exact ⟨hall _ (by simp), fun name hname => hall name (by cases hname <;> simp)⟩

namespace Rest

/-- What is sent if the address and the header can be written down. -/
theorem requests_send {s : Rest} {address : String} {u : Url} (hu : Url.parse? address = some u)
    (header : isHeaderText s.client.authorization = true) (now : Instant) (method : HttpMethod)
    (query : List (String × String)) (body : Option Json) :
    (s.send now method address query body).2.service.requests =
      ⟨method, if query.isEmpty then u.withoutCredentials else u.withoutCredentials.addQuery query,
        headerValue s.client.authorization, body⟩ :: s.service.requests := by
  rw [send, hu]
  dsimp only
  rw [if_pos header]
  rfl

/-- A request is sent to the server and the path of its address. -/
theorem exists_parse?_of_send {s : Rest} {now : Instant} {method : HttpMethod} {address : String}
    {query : List (String × String)} {body : Option Json} {q : HttpRequest}
    (h : (s.send now method address query body).2.service.requests = q :: s.service.requests) :
    ∃ u, Url.parse? address = some u ∧ q.url.server = u.server ∧ q.url.path = u.path := by
  have hcredentials : ∀ u : Url, u.withoutCredentials.server = u.server ∧
      u.withoutCredentials.path = u.path := by
    intro u
    unfold Url.withoutCredentials
    split <;> exact ⟨rfl, rfl⟩
  have unsent : ∀ {s' : Rest}, s' = s → s'.service.requests ≠ q :: s.service.requests := by
    rintro s' rfl h
    exact List.cons_ne_self q _ h.symm
  cases hu : Url.parse? address with
  | none => exact absurd h (unsent (by rw [send, hu]))
  | some u =>
    by_cases header : isHeaderText s.client.authorization = true
    · rw [requests_send hu header] at h
      obtain rfl := (List.cons.inj h).1
      refine ⟨u, rfl, ?_⟩
      dsimp only
      split <;> exact hcredentials u
    · refine absurd h (unsent ?_)
      rw [send, hu]
      dsimp only
      rw [if_neg header]

/-- A call starts by asking for the address of its resource. -/
theorem exists_start_eq {s : Rest} {r : Request} {x : Resource}
    (names : s.client.resource? r = some x) (now : Instant) :
    ∃ method query, (s.start now r).2 = (s.send now method x.address query none).2 := by
  have hsend : ∀ {method query} {address address' : String}, address.toList = address'.toList →
      (s.send now method address query none).2 = (s.send now method address' query none).2 :=
    fun h => by rw [String.toList_inj.1 h]
  cases r with
  | clusterNetwork => cases names
  | nodeGroups => cases names
  | createNodeGroup spec => cases names
  | _ =>
    cases names
    simp only [start, await, askPage]
    refine ⟨_, _, hsend ?_⟩
    simp [Resource.address, RestClient.groupAddress, RestClient.groupsAddress,
      RestClient.operationsPage]

/-- All pages of an answer have the address of the resource. -/
theorem address_of_readAnswer {c : RestClient} {r : Request} {x : Resource}
    (names : c.resource? r = some x) {earlier earlier' : Earlier r}
    {outcome : Except ProviderError Delivery} {next : PageAddress}
    (h : readAnswer c r earlier outcome = .page next earlier') : next.address = x.address := by
  cases r with
  | operations id =>
    cases names
    simp only [readAnswer, turnPage] at h
    split at h
    next => cases h
    next =>
      split at h
      next => cases h
      next =>
        cases h
        rw [← String.toList_inj]
        simp [Resource.address, RestClient.groupAddress, RestClient.groupsAddress,
          RestClient.operationsPage]
  | clusterNetwork => cases names
  | nodeGroups => cases names
  | createNodeGroup spec => cases names
  | _ => cases h

end Rest

namespace RestClient

/-- All requests in the course of a call have the address of its resource. -/
theorem Asks.exists_parse? {c : RestClient} {r : Request} {q : HttpRequest} (h : c.Asks r q)
    {x : Resource} (names : c.resource? r = some x) :
    ∃ u, Url.parse? x.address = some u ∧ q.url.server = u.server ∧ q.url.path = u.path := by
  cases h with
  | start s now client sends =>
    subst client
    obtain ⟨method, query, hstart⟩ := Rest.exists_start_eq names now
    rw [hstart] at sends
    exact Rest.exists_parse?_of_send sends
  | look s now stage client sends =>
    subst client
    cases stage with
    | queued use number => cases use <;> cases names
    | describing use number x => cases use <;> cases names
    | reading x earlier =>
      rw [Rest.look] at sends
      split at sends
      next => exact absurd sends.symm (List.cons_ne_self q _)
      next =>
        split at sends
        next => exact absurd sends.symm (List.cons_ne_self q _)
        next page earlier' hpage =>
          have hask := Rest.address_of_readAnswer names hpage
          rw [← hask]
          exact Rest.exists_parse?_of_send sends

section Place

variable {c : RestClient} {r : Request} {x : Resource} {base : Url}

/-- A call about a resource below a place sends a request when it starts. -/
theorem exists_requests_start (names : c.resource? r = some x) (place : Url.IsPlace x.place base)
    (header : isHeaderText c.authorization = true) {s : Rest} (now : Instant)
    (client : s.client = c) : ∃ q, (s.start now r).2.service.requests = q :: s.service.requests := by
  subst client
  obtain ⟨method, query, hstart⟩ := Rest.exists_start_eq names now
  obtain ⟨u, hu, -⟩ := Resource.exists_parse?_address place (isName_of_resource? names).1
  rw [hstart]
  exact ⟨_, Rest.requests_send hu header now method query none⟩

/-- All requests of a call go to the server of the place, and to the resource if its id stands
alone. -/
theorem Asks.isOf_iff {q : HttpRequest} (asks : c.Asks r q) (names : c.resource? r = some x)
    (place : Url.IsPlace x.place base) (named : x.id ≠ "") :
    q.url.server = base.server ∧ (q.url.IsOf base x ↔ x.StandsAlone) := by
  obtain ⟨hcollection, hpart⟩ := isName_of_resource? names
  obtain ⟨u, hu, hserver, hpath⟩ := asks.exists_parse? names
  obtain ⟨v, hv, hserver', hpath'⟩ := Resource.exists_parse?_address place hcollection
  obtain rfl : u = v := Option.some.inj (hu.symm.trans hv)
  exact ⟨hserver.trans hserver', Resource.isOf_iff named hpart (hpath.trans hpath')⟩

/-- Which ids lead to the resource: a call about any resource asks the server of the place, but only
for an id that stands alone is the path that of the resource.  So different ids that stand alone
have different addresses.  Any id but the empty one may come from an external id. -/
theorem addresses_own_resource_iff {c : RestClient} {r : Request} {x : Resource}
    (names : c.resource? r = some x) {base : Url} (place : Url.IsPlace x.place base)
    (named : x.id ≠ "") :
    (isHeaderText c.authorization = true → ∀ (s : Rest) (now : Instant), s.client = c →
      ∃ q, (s.start now r).2.service.requests = q :: s.service.requests) ∧
    (∀ q, c.Asks r q → q.url.server = base.server ∧ (q.url.IsOf base x ↔ x.StandsAlone)) ∧
    (∀ r' x' q q', c.resource? r' = some x' → x'.place = x.place → x'.id ≠ "" →
      x.StandsAlone → x'.StandsAlone → c.Asks r q → c.Asks r' q' → q.url = q'.url → x = x') ∧
    ∃ p, ProviderId.parse? (ProviderId.forInstance x.id).text = some p ∧ p.instance_ = x.id := by
  refine ⟨fun header s now => exists_requests_start names place header now,
    fun q asks => asks.isOf_iff names place named, ?_,
    _, ProviderId.parse?_forInstance named, ProviderId.instance_forInstance x.id⟩
  intro r' x' q q' names' same named' alone alone' asks asks' hurl
  have place' : Url.IsPlace x'.place base := same ▸ place
  have hof := (asks.isOf_iff names place named).2.2 alone
  have hof' := (asks'.isOf_iff names' place' named').2.2 alone'
  exact Resource.eq_of_isOf hof (hurl ▸ hof') same.symm

end Place

/-- The address of the place where `small` finds all services. -/
def smallPlace : Url :=
  ⟨.http, "", none, .sixteen [0, 0, 0, 0, 0, 0, 0, 1], none, [""], none, none⟩

theorem isPlace_smallPlace : Url.IsPlace "http://[::1]" smallPlace := ⟨by cbv, rfl, rfl⟩

/-- The address of the group `other` there. -/
def otherAddress : Url := { smallPlace with path := ["nodeGroups", "other"] }

/-- The request to delete a group. -/
theorem asks_deletion (s : Rest) (header : isHeaderText s.client.authorization = true)
    {id : NodeGroupId} {u : Url} (hu : Url.parse? (s.client.groupAddress id) = some u) :
    s.client.Asks (.deleteNodeGroup id)
      ⟨.delete, u.withoutCredentials, headerValue s.client.authorization, none⟩ := by
  refine .start s 0 rfl ?_
  simp only [Rest.start, Rest.await]
  rw [Rest.requests_send hu header]
  rfl

/-- With an id that leads up and down again, another group is deleted than the one with that id. -/
theorem deletes_other_group : ∃ base q, Url.IsPlace "http://[::1]" base ∧ q.method = .delete ∧
    small.Asks (.deleteNodeGroup "mine/../other") q ∧ small.Asks (.deleteNodeGroup "other") q ∧
    q.url.IsOf base ⟨"http://[::1]", "nodeGroups", "other", none⟩ ∧
    ¬ q.url.IsOf base ⟨"http://[::1]", "nodeGroups", "mine/../other", none⟩ := by
  let s : Rest := .begin small ⟨[], ⟨0, .lost⟩, []⟩
  have mine : small.Asks (.deleteNodeGroup "mine/../other") _ :=
    asks_deletion (u := otherAddress) s isHeaderText_small (by cbv)
  have other : small.Asks (.deleteNodeGroup "other") _ :=
    asks_deletion (u := otherAddress) s isHeaderText_small (by cbv)
  have name : Url.IsName "other" := by decide
  refine ⟨smallPlace, _, isPlace_smallPlace, rfl, mine, other, ?_, fun hof => ?_⟩
  · have hiff := (addresses_own_resource_iff (c := small) (r := .deleteNodeGroup "other") rfl
      isPlace_smallPlace (by decide)).2.1 _ other
    exact hiff.2.2 ⟨name.isSegment, fun _ => (Url.tidyEnd_eq_self_iff.1 name.tidyEnd_eq).2⟩
  · have hiff := (addresses_own_resource_iff (c := small)
      (r := .deleteNodeGroup "mine/../other") rfl isPlace_smallPlace (by decide)).2.1 _ mine
    exact (hiff.2.1 hof).1.unslashed.1 (by decide)

end RestClient

end NodeSupply
