import Mathlib
import NodeSupply.Rest.Client

/-!
# Pages of node groups

The node groups of a folder come in pages.  The body of a page is an object; what it lists is read
as documents about node groups, all of them together, and it may name the next page.

## Main definitions

* `GroupDocument.listedGroups` : the groups of a page.
* `GroupPage` : a page as it arrives.
* `GroupPage.Linked` : each page but the last one leads to the next.

## Main statements

* `GroupDocument.mapM_ofJson?` : items are read together if each of them reads.
* `GroupPage.page?_members` : what a page is read as.
* `Rest.send_eq` : a request that can be written down gets the next response.
-/

namespace NodeSupply

/-- A client that reaches all services at one address. -/
def RestClient.small : RestClient where
  token := "token"
  cluster := "home"
  endpoints := ⟨"http://[::1]", "http://[::1]", "http://[::1]"⟩
  requestTimeout := 2

theorem RestClient.isHeaderText_small : isHeaderText small.authorization = true := by decide

theorem RestClient.isSome_small_groupsAddress :
    (Url.parse? small.groupsAddress).isSome = true := by cbv

/-! ### Pages -/

/-- Items are read together if each of them reads. -/
theorem GroupDocument.mapM_ofJson? (items : List Json) : items.mapM GroupDocument.ofJson? =
    if items.all fun item => (GroupDocument.ofJson? item).isSome then
      some (items.filterMap GroupDocument.ofJson?)
    else none := by
  induction items with
  | nil => rfl
  | cons item items ih =>
    rw [List.mapM_cons, ih, List.all_cons, List.filterMap_cons]
    cases GroupDocument.ofJson? item with
    | none => rfl
    | some d =>
      rw [Option.isSome_some, Bool.true_and]
      split <;> rfl

/-- The groups of a page for the cluster of a client.  Of the documents those count that name the
cluster and have the label of this library; one that is about no group is passed over. -/
def GroupDocument.listedGroups (home : String) (documents : List GroupDocument) : List NodeGroup :=
  (documents.filter fun d =>
    d.cluster == home && d.labels.get? "managed-by" == some "nodeplan").filterMap (·.group.toOption)

/-- A page of node groups as it arrives: its body is an object that lists items and may name the
next page; other members do not count. -/
structure GroupPage where
  /-- The time before it arrives. -/
  stall : Duration
  /-- The body that it arrives in. -/
  body : List UInt8
  /-- The members of the object. -/
  members : List (String × Json)
  /-- What is listed. -/
  items : List Json
  /-- The token of the next page; empty if there is none. -/
  token : String
  reads : Json.read? body = some (.object members)
  lists : members.filter (·.1 == "nodeGroups") = [("nodeGroups", .array items)]
  names : members.filter (·.1 == "nextPageToken") = [("nextPageToken", .text token)] ∨
    members.filter (·.1 == "nextPageToken") = [] ∧ token = ""

namespace GroupPage

/-- The response that a page arrives with. -/
def response (p : GroupPage) : Response := ⟨p.stall, .answered 200 (some p.body)⟩

/-- Each page but the last one leads to the next. -/
def Linked : List GroupPage → Prop
  | [] => False
  | [p] => p.token = ""
  | p :: q :: rest => p.token ≠ "" ∧ Linked (q :: rest)

/-- What a page is read as: all its items must read. -/
theorem page?_members (p : GroupPage) : GroupDocument.page? (.object p.members) =
    (p.items.mapM GroupDocument.ofJson?).map (·, p.token) := by
  have hrecord : Json.record? ["nodeGroups", "nextPageToken"] (.object p.members) =
      some ⟨false, [some (.array p.items),
        ((p.members.filter (·.1 == "nextPageToken")).map (·.2)).head?]⟩ := by
    rcases p.names with h | ⟨h, -⟩ <;> simp [Json.record?, p.lists, h]
  have htoken : (Json.Members.mk false [some (.array p.items),
      ((p.members.filter (·.1 == "nextPageToken")).map (·.2)).head?]).optional 1 ""
        Json.string? = some p.token := by
    rcases p.names with h | ⟨h, hempty⟩
    · rw [h]
      rfl
    · rw [h, hempty]
      rfl
  rw [GroupDocument.page?, hrecord]
  simp only [Option.bind_eq_bind, Option.bind_some, htoken]
  change (p.items.mapM GroupDocument.ofJson?).bind (fun documents => some (documents, p.token)) = _
  cases p.items.mapM GroupDocument.ofJson? <;> rfl

/-- A group of another cluster, without an id. -/
def foreign : Json := .object [("clusterId", .text "other")]

/-- A group called `node` that was made here, with more members. -/
def ours (members : List (String × Json)) : Json :=
  .object (("id", .text "group") :: ("name", .text "node") :: ("clusterId", .text "home") ::
    ("labels", .object [("managed-by", .text "nodeplan")]) :: members)

/-- How the nodes of a group on full cores are made. -/
def fullCores : String × Json :=
  ("nodeTemplate", .object [("resourcesSpec", .object [("coreFraction", .integer 100)])])

/-- The text of the members of `ours`. -/
def oursText : List Char :=
  "\"id\":\"group\",\"name\":\"node\",\"clusterId\":\"home\",".toList ++
    "\"labels\":\x7b\"managed-by\":\"nodeplan\"\x7d".toList

/-- The text of `fullCores`. -/
def fullCoresText : List Char :=
  "\"nodeTemplate\":\x7b\"resourcesSpec\":\x7b\"coreFraction\":100\x7d\x7d".toList

/-- The bytes of plain characters. -/
def bytes (text : List Char) : List UInt8 := text.map fun c => UInt8.ofNat c.toNat

/-- The bytes of `small`. -/
def smallBody : List UInt8 :=
  bytes ("\x7b\"nodeGroups\":[\x7b\"clusterId\":\"other\"\x7d,\x7b".toList ++ oursText ++
    ",".toList ++ fullCoresText ++ "\x7d]\x7d".toList)

/-- A page with a group of another cluster and with one that was made here. -/
def small : GroupPage where
  stall := 0
  body := smallBody
  members := [("nodeGroups", .array [foreign, ours [fullCores]])]
  items := [foreign, ours [fullCores]]
  token := ""
  reads := by cbv
  lists := rfl
  names := .inr ⟨rfl, rfl⟩

end GroupPage

namespace Rest

/-- A request that can be written down gets the next response, if that does not take too long. -/
theorem send_eq {s : Rest} {r : Response} {rest : List Response} (now : Instant)
    (method : HttpMethod) {address : String} (query : List (String × String)) (body : Option Json)
    (written : (Url.parse? address).isSome = true)
    (header : isHeaderText s.client.authorization = true)
    (scripted : s.service.responses = r :: rest) (timely : r.stall ≤ s.client.requestTimeout) :
    ∃ q, q.method = method ∧ s.send now method address query body =
      (⟨now + r.stall, .ok r.delivery⟩,
        { s with service := ⟨rest, s.service.afterwards, q :: s.service.requests⟩ }) := by
  obtain ⟨url, hurl⟩ := Option.isSome_iff_exists.1 written
  have harrives : ∀ url, WebService.exchange now s.client.requestTimeout url r =
      ⟨now + r.stall, .ok r.delivery⟩ := fun _ => if_neg (Nat.not_lt.2 timely)
  simp only [send, hurl, header, if_true, WebService.send, scripted, List.head?_cons,
    Option.getD_some, List.tail_cons, harrives]
  exact ⟨_, rfl, rfl⟩

end Rest

end NodeSupply
