import NodeSupply.Proofs.Rest.Requests

/-!
# Answers that come in pages

Two calls get their answers in pages: the one for the node groups and the one for the operations
of a group.  Both ask for the first page without a token and for each later page with the token of
the page before it, until a page names no other or fails.  The items of all pages are the answer
then, or the failure alone is.

## Main definitions

* `Rest.Paging` : a call whose answer comes in pages.
* `Rest.Paging.groups`, `Rest.Paging.operations` : the two calls.
* `Rest.Paging.Script` : the responses to such a call, from the first page to the last one.
* `Rest.follow` : a call that is looked at whenever something is known about it.

## Main statements

* `Rest.Paging.look_reading` : what a look at a page comes to.
* `Rest.Paging.follow_reading` : what comes of a call and which requests it sends, page by page.
-/

namespace NodeSupply

/-- What arrives in response to a request does not depend on the time. -/
theorem WebService.outcome_exchange (now : Instant) (timeout : Duration) (url : Url)
    (r : Response) : (exchange now timeout url r).outcome = (exchange 0 timeout url r).outcome := by
  unfold exchange
  split <;> rfl

namespace Rest

/-- A call of a client whose answer comes in pages. -/
structure Paging (c : RestClient) (r : Request) (Item : Type) where
  /-- The address of the answer. -/
  address : String
  /-- The query parameters of the page of a token. -/
  query : String → List (String × String)
  /-- The items of a page that has arrived, and the token of the next one. -/
  read : Except ProviderError Delivery → Except ProviderError (List Item × String)
  /-- What the call has when it has gathered some items. -/
  earlier : List Item → Earlier r
  /-- The answer of some items. -/
  reply : List Item → r.Reply
  asks : ∀ token, (query token).isEmpty = false
  turns : ∀ items x, readAnswer c r (earlier items) x =
    match read x with
    | .error e => .finished (.error e)
    | .ok (found, token) =>
      turnPage token (⟨address, query ·⟩) (earlier (items ++ found)) (reply (items ++ found))

namespace Paging

variable {c : RestClient} {r : Request} {Item : Type}

/-- The call for the node groups in a folder; its items are the groups that were made here and can
be made out. -/
def groups (c : RestClient) (folder : String) : Paging c .nodeGroups NodeGroup where
  address := c.endpoints.mks ++ "/nodeGroups"
  query token := [("folderId", folder), ("pageSize", "1000"), ("pageToken", token)]
  read x := (readDocument "node groups" folder GroupDocument.page? x).map fun (documents, token) =>
    (GroupDocument.listedGroups c.cluster documents, token)
  earlier groups := (folder, groups)
  reply groups := groups
  asks _ := rfl
  turns items x := by
    rw [readAnswer]
    cases readDocument "node groups" folder GroupDocument.page? x <;> rfl

/-- The call for the operations of a group. -/
def operations (c : RestClient) (id : NodeGroupId) : Paging c (.operations id) GroupOperation where
  address := c.endpoints.mks ++ "/nodeGroups" ++ "/" ++ id ++ "/operations"
  query token := [("pageSize", "1000"), ("pageToken", token)]
  read x := (readDocument "node group" id OperationDocument.page? x).map fun (documents, token) =>
    (documents.map OperationDocument.operation, token)
  earlier operations := operations
  reply operations := operations
  asks _ := rfl
  turns items x := by
    rw [readAnswer]
    cases readDocument "node group" id OperationDocument.page? x <;> rfl

theorem read_operations (c : RestClient) (id : NodeGroupId) (x : Except ProviderError Delivery) :
    (operations c id).read x = (readDocument "node group" id OperationDocument.page? x).map
      fun (documents, token) => (documents.map OperationDocument.operation, token) := rfl

/-- The page of a token. -/
def page (g : Paging c r Item) (token : String) : PageAddress := ⟨g.address, g.query token⟩

/-- A look at a page that has arrived ends the call, or leads on to the next page. -/
theorem look_reading (g : Paging c r Item) {s : Rest} (client : s.client = c) {now : Instant}
    {x : Exchange} (due : x.due ≤ now) (items : List Item) :
    s.look now r (.reading x (g.earlier items)) =
      match g.read x.outcome with
      | .error e => .finished (.error e) s
      | .ok (found, token) =>
        if token = "" then .finished (.ok (g.reply (items ++ found))) s
        else
          let (x', s) := s.askPage now (g.page token)
          .moved (.reading x' (g.earlier (items ++ found))) s := by
  rw [look, if_neg (Nat.not_lt.2 due), client, g.turns]
  cases g.read x.outcome with
  | error e => rfl
  | ok page =>
    obtain ⟨found, token⟩ := page
    by_cases last : token = ""
    · simp only [turnPage, if_pos last]
    · simp only [turnPage, if_neg last]
      rfl

/-! ### Scripts -/

/-- The request for the page of a token. -/
def request (g : Paging c r Item) (url : Url) (token : String) : HttpRequest :=
  ⟨.get, url.withoutCredentials.addQuery (g.query token), headerValue c.authorization, none⟩

/-- What a response to the request for the page of a token comes to. -/
def arrives (g : Paging c r Item) (url : Url) (token : String) (response : Response) :
    Except ProviderError (List Item × String) :=
  g.read (WebService.exchange 0 c.requestTimeout (g.request url token).url response).outcome

/-- The response with a page that leads on to another one. -/
structure Page (g : Paging c r Item) where
  /-- The response. -/
  response : Response
  /-- The items of the page. -/
  items : List Item
  /-- The token of the next page. -/
  token : String
  timely : response.stall ≤ c.requestTimeout
  reads : g.read (.ok response.delivery) = .ok (items, token)
  onward : token ≠ ""

/-- The responses to a call: some pages that each lead on, and then a last one or a failure. -/
structure Script (g : Paging c r Item) (url : Url) where
  /-- The pages that lead on. -/
  pages : List g.Page
  /-- The response after these. -/
  ending : Response
  /-- The items of the last page, unless it fails. -/
  last : Except ProviderError (List Item)
  ends : g.arrives url ((pages.map (·.token)).getLastD "") ending = last.map (·, "")

namespace Script

variable {g : Paging c r Item} {url : Url}

/-- All responses. -/
def responses (script : g.Script url) : List Response :=
  script.pages.map (·.response) ++ [script.ending]

/-- The requests for the pages: without a token for the first one, and with the token of the page
before it for each later one. -/
def requests (script : g.Script url) : List HttpRequest :=
  ("" :: script.pages.map (·.token)).map (g.request url)

/-- The items of all pages in order, or the failure alone. -/
def answer (script : g.Script url) : r.Outcome :=
  script.last.map fun items => g.reply (script.pages.flatMap (·.items) ++ items)

end Script

end Paging

/-! ### Courses -/

/-- A call that is looked at whenever something is known about it, while nobody else uses the
client: what comes of it, and the client after that.  It is looked at only so many times. -/
def follow (r : Request) : Nat → Rest → Instant → Stage r → Option (r.Outcome × Rest)
  | 0, _, _, _ => none
  | looks + 1, s, now, stage =>
    let now := stage.due?.getD now
    match s.look now r stage with
    | .finished outcome s => some (outcome, s)
    | .moved stage s => follow r looks s now stage
    | .waiting => none

/-- The client after some more requests, earliest first, with some responses left. -/
def asked (s : Rest) (requests : List HttpRequest) (rest : List Response) : Rest :=
  { s with service := ⟨rest, s.service.afterwards, requests.reverse ++ s.service.requests⟩ }

/-- A call that has come to its end has done so for whoever looks at it more often. -/
theorem follow_of_le {r : Request} {looks looks' : Nat} (le : looks ≤ looks') {s : Rest}
    {now : Instant} {stage : Stage r} {end' : r.Outcome × Rest}
    (h : follow r looks s now stage = some end') : follow r looks' s now stage = some end' := by
  induction looks generalizing looks' s now stage with
  | zero => cases h
  | succ looks ih =>
    obtain ⟨more, rfl⟩ := Nat.exists_eq_add_of_le' (Nat.le_trans (Nat.le_add_left 1 looks) le)
    rw [follow] at h ⊢
    split at h
    next => exact h
    next => exact ih (Nat.le_of_succ_le_succ le) h
    next => cases h

theorem asked_asked (s : Rest) (first more : List HttpRequest) (rest rest' : List Response) :
    (s.asked first rest).asked more rest' = s.asked (first ++ more) rest' := by
  simp [asked]

namespace Paging

variable {c : RestClient} {r : Request} {Item : Type} {g : Paging c r Item} {url : Url}

/-- A page is asked for with one request, which takes the next response. -/
theorem askPage_eq {s : Rest} (client : s.client = c) (written : Url.parse? g.address = some url)
    (header : isHeaderText c.authorization = true) {response : Response} {rest : List Response}
    (scripted : s.service.responses = response :: rest) (now : Instant) (token : String) :
    s.askPage now (g.page token) =
      (WebService.exchange now c.requestTimeout (g.request url token).url response,
        s.asked [g.request url token] rest) := by
  subst client
  simp only [askPage, send, page, written, header, if_true, g.asks, WebService.send, scripted]
  rfl

/-- The last page ends the call, and so does a failure. -/
theorem follow_ending {s : Rest} (client : s.client = c) {x : Exchange}
    {last : Except ProviderError (List Item)} (ends : g.read x.outcome = last.map (·, ""))
    (now : Instant) (items : List Item) :
    follow r 1 s now (.reading x (g.earlier items)) =
      some (last.map fun found => g.reply (items ++ found), s) := by
  have hlook := g.look_reading client (Nat.le_refl x.due) items
  rw [ends] at hlook
  rw [follow, Stage.due?, Option.getD_some, hlook]
  cases last <;> rfl

/-- A page that leads on has the call ask for the next page. -/
theorem follow_page (looks : Nat) {s : Rest} (client : s.client = c) {x : Exchange} (p : g.Page)
    (arrives : x.outcome = .ok p.response.delivery) (now : Instant) (items : List Item) :
    follow r (looks + 1) s now (.reading x (g.earlier items)) =
      follow r looks (s.askPage x.due (g.page p.token)).2 x.due
        (.reading (s.askPage x.due (g.page p.token)).1 (g.earlier (items ++ p.items))) := by
  have hlook := g.look_reading client (Nat.le_refl x.due) items
  rw [arrives, p.reads] at hlook
  rw [follow, Stage.due?, Option.getD_some, hlook]
  simp only [if_neg p.onward]

/-- A call asks for its pages one after the other, from any of them on, and adds their items to
those that it has. -/
theorem follow_reading (written : Url.parse? g.address = some url)
    (header : isHeaderText c.authorization = true) {pages : List g.Page} {ending : Response}
    {last : Except ProviderError (List Item)} {token : String}
    (ends : g.arrives url ((pages.map (·.token)).getLastD token) ending = last.map (·, ""))
    {s : Rest} (client : s.client = c) {rest : List Response}
    (scripted : s.service.responses = pages.map (·.response) ++ ending :: rest)
    (now now' : Instant) (items : List Item) :
    follow r (pages.length + 1) (s.askPage now (g.page token)).2 now'
        (.reading (s.askPage now (g.page token)).1 (g.earlier items)) =
      some (last.map fun found => g.reply (items ++ pages.flatMap (·.items) ++ found),
        s.asked ((token :: pages.map (·.token)).map (g.request url)) rest) := by
  -- On the pages that are still to come, `token` being that of the page that is asked for now.
  induction pages generalizing token s now now' items with
  | nil =>
    have hends := (congrArg g.read (WebService.outcome_exchange now _ _ ending)).trans ends
    rw [askPage_eq client written header scripted]
    have hend := follow_ending (s := s.asked [g.request url token] rest) client hends now' items
    refine hend.trans ?_
    simp
  | cons p pages ih =>
    have harrives : (WebService.exchange now c.requestTimeout (g.request url token).url
        p.response).outcome = .ok p.response.delivery := by
      rw [WebService.exchange, if_neg (Nat.not_lt.2 p.timely)]
    rw [List.map_cons, List.getLastD_cons] at ends
    rw [askPage_eq client written header scripted, List.length_cons]
    generalize WebService.exchange now c.requestTimeout (g.request url token).url p.response = x
      at harrives
    let s' := s.asked [g.request url token] (pages.map (·.response) ++ ending :: rest)
    have hpage := follow_page (s := s') (pages.length + 1) client p harrives now' items
    have hrest := ih (s := s') ends client rfl x.due x.due (items ++ p.items)
    refine (hpage.trans hrest).trans ?_
    simp [s', asked_asked]

end Paging

/-! ### The two calls -/

theorem start_operations (s : Rest) (now : Instant) (id : NodeGroupId) :
    s.start now (.operations id) =
      await [] (s.askPage now ((Paging.operations s.client id).page "")) := rfl

/-- The operations of a group are those of all pages, each of which is asked for once. -/
theorem follow_operations {s : Rest} {id : NodeGroupId} {url : Url}
    (written : Url.parse? (Paging.operations s.client id).address = some url)
    (header : isHeaderText s.client.authorization = true)
    (script : (Paging.operations s.client id).Script url) {rest : List Response}
    (scripted : s.service.responses = script.responses ++ rest) (now : Instant) :
    follow (.operations id) (script.pages.length + 1) (s.start now (.operations id)).2 now
        (s.start now (.operations id)).1 =
      some (script.answer, s.asked script.requests rest) := by
  rw [Paging.Script.responses, List.append_assoc] at scripted
  simp only [start_operations, await]
  exact Paging.follow_reading written header script.ends rfl scripted now now []

/-- A call for the node groups has come to know about the cluster, from the answer to its own
question or from somebody else's. -/
def Stage.Knows (s : Rest) (info : ClusterInfo) : Stage .nodeGroups → Prop
  | .queued _ _ => s.info = some info
  | .describing _ _ x =>
    readDocument "cluster" s.client.cluster ClusterInfo.ofJson? x.outcome = .ok info
  | .reading _ _ => False

/-- Who knows about the cluster asks for the first page. -/
theorem look_of_knows {s : Rest} {info : ClusterInfo} {stage : Stage .nodeGroups}
    (knows : stage.Knows s info) (now : Instant) : ∃ line,
      let s' := { s with line, info := some info }
      let asked := s'.askPage (stage.due?.getD now) ((Paging.groups s.client info.folder).page "")
      s.look (stage.due?.getD now) .nodeGroups stage =
        .moved (.reading asked.1 (info.folder, [])) asked.2 := by
  cases stage with
  | queued use number =>
    cases use
    obtain ⟨client, service, _, line, next⟩ := s
    cases knows
    exact ⟨line.leave number, rfl⟩
  | describing use number x =>
    cases use
    exact ⟨s.line.leave number, look_describing (Nat.le_refl x.due) knows rfl⟩
  | reading => cases knows

/-- The node groups are those of all pages, each of which is asked for once. -/
theorem follow_groups {s : Rest} {info : ClusterInfo} {stage : Stage .nodeGroups}
    (knows : stage.Knows s info) {url : Url}
    (written : Url.parse? (Paging.groups s.client info.folder).address = some url)
    (header : isHeaderText s.client.authorization = true)
    (script : (Paging.groups s.client info.folder).Script url) {rest : List Response}
    (scripted : s.service.responses = script.responses ++ rest) (now : Instant) : ∃ line,
    follow .nodeGroups (script.pages.length + 2) s now stage =
      some (script.answer, { s with line, info := some info }.asked script.requests rest) := by
  rw [Paging.Script.responses, List.append_assoc] at scripted
  obtain ⟨line, hlook⟩ := look_of_knows knows now
  refine ⟨line, ?_⟩
  rw [follow, hlook]
  exact Paging.follow_reading (s := { s with line, info := some info }) written header script.ends
    rfl scripted _ _ []

end Rest

end NodeSupply
