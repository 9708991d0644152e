import NodeSupply.Proofs.Rest.Paging

/-!
# What a listing of node groups comes to

A folder may hold groups that were not made here.  All items of a page are read before those that
were not made here are left out.  So such a group does not count as long as it is written down as a
group is, but one that is not fails the listing.

## Main definitions

* `Rest.listed` : what the items of all pages come to.

## Main statements

* `GroupPage.exists_turned` : pages lead on from one to the next, until one fails or the last one.
* `Rest.listing_of_pages` : what a listing comes to, and which items do not count.
-/

namespace NodeSupply

namespace Rest

/-- What is said of a page that cannot be read. -/
def unreadable : ProviderError := .undecodable "node groups" documentText

/-- What the items of a listing come to after others that came to some groups.  All of them must
read; then those that were made here for a cluster and are about a group are listed. -/
def listed (home : String) (groups : List NodeGroup) (items : List Json) :
    Except ProviderError (List NodeGroup) :=
  if items.all fun item => (GroupDocument.ofJson? item).isSome then
    .ok (groups ++ GroupDocument.listedGroups home (items.filterMap GroupDocument.ofJson?))
  else .error unreadable

theorem listed_nil (home : String) (groups : List NodeGroup) :
    listed home groups [] = .ok groups := by
  simp [listed, GroupDocument.listedGroups]

theorem listed_append (home : String) (groups : List NodeGroup) (items items' : List Json) :
    listed home groups (items ++ items') =
      (items.mapM GroupDocument.ofJson?).elim (.error unreadable) fun documents =>
        listed home (groups ++ GroupDocument.listedGroups home documents) items' := by
  rw [GroupDocument.mapM_ofJson?, listed, List.all_append, List.filterMap_append]
  cases items.all fun item => (GroupDocument.ofJson? item).isSome with
  | false => rfl
  | true => simp [listed, GroupDocument.listedGroups]

/-- An item that is written down as a group and was not made here does not count. -/
theorem listed_of_foreign {home : String} {item : Json} {d : GroupDocument}
    (read : GroupDocument.ofJson? item = some d) (foreign : d.isManagedIn home = false)
    (groups : List NodeGroup) (before after : List Json) :
    listed home groups (before ++ item :: after) = listed home groups (before ++ after) := by
  have hnot : (d.cluster == home && d.labels.get? "managed-by" == some "nodeplan") = false :=
    foreign
  simp [listed, read, hnot, GroupDocument.listedGroups]

/-- The groups before the items are listed before theirs. -/
theorem listed_eq_map (home : String) (groups : List NodeGroup) (items : List Json) :
    listed home groups items = (listed home [] items).map (groups ++ ·) := by
  unfold listed
  split <;> rfl

/-! ### Pages that arrive -/

/-- A page is read as a whole: if an item does not read, the page fails. -/
theorem Paging.read_response (c : RestClient) (folder : String) (p : GroupPage) :
    (groups c folder).read (.ok p.response.delivery) =
      (p.items.mapM GroupDocument.ofJson?).elim (.error unreadable) fun documents =>
        .ok (GroupDocument.listedGroups c.cluster documents, p.token) := by
  have hbody : readBody "node groups" folder (.ok p.response.delivery) = .ok p.body := rfl
  simp only [groups, readDocument, hbody, bind, Except.bind, p.reads, Option.bind_some,
    p.page?_members]
  cases p.items.mapM GroupDocument.ofJson? <;> rfl

/-- What the items of the last page come to is the answer. -/
theorem look_lastPage {s : Rest} {p : GroupPage} (last : p.token = "") {now : Instant}
    {x : Exchange} (due : x.due ≤ now) (arrives : x.outcome = .ok p.response.delivery)
    (folder : String) (groups : List NodeGroup) :
    s.look now .nodeGroups (.reading x (folder, groups)) =
      .finished (listed s.client.cluster groups p.items) s := by
  have hlook := (Paging.groups s.client folder).look_reading rfl due groups
  have hlisted := listed_append s.client.cluster groups p.items []
  rw [List.append_nil] at hlisted
  rw [arrives, Paging.read_response] at hlook
  refine hlook.trans ?_
  rw [hlisted]
  cases p.items.mapM GroupDocument.ofJson? with
  | none => rfl
  | some documents =>
    simp only [Option.elim_some, if_pos last, listed_nil]
    rfl

end Rest

open Rest

/-- Pages that arrive one after the other lead on until one of them fails or is the last one. -/
theorem GroupPage.exists_turned {c : RestClient} (folder : String) (url : Url)
    {pages : List GroupPage} (linked : Linked pages)
    (timely : ∀ p ∈ pages, p.stall ≤ c.requestTimeout) :
    ∃ (turned : List (Paging.groups c folder).Page) (ending : Response)
      (last : Except ProviderError (List NodeGroup)) (left : List Response),
      (∀ token, (Paging.groups c folder).arrives url token ending = last.map (·, "")) ∧
      pages.map response = turned.map (·.response) ++ ending :: left ∧
      turned.length < pages.length ∧
      last.map (turned.flatMap (·.items) ++ ·) = listed c.cluster [] (pages.flatMap (·.items)) := by
  induction pages with
  | nil => cases linked
  | cons p pages ih =>
    have hprompt : ¬ c.requestTimeout < p.response.stall :=
      Nat.not_lt.2 (timely p List.mem_cons_self)
    have harrives : ∀ token, (Paging.groups c folder).arrives url token p.response =
        (Paging.groups c folder).read (.ok p.response.delivery) := fun token => by
      rw [Paging.arrives, WebService.exchange, if_neg hprompt]
    have hread := Paging.read_response c folder p
    have hlisted := listed_append c.cluster [] p.items (pages.flatMap (·.items))
    cases hitems : p.items.mapM GroupDocument.ofJson? with
    | none =>
      rw [hitems] at hread hlisted
      exact ⟨[], p.response, .error unreadable, pages.map response,
        fun token => (harrives token).trans hread, rfl, Nat.succ_pos _, hlisted.symm⟩
    | some documents =>
      rw [hitems] at hread hlisted
      cases pages with
      | nil =>
        refine ⟨[], p.response, .ok (GroupDocument.listedGroups c.cluster documents), [],
          fun token => ?_, rfl, Nat.succ_pos _, ?_⟩
        · rw [harrives, hread, show p.token = "" from linked]
          rfl
        · refine Eq.trans ?_ hlisted.symm
          exact (listed_nil c.cluster _).symm
      | cons q pages =>
        obtain ⟨honward, hlinked⟩ := linked
        obtain ⟨turned, ending, last, left, hends, hresponses, hlength, hlast⟩ :=
          ih hlinked fun q hq => timely q (List.mem_cons_of_mem _ hq)
        let page : (Paging.groups c folder).Page :=
          { response := p.response
            items := GroupDocument.listedGroups c.cluster documents
            token := p.token
            timely := timely p List.mem_cons_self
            reads := hread
            onward := honward }
        refine ⟨page :: turned, ending, last, left, hends, ?_, Nat.succ_lt_succ hlength, ?_⟩
        · rw [List.map_cons, hresponses]
          rfl
        · rw [List.flatMap_cons (f := GroupPage.items), hlisted, Option.elim_some, listed_eq_map,
            ← hlast]
          cases last with
          | error e => rfl
          | ok items => simp [Except.map, page]

namespace Rest

/-- Once the cluster is known, a listing comes to the groups that were made here and can be made
out, in the order of the pages, if all items read; a foreign item does not count then.  If one item
does not read, foreign or not, the listing fails. -/
theorem listing_of_pages {pages : List GroupPage} (linked : GroupPage.Linked pages) {s : Rest}
    {info : ClusterInfo} (known : s.info = some info) {rest : List Response} (now : Instant)
    (address : (Url.parse? s.client.groupsAddress).isSome = true)
    (header : isHeaderText s.client.authorization = true)
    (scripted : s.service.responses = pages.map GroupPage.response ++ rest)
    (timely : ∀ p ∈ pages, p.stall ≤ s.client.requestTimeout) :
    (follow .nodeGroups (pages.length + 1) (s.start now .nodeGroups).2 now
        (s.start now .nodeGroups).1).map Prod.fst =
      some (listed s.client.cluster [] (pages.flatMap (·.items))) ∧
    ∀ (item : Json) (d : GroupDocument), GroupDocument.ofJson? item = some d →
      d.isManagedIn s.client.cluster = false → ∀ before after : List Json,
        listed s.client.cluster [] (before ++ item :: after) =
          listed s.client.cluster [] (before ++ after) := by
  refine ⟨?_, fun item d read foreign => listed_of_foreign read foreign []⟩
  obtain ⟨url, written⟩ := Option.isSome_iff_exists.1 address
  obtain ⟨turned, ending, last, left, hends, hresponses, hlength, hlast⟩ :=
    GroupPage.exists_turned info.folder url linked timely
  let script : (Paging.groups s.client info.folder).Script url := ⟨turned, ending, last, hends _⟩
  have hscripted : (s.start now .nodeGroups).2.service.responses =
      script.responses ++ (left ++ rest) := by
    refine scripted.trans ?_
    rw [hresponses]
    simp [script, Paging.Script.responses]
  have hknows : (s.start now .nodeGroups).1.Knows (s.start now .nodeGroups).2 info := known
  obtain ⟨line, hfollow⟩ := follow_groups hknows written header script hscripted now
  rw [follow_of_le (Nat.succ_le_succ hlength) hfollow]
  exact congrArg some hlast

/-- A page of which one item does not read: the other one is about a group that was made here, and
would be listed alone. -/
theorem foreign_item_fails_listing :
    let s : Rest := ⟨.small, ⟨[GroupPage.small.response], ⟨0, .lost⟩, []⟩,
      some ⟨"folder", "network"⟩, .idle, 0⟩
    (follow .nodeGroups 2 (s.start 0 .nodeGroups).2 0 (s.start 0 .nodeGroups).1).map Prod.fst =
        some (.error unreadable) ∧
      ∃ group, listed "home" [] [GroupPage.ours [GroupPage.fullCores]] = .ok [group] := by
  intro s
  have linked : GroupPage.Linked [.small] := rfl
  have timely : ∀ p ∈ [GroupPage.small], p.stall ≤ s.client.requestTimeout := fun p hp => by
    cases List.mem_singleton.1 hp
    exact Nat.zero_le _
  have foreign : GroupDocument.ofJson? GroupPage.foreign = none := rfl
  have unlisted :
      listed "home" [] ([GroupPage.foreign, GroupPage.ours [GroupPage.fullCores]] ++ []) =
        .error unreadable := by simp [listed, foreign]
  have ours : ∃ group, listed "home" [] [GroupPage.ours [GroupPage.fullCores]] = .ok [group] :=
    ⟨_, rfl⟩
  have hlisting := (listing_of_pages linked (s := s) rfl 0
    RestClient.isSome_small_groupsAddress RestClient.isHeaderText_small rfl timely).1
  exact ⟨hlisting.trans (congrArg some unlisted), ours⟩

end Rest

end NodeSupply
