import NodeSupply.Proofs.Json.Parts
import NodeSupply.Proofs.Rest.GroupPage

/-!
# Groups that a page mentions

A page mentions a group of a name if one of its items says so, whatever else stands there.  If the
page is read, it is among the groups that were made here, as long as its item is about a group at
all: the shares and numbers in it must be possible ones.

## Main definitions

* `Json.NamesGroup` : an item says that it is a group of a name that was made here.
* `GroupDocument.IsSound` : a document is about a group.
* `Rest.Shows`, `Rest.Mentions` : what an answer has on its page.

## Main statements

* `GroupDocument.group_isOk_iff` : a document is about a group if it is sound.
* `Rest.Mentions.named` : what is mentioned on a page that reads is among its groups.
-/

namespace NodeSupply

/-- There is a group of a name among groups, and it was made here for a cluster. -/
def Named (home name : String) (groups : List NodeGroup) : Prop :=
  ∃ g ∈ groups, g.isManagedIn home = true ∧ g.name = name

/-- An item says that it is a group of a name and that it was made here for a cluster. -/
structure Json.NamesGroup (home name : String) (item : Json) : Prop where
  named : item.part? 1 "name" = some (.text name)
  cluster : item.part? 2 "clusterId" = some (.text home)
  marked : ∃ labels, item.part? 3 "labels" = some (.object labels) ∧
    Json.last? labels managedLabel = some (.text managedValue)

namespace GroupDocument

/-- A document is about a group: its core fraction is a share, and its cores can be counted. -/
def IsSound (d : GroupDocument) : Prop :=
  (1 ≤ d.template.coreFraction.toNat ∧ d.template.coreFraction.toNat ≤ 100) ∧
    d.template.cores.toNat < UInt32.size

instance (d : GroupDocument) : Decidable d.IsSound := inferInstanceAs (Decidable (_ ∧ _))

/-- A document is about a group if it is sound. -/
theorem group_isOk_iff (d : GroupDocument) : (∃ g, d.group = .ok g) ↔ d.IsSound := by
  unfold group IsSound CoreFraction.ofPercent?
  by_cases hshare : 1 ≤ d.template.coreFraction.toNat ∧ d.template.coreFraction.toNat ≤ 100
  · by_cases hcores : UInt32.size ≤ d.template.cores.toNat
    · simp [hshare, hcores, bind, Except.bind, throw, throwThe, MonadExceptOf.throw]
    · simp [hshare, hcores, Nat.lt_of_not_le hcores, bind, Except.bind, pure, Except.pure]
  · simp [hshare, bind, Except.bind]

theorem eq_of_group {d : GroupDocument} {g : NodeGroup} (h : d.group = .ok g) :
    g.name = d.name ∧ ∀ home, g.isManagedIn home = d.isManagedIn home := by
  unfold group at h
  simp only [bind, Except.bind, pure, Except.pure] at h
  split at h
  next => cases h
  next =>
    split at h
    next => cases h
    next =>
      cases h
      exact ⟨rfl, fun _ => rfl⟩

/-- What an item says of its name and its origin is what is read. -/
theorem of_namesGroup {home name : String} {item : Json} {d : GroupDocument}
    (read : ofJson? item = some d) (names : item.NamesGroup home name) :
    d.name = name ∧ d.isManagedIn home = true := by
  obtain ⟨labels, hlabels, hmark⟩ := names.marked
  unfold ofJson? at read
  obtain ⟨members, hmembers, read⟩ := Option.bind_eq_some_iff.1 read
  obtain ⟨id, -, read⟩ := Option.bind_eq_some_iff.1 read
  obtain ⟨name', hname, read⟩ := Option.bind_eq_some_iff.1 read
  obtain ⟨cluster, hcluster, read⟩ := Option.bind_eq_some_iff.1 read
  obtain ⟨labels', hlabels', read⟩ := Option.bind_eq_some_iff.1 read
  obtain ⟨status, -, read⟩ := Option.bind_eq_some_iff.1 read
  obtain ⟨template, -, read⟩ := Option.bind_eq_some_iff.1 read
  obtain ⟨locations, -, read⟩ := Option.bind_eq_some_iff.1 read
  cases read
  have hname : some name = some name' := Json.decode_of_optional hname
    ((Json.at?_of_record? hmembers rfl).trans names.named)
  have hcluster : some home = some cluster := Json.decode_of_optional hcluster
    ((Json.at?_of_record? hmembers rfl).trans names.cluster)
  have hlabels : (Json.object labels).stringMap? = some labels' := Json.decode_of_optional hlabels'
    ((Json.at?_of_record? hmembers rfl).trans hlabels)
  have hmanaged : labels'.get? managedLabel = some managedValue :=
    Json.get?_of_stringMap? hlabels hmark
  cases hname
  cases hcluster
  exact ⟨rfl, by simp [isManagedIn, isManaged, hmanaged]⟩

/-- The items of a page that reads are read one by one. -/
theorem documents_of_page? {page : Json} {documents : List GroupDocument} {token : String}
    (read : page? page = some (documents, token)) {items : List Json}
    (lists : page.part? 0 "nodeGroups" = some (.array items)) {item : Json} (mem : item ∈ items) :
    ∃ d ∈ documents, ofJson? item = some d := by
  unfold page? at read
  obtain ⟨members, hmembers, read⟩ := Option.bind_eq_some_iff.1 read
  obtain ⟨documents', hdocuments, read⟩ := Option.bind_eq_some_iff.1 read
  obtain ⟨token', -, read⟩ := Option.bind_eq_some_iff.1 read
  cases read
  have hitems : items.mapM ofJson? = some documents := Json.decode_of_optional hdocuments
    ((Json.at?_of_record? hmembers rfl).trans lists)
  rw [mapM_ofJson?] at hitems
  split at hitems
  next hall =>
    cases hitems
    obtain ⟨d, hd⟩ := Option.isSome_iff_exists.1 (List.all_eq_true.1 hall item mem)
    exact ⟨d, List.mem_filterMap.2 ⟨item, mem, hd⟩, hd⟩
  next => cases hitems

end GroupDocument

namespace Rest

/-- An answer has a page with an item. -/
def Shows (item : Json) (x : Except ProviderError Delivery) : Prop :=
  ∃ status body page items, x = .ok (.answered status (some body)) ∧
    Json.read? body = some page ∧ page.part? 0 "nodeGroups" = some (.array items) ∧ item ∈ items

/-- A page as it arrives shows its items. -/
theorem shows_response (p : GroupPage) {item : Json} (mem : item ∈ p.items) :
    Shows item (.ok p.response.delivery) := by
  refine ⟨200, p.body, .object p.members, p.items, rfl, p.reads, ?_, mem⟩
  rw [Json.part?, Json.last?, p.lists]
  rfl

/-- An answer has a page with an item that says that it is a group of a name and was made here for
a cluster; if the item reads, it is about a group. -/
def Mentions (home name : String) (x : Except ProviderError Delivery) : Prop :=
  ∃ item, Shows item x ∧ item.NamesGroup home name ∧
    ∀ d, GroupDocument.ofJson? item = some d → d.IsSound

theorem exists_of_readDocument {α : Type} {resource id : String} {decode : Json → Option α}
    {status : Nat} {body : List UInt8} {a : α}
    (read : readDocument resource id decode (.ok (.answered status (some body))) = .ok a) :
    (Json.read? body).bind decode = some a := by
  simp only [readDocument, readBody, bind, Except.bind] at read
  split at read
  next => cases read
  next hbody =>
    split at hbody
    next => cases hbody
    next =>
      split at hbody
      next =>
        cases hbody
        split at read
        next h =>
          cases read
          exact h
        next => cases read
      next => cases hbody

/-- What is mentioned on a page that reads is among its groups. -/
theorem Mentions.named {home name : String} {x : Except ProviderError Delivery}
    (mentions : Mentions home name x) {folder token : String} {documents : List GroupDocument}
    (read : readDocument "node groups" folder GroupDocument.page? x = .ok (documents, token)) :
    Named home name (GroupDocument.managedGroups home documents) := by
  obtain ⟨item, ⟨status, body, page, items, rfl, hbody, hpage, hmem⟩, hsays, hsound⟩ := mentions
  obtain ⟨page', hpage', hread⟩ := Option.bind_eq_some_iff.1 (exists_of_readDocument read)
  cases hbody.symm.trans hpage'
  obtain ⟨d, hd, hitem⟩ := GroupDocument.documents_of_page? hread hpage hmem
  obtain ⟨hname, hmanaged⟩ := GroupDocument.of_namesGroup hitem hsays
  obtain ⟨g, hg⟩ := d.group_isOk_iff.2 (hsound d hitem)
  obtain ⟨hgname, hgmanaged⟩ := GroupDocument.eq_of_group hg
  refine ⟨g, ?_, (hgmanaged home).trans hmanaged, hgname.trans hname⟩
  exact List.mem_filterMap.2 ⟨d, List.mem_filter.2 ⟨hd, hmanaged⟩, by rw [hg]; rfl⟩

end Rest

end NodeSupply
