import NodeSupply.Proofs.Json.Compact
import NodeSupply.Proofs.Sorted
import NodeSupply.Proofs.Text.Utf8
import NodeSupply.Verdict.Fingerprint

/-!
# What a key says about a class

The key of a class is its name with the start of a digest, and the document that is digested tells
all that it was made of.  So two classes of one key have one name and one content, unless their
documents collide.  Of the lists of a class the content keeps the members only, and free addresses,
discounts and readiness have no part in it.

## Main definitions

* `Sha256.Uncollided` : byte strings whose digests start differently, unless they are the same.
* `Fingerprint.Content.document` : what is digested.
* `Fingerprint.Alike` : two classes agree in all that a verdict depends on.

## Main statements

* `Fingerprint.Content.document_inj` : the document tells the content.
* `Fingerprint.owner?_key` : the key belongs to the name.
* `Fingerprint.eq_of_key_eq` : the key tells the name and the content.
* `Fingerprint.content_eq_iff` : classes of the same content are alike.
* `Fingerprint.key_tells_alike` : what the key tells, and to whom it belongs.
-/

namespace NodeSupply

namespace Sha256

/-- The digests of two byte strings do not start with the same eight bytes, unless the byte strings
are the same. -/
def Uncollided (x y : List UInt8) : Prop := (digest x).take 8 = (digest y).take 8 → x = y

theorem length_digest (bytes : List UInt8) : (digest bytes).length = 32 := by
  simp [digest, bigEndian]

/-- Every byte is written as two digits. -/
theorem length_hex (bytes : List UInt8) : (hex bytes).toList.length = 2 * bytes.length := by
  unfold hex
  rw [String.toList_ofList]
  induction bytes with
  | nil => rfl
  | cons b bytes ih =>
    have htwo : [Nat.digitChar (b.toNat / 16), Nat.digitChar (b.toNat % 16)].length = 2 := rfl
    rw [List.flatMap_cons, List.length_append, ih, htwo, List.length_cons]
    omega

theorem eq_of_digitChar_eq {n k : Nat} (hn : n < 16) (hk : k < 16)
    (h : Nat.digitChar n = Nat.digitChar k) : n = k := by
  have hread : ∀ n < 16, Numeral.hexDigit? (Nat.digitChar n) = some n := by decide
  have hsame := congrArg Numeral.hexDigit? h
  rw [hread n hn, hread k hk] at hsame
  exact Option.some.inj hsame

theorem hex_inj {x y : List UInt8} (h : hex x = hex y) : x = y := by
  have hchars := String.ofList_inj.1 h
  clear h
  induction x generalizing y with
  | nil =>
    cases y with
    | nil => rfl
    | cons b y => cases hchars
  | cons a x ih =>
    cases y with
    | nil => cases hchars
    | cons b y =>
      rw [List.flatMap_cons, List.flatMap_cons] at hchars
      obtain ⟨hhigh, hrest⟩ := List.cons.inj hchars
      obtain ⟨hlow, hrest⟩ := List.cons.inj hrest
      have ha := a.toNat_lt
      have hb := b.toNat_lt
      have hdiv := eq_of_digitChar_eq (by omega) (by omega) hhigh
      have hmod := eq_of_digitChar_eq (by omega) (by omega) hlow
      have hab : a = b := UInt8.toNat_inj.1 (by omega)
      rw [hab, ih hrest]

/-- A digest is written without colons. -/
theorem colon_not_mem_hex (bytes : List UInt8) : ':' ∉ (hex bytes).toList := by
  unfold hex
  rw [String.toList_ofList, List.mem_flatMap]
  rintro ⟨b, -, hmem⟩
  have hdigit : ∀ n < 16, ':' ≠ Nat.digitChar n := by decide
  have hb := b.toNat_lt
  rcases List.mem_cons.1 hmem with h | h
  · exact hdigit _ (by omega) h
  · exact hdigit _ (by omega) (List.mem_singleton.1 h)

end Sha256

namespace Fingerprint

/-! ### Owners -/

theorem beforeLastColon_eq_none {cs : List Char} (h : ':' ∉ cs) : beforeLastColon cs = none := by
  induction cs with
  | nil => rfl
  | cons c cs ih =>
    obtain ⟨hc, hcs⟩ := not_or.1 fun hm => h (List.mem_cons.2 hm)
    rw [beforeLastColon, ih hcs]
    exact if_neg (Ne.symm hc)

theorem beforeLastColon_append {rest : List Char} (h : ':' ∉ rest) (name : List Char) :
    beforeLastColon (name ++ ':' :: rest) = some name := by
  induction name with
  | nil =>
    rw [List.nil_append, beforeLastColon, beforeLastColon_eq_none h]
    rfl
  | cons c name ih => rw [List.cons_append, beforeLastColon, ih]

/-- The key of a class belongs to its name, even if there are colons in it. -/
theorem owner?_key (c : NodeClass) : owner? (key c) = some c.name := by
  have hchars : (key c).toList = c.name.toList ++ ':' :: (content c).digest.toList := by
    simp [key]
  have hrest : ':' ∉ (content c).digest.toList := Sha256.colon_not_mem_hex _
  rw [owner?, hchars, beforeLastColon_append hrest, Option.map_some, String.ofList_toList]

/-! ### Documents -/

/-- What is digested of some content. -/
def Content.document (c : Content) : List UInt8 := Utf8.encode c.json.compact

theorem delimited_placement : Json.Delimited fun s : Placement =>
    Json.compactChars (.array [.text s.subnet, .text s.zone]) where
  begins s := ⟨'[', _, rfl, by decide, by decide⟩
  inj := by
    rintro ⟨subnet, zone⟩ ⟨subnet', zone'⟩ r t hr ht h
    obtain ⟨hlist, hrest⟩ := (Json.delimited_array Json.delimited_text).inj
      (a := [subnet, zone]) (b := [subnet', zone']) hr ht h
    cases hlist
    exact ⟨rfl, hrest⟩

/-- The document tells the content. -/
theorem Content.document_inj {c d : Content} (h : c.document = d.document) : c = d := by
  have hchars := String.ofList_inj.1 (Utf8.encode_inj h)
  unfold json at hchars
  have hobject : ∀ members : List (String × Json), Json.compactChars (.object members) =
      '\x7b' :: (Json.commas (members.map Json.memberChars) ++ ['\x7d']) := fun members => by
    rw [Json.compactChars, Json.membersChars_eq_map]
    rfl
  rw [hobject, hobject] at hchars
  simp only [List.map_cons, List.map_nil, Json.commas_cons, List.flatMap_cons, List.flatMap_nil,
    List.append_nil, List.append_assoc, List.cons_append, List.cons.injEq, true_and] at hchars
  obtain ⟨hsubnets, hchars⟩ :=
    (Json.delimited_array delimited_placement).member_inj rfl hchars
  obtain ⟨hlabels, hchars⟩ := (Json.delimited_object Json.delimited_text).member_inj rfl hchars
  obtain ⟨hdiskType, hchars⟩ := Json.delimited_text.member_inj rfl hchars
  obtain ⟨hdiskSize, hchars⟩ :=
    (Json.delimited_integer.comp UInt64.toNat_inj.1).member_inj rfl hchars
  obtain ⟨hsecurityGroups, hchars⟩ :=
    (Json.delimited_array Json.delimited_text).member_inj rfl hchars
  obtain ⟨haccelerated, hchars⟩ := Json.delimited_bool.member_inj rfl hchars
  obtain ⟨hfractions, -⟩ :=
    (Json.delimited_array (Json.delimited_integer.comp CoreFraction.ext)).member_inj rfl hchars
  cases c
  cases d
  rw [mk.injEq]
  exact ⟨SortedSet.eq_of_toList_eq hsubnets, SortedMap.eq_of_entries_eq hlabels, hdiskType,
    hdiskSize, SortedSet.eq_of_toList_eq hsecurityGroups, haccelerated,
    SortedSet.eq_of_toList_eq hfractions⟩

/-! ### Keys -/

/-- The key of a class tells its name and its content. -/
theorem eq_of_key_eq {c d : NodeClass}
    (uncollided : Sha256.Uncollided (content c).document (content d).document)
    (h : key c = key d) : c.name = d.name ∧ content c = content d := by
  have hlength : ∀ e : Content, e.digest.toList.length = 16 := fun e => by
    rw [Content.digest, Sha256.length_hex, List.length_take, Sha256.length_digest]
    rfl
  have hchars := congrArg String.toList h
  simp only [key, String.toList_append] at hchars
  obtain ⟨hname, hdigest⟩ := List.append_inj' hchars (by rw [hlength, hlength])
  refine ⟨String.toList_inj.1 (List.append_cancel_right hname), Content.document_inj ?_⟩
  exact uncollided (Sha256.hex_inj (String.toList_inj.1 hdigest))

/-! ### Classes that are alike -/

/-- Two classes agree in all that a verdict depends on: they list the same subnets in the same
zones, the same security groups and the same core fractions, in any order and any number of times,
and have the same labels, disk and wish for accelerated networking. -/
structure Alike (c d : NodeClass) : Prop where
  subnets : ∀ id zone, (∃ s ∈ c.subnets, s.id = id ∧ s.zone = zone) ↔
    ∃ s ∈ d.subnets, s.id = id ∧ s.zone = zone
  labels : ∀ label, c.labels.get? label = d.labels.get? label
  diskType : c.diskType = d.diskType
  diskSizeBytes : c.diskSizeBytes = d.diskSizeBytes
  securityGroups : ∀ id, id ∈ c.securityGroups ↔ id ∈ d.securityGroups
  acceleratedNetwork : c.acceleratedNetwork = d.acceleratedNetwork
  coreFractions : ∀ f, f ∈ c.coreFractions ↔ f ∈ d.coreFractions

theorem mem_subnets_content {c : NodeClass} {p : Placement} : p ∈ (content c).subnets.toList ↔
    ∃ s ∈ c.subnets, s.id = p.subnet ∧ s.zone = p.zone := by
  cases p
  rw [content, SortedSet.mem_ofList, List.mem_map]
  simp only [Placement.mk.injEq]

/-- Classes of the same content are alike. -/
theorem content_eq_iff {c d : NodeClass} : content c = content d ↔ Alike c d := by
  constructor
  · intro h
    have hsubnets : (content c).subnets = (content d).subnets := by rw [h]
    exact {
      subnets := fun id zone => by
        rw [← mem_subnets_content (p := ⟨id, zone⟩), hsubnets, mem_subnets_content]
      labels := fun label => congrArg (·.labels.get? label) h
      diskType := congrArg (·.diskType) h
      diskSizeBytes := congrArg (·.diskSizeBytes) h
      securityGroups := SortedSet.ofList_eq_iff.1 (congrArg (·.securityGroups) h)
      acceleratedNetwork := congrArg (·.acceleratedNetwork) h
      coreFractions := SortedSet.ofList_eq_iff.1 (congrArg (·.coreFractions) h) }
  · intro h
    have hsubnets : (content c).subnets = (content d).subnets :=
      SortedSet.eq_of_mem_iff fun p => by
        rw [mem_subnets_content, mem_subnets_content, h.subnets]
    unfold content at hsubnets ⊢
    rw [Content.mk.injEq]
    exact ⟨hsubnets, SortedMap.eq_of_get?_eq h.labels, h.diskType, h.diskSizeBytes,
      SortedSet.ofList_eq_iff.2 h.securityGroups, h.acceleratedNetwork,
      SortedSet.ofList_eq_iff.2 h.coreFractions⟩

/-- The key tells the name of a class and all that a verdict on it depends on, and nothing else.
Classes of one name that are alike have one key; classes of one key, unless their documents collide,
have one name and are alike; and the key belongs to the name, also if there are colons in it. -/
theorem key_tells_alike (c d : NodeClass) :
    (c.name = d.name → Alike c d → key c = key d) ∧
    (Sha256.Uncollided (content c).document (content d).document →
      (key c = key d ↔ c.name = d.name ∧ Alike c d)) ∧
    owner? (key c) = some c.name := by
  have halike : c.name = d.name → Alike c d → key c = key d := fun hname h => by
    rw [key, key, hname, content_eq_iff.2 h]
  refine ⟨halike, fun uncollided => ⟨fun h => ?_, fun h => halike h.1 h.2⟩, owner?_key c⟩
  obtain ⟨hname, hcontent⟩ := eq_of_key_eq uncollided h
  exact ⟨hname, content_eq_iff.1 hcontent⟩

/-- A class with a colon in its name that lists some subnets. -/
def inSubnets (subnets : List ResolvedSubnet) : NodeClass :=
  { NodeClass.named "team:general" with subnets }

/-- A class that lists its subnets in another order, one of them twice, has the same key, whatever
else is known of them; one that records another zone has another. -/
theorem key_tells_zone :
    key { inSubnets [⟨"b", "z", none⟩, ⟨"a", "z", some 7⟩, ⟨"b", "z", some 9⟩] with
        discountable := true, subnetsReady := .true } =
      key (inSubnets [⟨"a", "z", none⟩, ⟨"b", "z", none⟩]) ∧
    Sha256.Uncollided (content (inSubnets [⟨"a", "z", none⟩])).document
      (content (inSubnets [⟨"a", "y", none⟩])).document ∧
    key (inSubnets [⟨"a", "z", none⟩]) ≠ key (inSubnets [⟨"a", "y", none⟩]) ∧
    owner? (key (inSubnets [⟨"a", "z", none⟩])) = some "team:general" := by
  have hsame : Alike { inSubnets [⟨"b", "z", none⟩, ⟨"a", "z", some 7⟩, ⟨"b", "z", some 9⟩] with
      discountable := true, subnetsReady := .true }
      (inSubnets [⟨"a", "z", none⟩, ⟨"b", "z", none⟩]) := by
    constructor <;> simp [inSubnets, or_comm]
  have hstart : (Sha256.digest (content (inSubnets [⟨"a", "z", none⟩])).document).take 8 ≠
      (Sha256.digest (content (inSubnets [⟨"a", "y", none⟩])).document).take 8 := by decide +kernel
  have uncollided : Sha256.Uncollided (content (inSubnets [⟨"a", "z", none⟩])).document
      (content (inSubnets [⟨"a", "y", none⟩])).document := fun h => absurd h hstart
  obtain ⟨-, hkey, howner⟩ :=
    key_tells_alike (inSubnets [⟨"a", "z", none⟩]) (inSubnets [⟨"a", "y", none⟩])
  refine ⟨(key_tells_alike _ _).1 rfl hsame, uncollided, fun h => ?_, howner⟩
  have hzone := ((hkey uncollided).1 h).2.subnets "a" "z"
  simp [inSubnets] at hzone

end Fingerprint

end NodeSupply
