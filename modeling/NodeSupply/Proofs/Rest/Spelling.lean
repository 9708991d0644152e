import Mathlib.Logic.Relation
import NodeSupply.Proofs.Json.Variation
import NodeSupply.Proofs.Rest.Echo

/-!
# Numbers that are spelled in other ways

A document about a group may give a number as a number or as its digits, and nothing in many ways.
However its four numbers are spelled, and whatever else it says, it is about the same group, or it
fails in the same way to be about one.

## Main definitions

* `Json.Spells` : what may stand for a number.
* `GroupDocument.Respelled` : one number of a document is spelled in another way.

## Main statements

* `GroupDocument.ofJson?_respelled` : another spelling of one number is read alike.
* `GroupDocument.group_respelled` : so are other spellings of all of them, with what is made of it.
-/

namespace NodeSupply

namespace Json

/-- What may stand for a number that a word holds: itself, or its digits.  For zero this may also
be `null` or no text, or nothing at all. -/
inductive Spells : Option Json → Nat → Prop where
  | number {n : Nat} (word : n < UInt64.size) : Spells (some (.integer n)) n
  | digits {n : Nat} (word : n < UInt64.size) : Spells (some (.text (Numeral.text n))) n
  | null : Spells (some .null) 0
  | noText : Spells (some (.text "")) 0
  | leftOut : Spells none 0

/-- One number is spelled in two ways. -/
def SameNumber (o o' : Option Json) : Prop := ∃ n, Spells o n ∧ Spells o' n

theorem Spells.wordOrText? {o : Option Json} {n : Nat} (h : Spells o n) :
    o.elim (some 0) Json.wordOrText? = some (UInt64.ofNat n) := by
  cases h with
  | number word =>
    change ((integer (.ofNat n)).naturalBelow? UInt64.size).map UInt64.ofNat = _
    rw [naturalBelow?, if_pos word, Option.map_some]
  | digits word => exact NodeGroupSpec.wordOrText?_numberText word
  | null => rfl
  | noText => rfl
  | leftOut => rfl

theorem SameNumber.wordOrText? (o o' : Option Json) (h : SameNumber o o') :
    o.elim (some 0) Json.wordOrText? = o'.elim (some 0) Json.wordOrText? := by
  obtain ⟨n, hn, hn'⟩ := h
  rw [hn.wordOrText?, hn'.wordOrText?]

end Json

namespace GroupDocument

open Json (Varies SameNumber)

variable {v v' : Json}

/-! ### Spelling one number in another way -/

/-- One of the numbers of resources is spelled in another way. -/
inductive RespelledResources : Json → Json → Prop where
  | memory {v v' : Json} (h : Varies 0 "memory" SameNumber v v') : RespelledResources v v'
  | cores {v v' : Json} (h : Varies 1 "cores" SameNumber v v') : RespelledResources v v'
  | coreFraction {v v' : Json} (h : Varies 2 "coreFraction" SameNumber v v') :
      RespelledResources v v'

/-- The size of a boot disk is spelled in another way. -/
def RespelledDisk (v v' : Json) : Prop := Varies 1 "diskSize" SameNumber v v'

/-- One of the numbers in how nodes are made is spelled in another way. -/
inductive RespelledTemplate : Json → Json → Prop where
  | resources {v v' : Json} (h : Varies 1 "resourcesSpec" (Option.Rel RespelledResources) v v') :
      RespelledTemplate v v'
  | disk {v v' : Json} (h : Varies 2 "bootDiskSpec" (Option.Rel RespelledDisk) v v') :
      RespelledTemplate v v'

/-- One of the numbers of a document about a group is spelled in another way. -/
def Respelled (v v' : Json) : Prop :=
  Varies 5 "nodeTemplate" (Option.Rel RespelledTemplate) v v'

/-! ### Reading -/

/-- A part of a record that is there, and is decoded alike, counts alike. -/
theorem elim_eq_of_rel {α : Type} {related : Json → Json → Prop} {decode : Json → Option α}
    (alike : ∀ v v', related v v' → decode v = decode v') (default_ : α) (o o' : Option Json)
    (h : Option.Rel related o o') :
    o.elim (some default_) decode = o'.elim (some default_) decode := by
  cases h with
  | some h => exact alike _ _ h
  | none => rfl

theorem resources?_varies {place : Nat} {key : String} (h : Varies place key SameNumber v v')
    (named : ["memory", "cores", "coreFraction"][place]? = some key) :
    resources? v = resources? v' := by
  refine h.bind_record? (by decide) named fun m m' alike => ?_
  -- All members are decoded in one way, so it does not matter which one is spelled differently.
  have hnumber (p : Nat) : m.optional p 0 Json.wordOrText? = m'.optional p 0 Json.wordOrText? := by
    by_cases hp : p = place
    · rw [hp, alike.optional_self SameNumber.wordOrText?]
    · exact alike.optional_of_ne hp 0 _
  rw [hnumber 0, hnumber 1, hnumber 2]

theorem resources?_respelled (v v' : Json) (h : RespelledResources v v') :
    resources? v = resources? v' := by
  cases h with
  | memory h => exact resources?_varies h rfl
  | cores h => exact resources?_varies h rfl
  | coreFraction h => exact resources?_varies h rfl

theorem disk?_respelled (v v' : Json) (h : RespelledDisk v v') : disk? v = disk? v' := by
  refine Varies.bind_record? h (by decide) rfl fun m m' alike => ?_
  simp (disch := decide) only [alike.optional_self SameNumber.wordOrText?, alike.optional_of_ne]

theorem template?_respelled (v v' : Json) (h : RespelledTemplate v v') :
    template? v = template? v' := by
  cases h with
  | resources h =>
    refine h.bind_record? (by decide) rfl fun m m' alike => ?_
    simp (disch := decide) only [alike.optional_self (elim_eq_of_rel resources?_respelled _),
      alike.optional_of_ne]
  | disk h =>
    refine h.bind_record? (by decide) rfl fun m m' alike => ?_
    simp (disch := decide) only [alike.optional_self (elim_eq_of_rel disk?_respelled _),
      alike.optional_of_ne]

/-- If one number of a document is spelled in another way, it is read alike. -/
theorem ofJson?_respelled (h : Respelled v v') : ofJson? v = ofJson? v' := by
  refine Varies.bind_record? h (by decide) rfl fun m m' alike => ?_
  simp (disch := decide) only [alike.optional_self (elim_eq_of_rel template?_respelled _),
    alike.optional_of_ne, alike.required_of_ne]

/-- Documents that differ only in how their numbers are spelled are about the same group, or fail
alike to be about one. -/
theorem group_respelled (h : Relation.EqvGen Respelled v v') :
    (ofJson? v).map group = (ofJson? v').map group := by
  induction h with
  | rel v v' h => rw [ofJson?_respelled h]
  | refl => rfl
  | symm _ _ _ ih => exact ih.symm
  | trans _ _ _ _ _ ih ih' => exact ih.trans ih'

/-! ### Two documents -/

/-- A document about a group `a` with some resources and a disk. -/
def sheet (resources disk : List (String × Json)) : Json :=
  .object [("id", .text "a"), ("nodeTemplate", .object
    [("resourcesSpec", .object resources), ("bootDiskSpec", .object disk)])]

theorem Respelled.of_resources {resources resources' : List (String × Json)}
    (h : RespelledResources (.object resources) (.object resources'))
    (disk : List (String × Json)) : Respelled (sheet resources disk) (sheet resources' disk) :=
  .member [("id", .text "a")] [] (.some (.resources (.member [] _ (.some h))))

theorem Respelled.of_disk {disk disk' : List (String × Json)}
    (h : RespelledDisk (.object disk) (.object disk')) (resources : List (String × Json)) :
    Respelled (sheet resources disk) (sheet resources disk') :=
  .member [("id", .text "a")] [] (.some (.disk (.member [("resourcesSpec", _)] [] (.some h))))

/-- A document with two numbers as such and one as its digits, and with no size. -/
def wordsSheet : Json :=
  sheet [("memory", .integer 2147483648), ("cores", .text "2"), ("coreFraction", .integer 50)]
    [("diskSize", .null)]

/-- A document with the digits of two numbers, which does not speak of a size. -/
def digitsSheet : Json :=
  sheet [("memory", .text "2147483648"), ("cores", .integer 2), ("coreFraction", .text "50")] []

/-- Both documents are about the same group. -/
theorem group_wordsSheet :
    Relation.EqvGen Respelled wordsSheet digitsSheet ∧
    ∃ g, (ofJson? wordsSheet).map group = some (.ok g) ∧
      (ofJson? digitsSheet).map group = some (.ok g) ∧ g.shape.memoryMib = 2048 := by
  have hsame {n : Nat} (word : n < UInt64.size) {s : String} (digits : Numeral.text n = s) :
      SameNumber (some (.integer n)) (some (.text s)) :=
    ⟨n, .number word, digits ▸ .digits word⟩
  have hmemory := hsame (n := 2147483648) (by decide) (s := "2147483648") (by decide)
  have hcores := hsame (n := 2) (by decide) (s := "2") (by decide)
  have hfraction := hsame (n := 50) (by decide) (s := "50") (by decide)
  -- One number after another is spelled in the other way, that of the cores from the far end.
  have hchain : Relation.EqvGen Respelled wordsSheet digitsSheet :=
    .trans _ _ _ (.rel _ _ (.of_resources (.memory (.member [] _ hmemory)) _)) <|
    .trans _ _ _ (.symm _ _ (.rel _ _
      (.of_resources (.cores (.member [("memory", _)] _ hcores)) _))) <|
    .trans _ _ _ (.rel _ _
      (.of_resources (.coreFraction (.member [("memory", _), ("cores", _)] [] hfraction)) _)) <|
    .rel _ _ (.of_disk (.leftOut [] [] (by simp) ⟨0, .null, .leftOut⟩) _)
  have hwords : ∃ g, (ofJson? wordsSheet).map group = some (.ok g) ∧ g.shape.memoryMib = 2048 :=
    ⟨_, rfl, rfl⟩
  obtain ⟨g, hread, hsize⟩ := hwords
  exact ⟨hchain, g, hread, (group_respelled hchain).symm.trans hread, hsize⟩

end GroupDocument

end NodeSupply
