import Mathlib.Data.List.DropRight
import NodeSupply.Proofs.Rest.Percent

/-!
# Paths

Text is cut into segments at slashes, of which those are resolved that are dots.  What of a segment
may not stand in a path is percent-encoded.  So text need not come back as one segment, and what
comes back need not be read as the text.

## Main definitions

* `Url.segmentsOf` : the segments of text, before dots are resolved.
* `Url.settle` : where segments lead to if more follow.
* `Url.tidyEnd`, `Url.pathPart` : what of text at the end of an address counts, and as its path.
* `Url.IsSegment` : text that is one segment, and is read as itself.
* `Url.IsName` : text made of letters.

## Main statements

* `Url.resolveDots_append`, `Url.mem_drop_resolveDots` : what dots leave of some segments.
* `Url.IsSegment.segmentsOf_eq`, `Url.IsSegment.percentDecode_eq` : how a segment is written and how
  it is read.
* `Url.isSegment_of_mem` : only a segment is read as the text that it comes from.
-/

namespace NodeSupply.Url

open Utf8 (bytes)

/-! ### Text up to a mark -/

section Lists

variable {α : Type} {p : α → Bool} {c : α}

theorem takeWhile_append_cons (stops : p c = false) (xs ys : List α) :
    (xs ++ c :: ys).takeWhile p = xs.takeWhile p := by
  induction xs with
  | nil => simp [stops]
  | cons x xs ih => cases hx : p x <;> simp [hx, ih]

theorem dropWhile_append_cons (stops : p c = false) (xs ys : List α) :
    (xs ++ c :: ys).dropWhile p = xs.dropWhile p ++ c :: ys := by
  induction xs with
  | nil => simp [stops]
  | cons x xs ih => cases hx : p x <;> simp [hx, ih]

theorem rdropWhile_append_cons (stops : p c = false) (xs ys : List α) :
    (xs ++ c :: ys).rdropWhile p = xs ++ c :: ys.rdropWhile p := by
  have hreverse : (xs ++ c :: ys).reverse = ys.reverse ++ c :: xs.reverse := by simp
  rw [List.rdropWhile, hreverse, dropWhile_append_cons stops]
  simp [List.rdropWhile]

end Lists

theorem cut_cons_self (mark : Char) (cs : List Char) : cut mark (mark :: cs) = ([], some cs) := by
  simp [cut]

theorem cut_nil (mark : Char) : cut mark [] = ([], none) := rfl

theorem cut_append {mark : Char} {xs : List Char} (h : mark ∉ xs) (ys : List Char) :
    cut mark (xs ++ ys) = (xs ++ (cut mark ys).1, (cut mark ys).2) := by
  have hxs : ∀ c ∈ xs, (c != mark) = true := fun c hc => bne_iff_ne.2 fun heq => h (heq ▸ hc)
  rw [cut, List.takeWhile_append_of_pos hxs, List.dropWhile_append_of_pos hxs]
  rfl

theorem cut_of_not_mem {mark : Char} {xs : List Char} (h : mark ∉ xs) :
    cut mark xs = (xs, none) := by
  simpa [cut_nil] using cut_append h []

/-- What follows a mark does not change what is in front of the first one. -/
theorem fst_cut_append {mark : Char} {xs : List Char} (h : mark ∈ xs) (ys : List Char) :
    (cut mark (xs ++ ys)).1 = (cut mark xs).1 := by
  obtain ⟨before, after, rfl, -⟩ := List.eq_append_cons_of_mem h
  have stops : (mark != mark) = false := bne_self_eq_false mark
  rw [List.append_assoc, List.cons_append]
  exact (takeWhile_append_cons (p := (· != mark)) stops before (after ++ ys)).trans
    (takeWhile_append_cons (p := (· != mark)) stops before after).symm

/-- Nothing stands behind a mark that does not occur. -/
theorem not_mem_of_cut {mark : Char} {xs : List Char} (h : (cut mark xs).2 = none) : mark ∉ xs := by
  intro hmark
  obtain ⟨before, after, rfl, habsent⟩ := List.eq_append_cons_of_mem hmark
  rw [cut_append habsent, cut_cons_self] at h
  cases h

/-! ### What is left out -/

/-- Whether a character does not count at the ends of an address. -/
def isEnd (c : Char) : Bool := c.toNat ≤ 0x20

/-- Whether a character counts within an address. -/
def isKept (c : Char) : Bool := c != '\t' && c != '\n' && c != '\r'

/-- What of text counts at the end of an address. -/
def tidyEnd (cs : List Char) : List Char := (cs.rdropWhile isEnd).filter isKept

theorem tidy_eq (cs : List Char) : tidy cs = tidyEnd (cs.dropWhile isEnd) := rfl

theorem tidyEnd_append (xs ys : List Char) :
    tidyEnd (xs ++ '/' :: ys) = xs.filter isKept ++ '/' :: tidyEnd ys := by
  rw [tidyEnd, rdropWhile_append_cons (by decide), List.filter_append,
    List.filter_cons_of_pos (by decide), tidyEnd]

theorem tidy_append (xs ys : List Char) :
    tidy (xs ++ '/' :: ys) = (xs.dropWhile isEnd).filter isKept ++ '/' :: tidyEnd ys := by
  rw [tidy_eq, dropWhile_append_cons (by decide), tidyEnd_append]

theorem tidyEnd_sublist (cs : List Char) : (tidyEnd cs).Sublist cs :=
  List.filter_sublist.trans (List.rdropWhile_prefix isEnd cs).sublist

theorem isKept_of_mem_tidyEnd {c : Char} {cs : List Char} (h : c ∈ tidyEnd cs) : isKept c = true :=
  (List.mem_filter.1 h).2

/-- Text counts in full if it does not end in what does not count there. -/
theorem tidyEnd_eq_self_iff {cs : List Char} : tidyEnd cs = cs ↔
    (∀ c ∈ cs, isKept c = true) ∧ ∀ c, cs.getLast? = some c → isEnd c = false := by
  have hend : cs.rdropWhile isEnd = cs ↔ ∀ c, cs.getLast? = some c → isEnd c = false := by
    rw [List.rdropWhile_eq_self_iff]
    cases cs using List.reverseRecOn <;> simp
  rw [← hend]
  constructor
  · intro h
    have hdrop : (tidyEnd cs).Sublist (cs.rdropWhile isEnd) := List.filter_sublist
    rw [h] at hdrop
    exact ⟨fun c hc => isKept_of_mem_tidyEnd (h.symm ▸ hc),
      (List.rdropWhile_prefix isEnd cs).sublist.antisymm hdrop⟩
  · rintro ⟨hkept, hdrop⟩
    rw [tidyEnd, hdrop, List.filter_eq_self.2 hkept]

/-! ### Dots -/

/-- Whether a segment is resolved away. -/
def isDots (segment : String) : Bool := isSingleDot segment || isDoubleDot segment

/-- Where segments after those in `above` lead to if more follow. -/
def settle (above : List String) : List String → List String
  | [] => above
  | segment :: rest =>
    if isDoubleDot segment then settle (goUp above) rest
    else if isSingleDot segment then settle above rest
    else settle (above ++ [segment]) rest

theorem resolveDots_cons {rest : List String} (h : rest ≠ []) (above : List String)
    (segment : String) : resolveDots above (segment :: rest) =
      if isDoubleDot segment then resolveDots (goUp above) rest
      else if isSingleDot segment then resolveDots above rest
      else resolveDots (above ++ [segment]) rest := by
  cases rest with
  | nil => exact absurd rfl h
  | cons => rfl

theorem resolveDots_append {ys : List String} (h : ys ≠ []) (above xs : List String) :
    resolveDots above (xs ++ ys) = resolveDots (settle above xs) ys := by
  induction xs generalizing above with
  | nil => rfl
  | cons x xs ih =>
    rw [List.cons_append, resolveDots_cons (List.append_ne_nil_of_right_ne_nil _ h), settle]
    split_ifs <;> exact ih _

/-- Segments that are no dots are all kept. -/
theorem resolveDots_of_plain {segments : List String} (h : ∀ s ∈ segments, isDots s = false)
    (above : List String) : resolveDots above segments = above ++ segments := by
  induction segments generalizing above with
  | nil => rw [resolveDots, List.append_nil]
  | cons segment rest ih =>
    obtain ⟨hsingle, hdouble⟩ := Bool.or_eq_false_iff.1 (h segment List.mem_cons_self)
    by_cases hrest : rest = []
    · simp [hrest, resolveDots, hsingle, hdouble]
    · rw [resolveDots_cons hrest, hdouble, hsingle]
      simpa using ih (fun s hs => h s (List.mem_cons_of_mem _ hs)) (above ++ [segment])

/-- Dots are read as dots. -/
theorem percentDecode_of_isDots {segment : String} (h : isDots segment = true) :
    Host.percentDecode (Utf8.encode segment) = bytes ['.'] ∨
      Host.percentDecode (Utf8.encode segment) = bytes ['.', '.'] := by
  have hall : ∀ s ∈ dotForms ++ dotForms.flatMap (fun a => dotForms.map fun b => a ++ b),
      Host.percentDecode (Utf8.encode s) = bytes ['.'] ∨
        Host.percentDecode (Utf8.encode s) = bytes ['.', '.'] := by decide +kernel
  refine hall segment (List.mem_append.2 ?_)
  simpa [isDots, isSingleDot, isDoubleDot] using h

/-- What dots leave of some segments after others: beyond a depth there are only segments that were
there before, segments that are no dots, and the empty one that dots at the end leave. -/
theorem mem_drop_resolveDots {depth : Nat} {above segments : List String} {segment : String}
    (h : segment ∈ (resolveDots above segments).drop depth) :
    segment ∈ above.drop depth ∨ segment = "" ∨ segment ∈ segments ∧ isDots segment = false := by
  have hup : ∀ above : List String, ∀ s ∈ (goUp above).drop depth, s ∈ above.drop depth := by
    intro above s hs
    unfold goUp at hs
    split_ifs at hs
    · exact hs
    · exact (List.dropLast_sublist above).drop depth |>.mem hs
  have hdown : ∀ (above : List String) (t : String), ∀ s ∈ (above ++ [t]).drop depth,
      s ∈ above.drop depth ∨ s = t := by
    intro above t s hs
    rw [List.drop_append] at hs
    exact (List.mem_append.1 hs).imp_right fun ht => List.mem_singleton.1 (List.mem_of_mem_drop ht)
  induction segments generalizing above with
  | nil => exact .inl h
  | cons first rest ih =>
    by_cases hrest : rest = []
    · subst hrest
      rw [resolveDots] at h
      split_ifs at h with hdouble hsingle
      · exact (hdown _ _ _ h).imp (hup _ _) .inl
      · exact (hdown _ _ _ h).imp_right .inl
      · refine (hdown _ _ _ h).imp_right fun heq => .inr ⟨by simp [heq], ?_⟩
        simp [heq, isDots, hsingle, hdouble]
    · rw [resolveDots_cons hrest] at h
      split_ifs at h with hdouble hsingle
      · exact (ih h).imp (hup _ _) (Or.imp_right (And.imp_left (List.mem_cons_of_mem _)))
      · exact (ih h).imp_right (Or.imp_right (And.imp_left (List.mem_cons_of_mem _)))
      · rcases ih h with habove | hempty | ⟨hmem, hplain⟩
        · refine (hdown _ _ _ habove).imp_right fun heq => .inr ⟨by simp [heq], ?_⟩
          simp [heq, isDots, hsingle, hdouble]
        · exact .inr (.inl hempty)
        · exact .inr (.inr ⟨List.mem_cons_of_mem _ hmem, hplain⟩)

/-! ### Segments -/

/-- A character with a slash in place of a backslash. -/
def slashed (c : Char) : Char := if c = '\\' then '/' else c

/-- The segments of text, before dots are resolved. -/
def segmentsOf (cs : List Char) : List String :=
  (Text.fields '/' (cs.map slashed)).map fun segment => String.ofList (encoded segment)

theorem pathOf_eq (cs : List Char) : pathOf cs = resolveDots [] (segmentsOf cs) := rfl

@[simp] theorem segmentsOf_nil : segmentsOf [] = [""] := rfl

theorem segmentsOf_ne_nil (cs : List Char) : segmentsOf cs ≠ [] := by
  simp [segmentsOf, Text.fields_ne_nil]

theorem segmentsOf_append (xs ys : List Char) :
    segmentsOf (xs ++ '/' :: ys) = segmentsOf xs ++ segmentsOf ys := by
  rw [segmentsOf, List.map_append, List.map_cons, slashed, if_neg (by decide),
    Text.fields_append_cons, List.map_append]
  rfl

theorem length_bytes_map_slashed (cs : List Char) :
    (bytes (cs.map slashed)).length = (bytes cs).length := by
  induction cs with
  | nil => rfl
  | cons c cs ih =>
    have hc : (String.utf8EncodeChar (slashed c)).length = (String.utf8EncodeChar c).length := by
      unfold slashed
      split_ifs with h
      · rw [h]
        rfl
      · rfl
    rw [List.map_cons, Utf8.bytes_cons, Utf8.bytes_cons, List.length_append, List.length_append,
      hc, ih]

/-! ### The parts of an address -/

/-- What of the text behind the server is the path. -/
def pathPart (cs : List Char) : List Char := (cut '?' (cut '#' cs).1).1

/-- The query in the text behind the server. -/
def queryOf (cs : List Char) : Option String :=
  (cut '?' (cut '#' cs).1).2.map fun q => String.ofList (percentEncode encodedInQuery q)

/-- The fragment in the text behind the server. -/
def fragmentOf (cs : List Char) : Option String :=
  (cut '#' cs).2.map fun f => String.ofList (percentEncode encodedInFragment f)

theorem pathPart_sublist (cs : List Char) : (pathPart cs).Sublist cs :=
  (List.takeWhile_sublist _).trans (List.takeWhile_sublist _)

/-- Text without the marks that end a path. -/
def Unmarked (cs : List Char) : Prop := '#' ∉ cs ∧ '?' ∉ cs

theorem unmarked_append_cons_iff {xs ys : List Char} :
    Unmarked (xs ++ '/' :: ys) ↔ Unmarked xs ∧ Unmarked ys := by
  simp only [Unmarked, List.mem_append, List.mem_cons, not_or]
  tauto

theorem Unmarked.append_slash {cs : List Char} (h : Unmarked cs) : Unmarked (cs ++ ['/']) :=
  unmarked_append_cons_iff.2 ⟨h, List.not_mem_nil, List.not_mem_nil⟩

section Append

variable {xs : List Char} (h : Unmarked xs) (ys : List Char)
include h

theorem pathPart_append : pathPart (xs ++ ys) = xs ++ pathPart ys := by
  rw [pathPart, cut_append h.1, cut_append h.2]
  rfl

theorem queryOf_append : queryOf (xs ++ ys) = queryOf ys := by
  rw [queryOf, cut_append h.1, cut_append h.2]
  rfl

theorem fragmentOf_append : fragmentOf (xs ++ ys) = fragmentOf ys := by
  rw [fragmentOf, cut_append h.1]
  rfl

theorem pathPart_eq_self : pathPart xs = xs := by
  rw [pathPart, cut_of_not_mem h.1, cut_of_not_mem h.2]

end Append

theorem unmarked_pathPart (cs : List Char) : Unmarked (pathPart cs) := by
  have htake : ∀ {mark : Char} (ds : List Char), mark ∉ (cut mark ds).1 := fun ds hmark =>
    absurd (List.mem_takeWhile_imp hmark) (by simp)
  exact ⟨fun h => htake cs ((List.takeWhile_sublist _).mem h), htake _⟩

/-- The text behind the server has no marks if there is neither a query nor a fragment. -/
theorem unmarked_iff {cs : List Char} :
    Unmarked cs ↔ queryOf cs = none ∧ fragmentOf cs = none := by
  constructor
  · intro h
    rw [← List.append_nil cs, queryOf_append h, fragmentOf_append h]
    exact ⟨rfl, rfl⟩
  · rintro ⟨query, fragment⟩
    have hash : '#' ∉ cs := not_mem_of_cut (Option.map_eq_none_iff.1 fragment)
    rw [queryOf, cut_of_not_mem hash] at query
    exact ⟨hash, not_mem_of_cut (Option.map_eq_none_iff.1 query)⟩

/-! ### Text that is one segment -/

/-- Text that is one segment, and is read as itself. -/
structure IsSegment (cs : List Char) : Prop where
  kept : ∀ c ∈ cs, isKept c = true
  unmarked : Unmarked cs
  unslashed : '/' ∉ cs ∧ '\\' ∉ cs
  unescaped : Unescaped cs
  plain : cs ≠ ['.'] ∧ cs ≠ ['.', '.']

namespace IsSegment

variable {cs : List Char} (h : IsSegment cs)
include h

theorem segmentsOf_eq : segmentsOf cs = [String.ofList (encoded cs)] := by
  have hslashed : ∀ c ∈ cs, slashed c = id c := by
    intro c hc
    refine if_neg ?_
    rintro rfl
    exact h.unslashed.2 hc
  rw [segmentsOf, List.map_congr_left hslashed, List.map_id,
    Text.fields_of_not_mem h.unslashed.1, List.map_singleton]

/-- What is written for a segment is read as it. -/
theorem percentDecode_eq :
    Host.percentDecode (Utf8.encode (String.ofList (encoded cs))) = bytes cs := by
  rw [Utf8.encode_ofList, percentDecode_encoded, percentDecode_bytes_eq_iff.2 h.unescaped]

theorem isDots_eq_false : isDots (String.ofList (encoded cs)) = false := by
  rw [Bool.eq_false_iff]
  intro hdots
  rcases percentDecode_of_isDots hdots with hdot | hdot <;> rw [h.percentDecode_eq] at hdot
  · exact h.plain.1 (Utf8.bytes_inj hdot)
  · exact h.plain.2 (Utf8.bytes_inj hdot)

end IsSegment

/-- Text of which a field is read as all of it is one field. -/
theorem eq_of_mem_fields {cs part field : List Char} (among : part.Sublist cs)
    (mem : field ∈ Text.fields '/' (part.map slashed))
    (read : Host.percentDecode (bytes field) = bytes cs) :
    field = cs ∧ part = cs ∧ cs.map slashed = cs ∧ Unescaped cs := by
  -- Nothing can have got lost on the way, as there are as many bytes in the end.
  have hcut := Text.sublist_of_mem_fields mem
  have hlength := congrArg List.length read
  have hread := Host.length_percentDecode_le (bytes field)
  have hfield := Utf8.length_bytes_le hcut
  have hpart := Utf8.length_bytes_le among
  rw [length_bytes_map_slashed] at hfield
  obtain rfl : part = cs := Utf8.eq_of_length_le among (by omega)
  have hslashed : field = part.map slashed :=
    Utf8.eq_of_length_le hcut (by rw [length_bytes_map_slashed]; omega)
  have hdecode : Host.percentDecode (bytes field) = bytes field :=
    Host.percentDecode_eq_self (by omega)
  have hself : field = part := Utf8.bytes_inj (hdecode.symm.trans read)
  exact ⟨hself, rfl, hslashed.symm.trans hself, percentDecode_bytes_eq_iff.1 (hself ▸ hdecode)⟩

/-- Text of which a part comes back as a segment that is read as the text. -/
theorem isSegment_of_mem {cs part : List Char} (among : part.Sublist cs)
    (kept : ∀ c ∈ part, isKept c = true) {segment : String}
    (mem : segment ∈ segmentsOf (pathPart part)) (plain : isDots segment = false)
    (read : Host.percentDecode (Utf8.encode segment) = bytes cs) : IsSegment cs ∧ part = cs := by
  obtain ⟨field, hfield, rfl⟩ := List.mem_map.1 mem
  rw [Utf8.encode_ofList, percentDecode_encoded] at read
  obtain ⟨rfl, hpath, hslashed, unescaped⟩ :=
    eq_of_mem_fields ((pathPart_sublist part).trans among) hfield read
  obtain rfl : part = field := among.antisymm (hpath ▸ pathPart_sublist part)
  have hslash : '/' ∉ part := Text.not_mem_of_mem_fields hfield
  refine ⟨⟨kept, ?_, ⟨hslash, fun hbackslash => ?_⟩, unescaped, ?_, ?_⟩, rfl⟩
  · rw [← hpath]
    exact unmarked_pathPart part
  · rw [← hslashed] at hslash
    exact hslash (List.mem_map.2 ⟨_, hbackslash, rfl⟩)
  · rintro rfl
    cases plain
  · rintro rfl
    cases plain

/-! ### Names -/

/-- Text made of letters. -/
def IsName (name : String) : Prop := ∀ c ∈ name.toList, c.isAlpha = true

instance (name : String) : Decidable (IsName name) := List.decidableBAll _ _

theorem not_special_of_isAlpha {c : Char} (h : c.isAlpha = true) :
    (isKept c = true ∧ isEnd c = false ∧ encodedInPath c = false) ∧
      c ∉ ['#', '?', '/', '\\', '%', '.'] := by
  have hall : ∀ n < 0x80, (Char.ofNat n).isAlpha = true →
      (isKept (Char.ofNat n) = true ∧ isEnd (Char.ofNat n) = false ∧
        encodedInPath (Char.ofNat n) = false) ∧
      Char.ofNat n ∉ ['#', '?', '/', '\\', '%', '.'] := by decide +kernel
  have hascii : c.toNat < 0x80 := by
    rcases Bool.or_eq_true_iff.1 h with hupper | hlower
    · have hlast : c.val ≤ 'Z'.val := (of_decide_eq_true hupper).2
      exact Nat.lt_of_le_of_lt (UInt32.le_iff_toNat_le.1 hlast) (by decide)
    · have hlast : c.val ≤ 'z'.val := of_decide_eq_true (Bool.and_eq_true_iff.1 hlower).2
      exact Nat.lt_of_le_of_lt (UInt32.le_iff_toNat_le.1 hlast) (by decide)
  simpa only [Char.ofNat_toNat] using hall c.toNat hascii (by rwa [Char.ofNat_toNat])

namespace IsName

variable {name : String} (h : IsName name)
include h

theorem not_mem {c : Char} (special : c ∈ ['#', '?', '/', '\\', '%', '.']) : c ∉ name.toList :=
  fun hc => (not_special_of_isAlpha (h c hc)).2 special

theorem isSegment : IsSegment name.toList where
  kept := fun c hc => (not_special_of_isAlpha (h c hc)).1.1
  unmarked := ⟨h.not_mem (by decide), h.not_mem (by decide)⟩
  unslashed := ⟨h.not_mem (by decide), h.not_mem (by decide)⟩
  unescaped := unescaped_of_not_mem (h.not_mem (by decide))
  plain := by
    have hdot : '.' ∉ name.toList := h.not_mem (by decide)
    refine ⟨fun heq => ?_, fun heq => ?_⟩ <;> simp [heq] at hdot

theorem encoded_eq : encoded name.toList = name.toList :=
  encoded_eq_self fun c hc => (not_special_of_isAlpha (h c hc)).1.2.2

theorem segmentsOf_eq : segmentsOf name.toList = [name] := by
  rw [h.isSegment.segmentsOf_eq, h.encoded_eq, String.ofList_toList]

theorem isDots_eq_false : isDots name = false := by
  have hdots := h.isSegment.isDots_eq_false
  rwa [h.encoded_eq, String.ofList_toList] at hdots

theorem tidyEnd_eq : tidyEnd name.toList = name.toList :=
  tidyEnd_eq_self_iff.2 ⟨h.isSegment.kept, fun c hc =>
    (not_special_of_isAlpha (h c (List.mem_of_getLast? hc))).1.2.1⟩

end IsName

end NodeSupply.Url
