import NodeSupply.Proofs.Text.Utf8
import NodeSupply.Rest.Url

/-!
# Percent-encoded text

What must not stand by itself in the path of an address is written as bytes behind percent signs.  A
percent sign stands by itself, so what is written for text is read as that text would be: as the
text itself, unless two hexadecimal digits follow a percent sign in it.

## Main definitions

* `Url.encoded` : the text of a segment as it is written in a path.
* `Url.Unescaped` : no percent sign of some text has two hexadecimal digits behind it.

## Main statements

* `Url.percentDecode_encoded` : what is written for text is read as the text.
* `Url.percentDecode_bytes_eq_iff` : which text is read as itself.
-/

namespace NodeSupply

open Utf8 (bytes)

/-! ### Bytes behind a percent sign -/

namespace Host

/-- The byte that the first two of some bytes stand for behind a percent sign. -/
def pair? : List UInt8 → Option UInt8
  | high :: low :: _ => hexByte? high low
  | _ => none

theorem hexByte?_eq (high low : UInt8) : hexByte? high low =
    (Numeral.hexDigit? (Char.ofNat high.toNat)).bind fun h =>
      (Numeral.hexDigit? (Char.ofNat low.toNat)).map fun l => UInt8.ofNat (h * 16 + l) := by
  change ((Numeral.hexDigit? _).bind fun h => (Numeral.hexDigit? _).bind fun l =>
    some (UInt8.ofNat (h * 16 + l))) = _
  simp only [Option.map_eq_bind]
  rfl

theorem percentDecode_cons {b : UInt8} (h : b ≠ 0x25) (rest : List UInt8) :
    percentDecode (b :: rest) = b :: percentDecode rest := by
  rw [percentDecode]
  exact fun _ _ _ hb _ => h hb

theorem percentDecode_percent (rest : List UInt8) : percentDecode (0x25 :: rest) =
    match pair? rest with
    | some b => b :: percentDecode (rest.drop 2)
    | none => 0x25 :: percentDecode rest := by
  match rest with
  | [] => rfl
  | [_] => rfl
  | high :: low :: rest =>
    rw [percentDecode, pair?]
    cases hexByte? high low <;> rfl

/-- Bytes without percent signs are read as themselves. -/
theorem percentDecode_append {bs : List UInt8} (h : ∀ b ∈ bs, b ≠ 0x25) (rest : List UInt8) :
    percentDecode (bs ++ rest) = bs ++ percentDecode rest := by
  induction bs with
  | nil => rfl
  | cons b bs ih =>
    rw [List.cons_append, percentDecode_cons (h b List.mem_cons_self),
      ih fun b hb => h b (List.mem_cons_of_mem _ hb), List.cons_append]

theorem length_percentDecode_le (bs : List UInt8) : (percentDecode bs).length ≤ bs.length := by
  fun_induction percentDecode bs <;> simp_all; omega

/-- Bytes are read as themselves if none gets lost. -/
theorem percentDecode_eq_self {bs : List UInt8} (h : bs.length ≤ (percentDecode bs).length) :
    percentDecode bs = bs := by
  fun_induction percentDecode bs with
  | case1 high low rest b hb ih =>
    have := length_percentDecode_le rest
    simp only [List.length_cons] at h
    omega
  | case2 high low rest hb ih => rw [ih (by simpa using h)]
  | case3 b rest hb ih => rw [ih (by simpa using h)]
  | case4 => rfl

end Host

/-! ### Characters behind a percent sign -/

namespace Url

/-- The byte that the first two of some characters stand for behind a percent sign. -/
def pair? : List Char → Option UInt8
  | high :: low :: _ =>
    (Numeral.hexDigit? high).bind fun h =>
      (Numeral.hexDigit? low).map fun l => UInt8.ofNat (h * 16 + l)
  | _ => none

theorem pair?_cons_of_eq_none {c : Char} (h : Numeral.hexDigit? c = none) (rest : List Char) :
    pair? (c :: rest) = none := by
  cases rest with
  | nil => rfl
  | cons d rest => rw [pair?, h, Option.bind_none]

theorem pair?_cons_cons_of_eq_none {d : Char} (h : Numeral.hexDigit? d = none) (c : Char)
    (rest : List Char) : pair? (c :: d :: rest) = none := by
  rw [pair?, h]
  cases Numeral.hexDigit? c <;> rfl

theorem hexDigit?_of_le {c : Char} (h : 0x80 ≤ c.toNat) : Numeral.hexDigit? c = none := by
  have hle : ∀ {a b : Char}, a ≤ b ↔ a.toNat ≤ b.toNat := Iff.rfl
  have hdigit : c.isDigit = false := by
    have hnine : '9'.toNat = 0x39 := rfl
    rw [← Bool.not_eq_true, Char.isDigit_iff_toNat]
    omega
  have hlower : ¬ c ≤ 'f' := by
    rw [hle, Nat.not_le]
    exact Nat.lt_of_lt_of_le (by decide) h
  have hupper : ¬ c ≤ 'F' := by
    rw [hle, Nat.not_le]
    exact Nat.lt_of_lt_of_le (by decide) h
  simp [Numeral.hexDigit?, hdigit, hlower, hupper]

/-- The first byte of a character is a hexadecimal digit if the character is one. -/
theorem exists_utf8EncodeChar (c : Char) : ∃ b bs, String.utf8EncodeChar c = b :: bs ∧
    Numeral.hexDigit? (Char.ofNat b.toNat) = Numeral.hexDigit? c ∧ (c.toNat < 0x80 → bs = []) := by
  by_cases h : c.toNat < 0x80
  · refine ⟨_, [], Utf8.utf8EncodeChar_of_ascii h, ?_, fun _ => rfl⟩
    rw [UInt8.toNat_ofNat_of_lt' (by change c.toNat < 256; omega), Char.ofNat_toNat]
  · obtain ⟨b, bs, hb⟩ := List.exists_cons_of_ne_nil (String.utf8EncodeChar_ne_nil (c := c))
    have hbyte : 0x80 ≤ b.toNat :=
      Utf8.le_of_mem_utf8EncodeChar (Nat.le_of_not_lt h) (hb ▸ List.mem_cons_self)
    have hchar : ∀ n < 0x100, (Char.ofNat n).toNat = n := by decide +kernel
    refine ⟨b, bs, hb, ?_, fun hlt => absurd hlt h⟩
    rw [hexDigit?_of_le (Nat.le_of_not_lt h),
      hexDigit?_of_le (by rwa [hchar _ b.toNat_lt])]

/-- Characters stand for the same byte behind a percent sign as their bytes do. -/
theorem pair?_bytes (cs : List Char) : Host.pair? (bytes cs) = pair? cs := by
  cases cs with
  | nil => rfl
  | cons c cs =>
    obtain ⟨b, bs, hc, hdigit, hascii⟩ := exists_utf8EncodeChar c
    rw [Utf8.bytes_cons, hc, List.cons_append]
    by_cases h : c.toNat < 0x80
    · rw [hascii h, List.nil_append]
      cases cs with
      | nil => rfl
      | cons d cs =>
        obtain ⟨b', bs', hd, hdigit', -⟩ := exists_utf8EncodeChar d
        rw [Utf8.bytes_cons, hd, List.cons_append, Host.pair?, Host.hexByte?_eq, hdigit, hdigit']
        rfl
    · have hnone := hexDigit?_of_le (Nat.le_of_not_lt h)
      rw [pair?_cons_of_eq_none hnone]
      cases bs ++ bytes cs with
      | nil => rfl
      | cons b' bs' => rw [Host.pair?, Host.hexByte?_eq, hdigit, hnone, Option.bind_none]

/-! ### What is written in a path -/

/-- The text of a segment as it is written in a path. -/
def encoded (cs : List Char) : List Char := percentEncode encodedInPath cs

theorem encoded_cons_of_eq_true {c : Char} (h : encodedInPath c = true) (cs : List Char) :
    encoded (c :: cs) = (String.utf8EncodeChar c).flatMap percentByte ++ encoded cs := by
  have hbytes : Utf8.encode c.toString = String.utf8EncodeChar c := by
    rw [Utf8.encode_eq]
    simp [bytes]
  simp only [encoded, percentEncode, List.flatMap_cons, h, if_true, hbytes]

theorem encoded_cons_of_eq_false {c : Char} (h : encodedInPath c = false) (cs : List Char) :
    encoded (c :: cs) = c :: encoded cs := by
  simp [encoded, percentEncode, h]

theorem encoded_eq_self {cs : List Char} (h : ∀ c ∈ cs, encodedInPath c = false) :
    encoded cs = cs := by
  induction cs with
  | nil => rfl
  | cons c cs ih =>
    rw [encoded_cons_of_eq_false (h c List.mem_cons_self),
      ih fun d hd => h d (List.mem_cons_of_mem _ hd)]

theorem exists_encoded_cons {c : Char} (h : encodedInPath c = true) (cs : List Char) :
    ∃ rest, encoded (c :: cs) = '%' :: rest := by
  obtain ⟨b, bs, hb, -⟩ := exists_utf8EncodeChar c
  rw [encoded_cons_of_eq_true h, hb]
  exact ⟨_, rfl⟩

/-- Percent signs and hexadecimal digits stand by themselves. -/
theorem of_encodedInPath {c : Char} (h : encodedInPath c = true) :
    Numeral.hexDigit? c = none ∧ c ≠ '%' := by
  by_cases hascii : c.toNat < 0x80
  · have hall : ∀ n < 0x80, encodedInPath (Char.ofNat n) = true →
        Numeral.hexDigit? (Char.ofNat n) = none ∧ Char.ofNat n ≠ '%' := by decide
    simpa only [Char.ofNat_toNat] using hall c.toNat hascii (by rwa [Char.ofNat_toNat])
  · refine ⟨hexDigit?_of_le (Nat.le_of_not_lt hascii), ?_⟩
    rintro rfl
    exact hascii (by decide)

theorem ascii_of_encodedInPath_eq_false {c : Char} (h : encodedInPath c = false) :
    c.toNat < 0x80 := by
  simp only [encodedInPath, encodedInFragment, isControl, Bool.or_eq_false_iff,
    decide_eq_false_iff_not] at h
  omega

/-- A written byte is read back. -/
theorem percentDecode_percentByte (b : UInt8) (rest : List UInt8) :
    Host.percentDecode (bytes (percentByte b) ++ rest) = b :: Host.percentDecode rest := by
  have hdigit : ∀ n < 16, (Nat.digitChar n).toUpper.toNat < 0x80 ∧
      Numeral.hexDigit? (Nat.digitChar n).toUpper = some n := by decide
  have hbyte : ∀ c : Char, c.toNat < 0x80 → Char.ofNat (UInt8.ofNat c.toNat).toNat = c :=
    fun c hc => by
      rw [UInt8.toNat_ofNat_of_lt' (by change c.toNat < 256; omega), Char.ofNat_toNat]
  have hb := b.toNat_lt
  obtain ⟨hhigh, hhigh'⟩ := hdigit (b.toNat / 16) (by omega)
  obtain ⟨hlow, hlow'⟩ := hdigit (b.toNat % 16) (by omega)
  have hvalue : UInt8.ofNat (b.toNat / 16 * 16 + b.toNat % 16) = b := by
    rw [Nat.div_add_mod', UInt8.ofNat_toNat]
  rw [percentByte, Utf8.bytes_cons, Utf8.bytes_cons, Utf8.bytes_cons,
    Utf8.utf8EncodeChar_of_ascii hhigh, Utf8.utf8EncodeChar_of_ascii hlow]
  change Host.percentDecode (0x25 :: UInt8.ofNat _ :: UInt8.ofNat _ :: rest) = _
  rw [Host.percentDecode_percent, Host.pair?, Host.hexByte?_eq, hbyte _ hhigh, hbyte _ hlow,
    hhigh', hlow']
  simp only [Option.map_some, Option.bind_some, hvalue, List.drop_succ_cons, List.drop_zero]

theorem percentDecode_flatMap (bs rest : List UInt8) :
    Host.percentDecode (bytes (bs.flatMap percentByte) ++ rest) =
      bs ++ Host.percentDecode rest := by
  induction bs with
  | nil => rfl
  | cons b bs ih =>
    rw [List.flatMap_cons, Utf8.bytes_append, List.append_assoc, percentDecode_percentByte, ih,
      List.cons_append]

theorem ne_of_mem_utf8EncodeChar {c : Char} (h : c ≠ '%') {b : UInt8}
    (hb : b ∈ String.utf8EncodeChar c) : b ≠ 0x25 := by
  rintro rfl
  by_cases hascii : c.toNat < 0x80
  · rw [Utf8.utf8EncodeChar_of_ascii hascii, List.mem_singleton] at hb
    have hnumber := congrArg UInt8.toNat hb
    rw [UInt8.toNat_ofNat_of_lt' (by change c.toNat < 256; omega)] at hnumber
    exact h (Char.toNat_inj.1 hnumber.symm)
  · exact absurd (Utf8.le_of_mem_utf8EncodeChar (Nat.le_of_not_lt hascii) hb) (by decide)

/-- Two characters stand for a byte behind a percent sign if what is written for them does. -/
theorem pair?_encoded (cs : List Char) : pair? (encoded cs) = pair? cs := by
  have hpercent : Numeral.hexDigit? '%' = none := by decide
  cases cs with
  | nil => rfl
  | cons c cs =>
    by_cases hc : encodedInPath c = true
    · obtain ⟨rest, hrest⟩ := exists_encoded_cons hc cs
      rw [hrest, pair?_cons_of_eq_none hpercent, pair?_cons_of_eq_none (of_encodedInPath hc).1]
    · rw [encoded_cons_of_eq_false (Bool.eq_false_iff.2 hc)]
      cases cs with
      | nil => rfl
      | cons d cs =>
        by_cases hd : encodedInPath d = true
        · obtain ⟨rest, hrest⟩ := exists_encoded_cons hd cs
          rw [hrest, pair?_cons_cons_of_eq_none hpercent,
            pair?_cons_cons_of_eq_none (of_encodedInPath hd).1]
        · rw [encoded_cons_of_eq_false (Bool.eq_false_iff.2 hd)]
          rfl

theorem exists_of_pair? {cs : List Char} {b : UInt8} (h : pair? cs = some b) :
    ∃ high low after, cs = high :: low :: after ∧ Numeral.hexDigit? high ≠ none ∧
      Numeral.hexDigit? low ≠ none := by
  match cs, h with
  | high :: low :: after, h =>
    obtain ⟨n, hhigh, h⟩ := Option.bind_eq_some_iff.1 h
    obtain ⟨k, hlow, -⟩ := Option.map_eq_some_iff.1 h
    exact ⟨high, low, after, rfl, by rw [hhigh]; exact nofun, by rw [hlow]; exact nofun⟩

theorem drop_two_bytes {high low : Char} (hhigh : high.toNat < 0x80) (hlow : low.toNat < 0x80)
    (after : List Char) : (bytes (high :: low :: after)).drop 2 = bytes after := by
  rw [Utf8.bytes_cons, Utf8.bytes_cons, Utf8.utf8EncodeChar_of_ascii hhigh,
    Utf8.utf8EncodeChar_of_ascii hlow]
  rfl

/-- What is written for text in a path is read as the text itself is. -/
theorem percentDecode_encoded (cs : List Char) :
    Host.percentDecode (bytes (encoded cs)) = Host.percentDecode (bytes cs) := by
  -- A percent sign is read with the two characters behind it, so the induction is on the length.
  induction hlength : cs.length using Nat.strongRecOn generalizing cs with
  | ind n ih =>
    subst hlength
    cases cs with
    | nil => rfl
    | cons c cs =>
      have hrest := ih cs.length (by simp) cs rfl
      by_cases hc : encodedInPath c = true
      · rw [encoded_cons_of_eq_true hc, Utf8.bytes_append, percentDecode_flatMap, Utf8.bytes_cons,
          Host.percentDecode_append fun b => ne_of_mem_utf8EncodeChar (of_encodedInPath hc).2,
          hrest]
      · have hplain : encodedInPath c = false := Bool.eq_false_iff.2 hc
        rw [encoded_cons_of_eq_false hplain, Utf8.bytes_cons, Utf8.bytes_cons]
        by_cases hpercent : c = '%'
        · subst hpercent
          change Host.percentDecode (0x25 :: bytes (encoded cs)) =
            Host.percentDecode (0x25 :: bytes cs)
          rw [Host.percentDecode_percent, Host.percentDecode_percent, pair?_bytes, pair?_bytes,
            pair?_encoded]
          cases hpair : pair? cs with
          | none => exact congrArg (0x25 :: ·) hrest
          | some b =>
            obtain ⟨high, low, after, rfl, hhigh, hlow⟩ := exists_of_pair? hpair
            have hplain : ∀ {d}, Numeral.hexDigit? d ≠ none → encodedInPath d = false :=
              fun hd => Bool.eq_false_iff.2 fun h => hd (of_encodedInPath h).1
            have hascii : ∀ {d}, Numeral.hexDigit? d ≠ none → d.toNat < 0x80 :=
              fun hd => ascii_of_encodedInPath_eq_false (hplain hd)
            rw [encoded_cons_of_eq_false (hplain hhigh), encoded_cons_of_eq_false (hplain hlow),
              drop_two_bytes (hascii hhigh) (hascii hlow),
              drop_two_bytes (hascii hhigh) (hascii hlow)]
            exact congrArg (b :: ·) (ih after.length (by simp; omega) after rfl)
        · rw [Host.percentDecode_append fun b => ne_of_mem_utf8EncodeChar hpercent,
            Host.percentDecode_append fun b => ne_of_mem_utf8EncodeChar hpercent, hrest]

/-! ### Text that is read as itself -/

/-- No percent sign of some text has two hexadecimal digits behind it. -/
def Unescaped (cs : List Char) : Prop :=
  ∀ before high low after, cs = before ++ '%' :: high :: low :: after →
    Numeral.hexDigit? high = none ∨ Numeral.hexDigit? low = none

theorem pair?_eq_none_iff {cs : List Char} : pair? cs = none ↔
    ∀ high low after, cs = high :: low :: after →
      Numeral.hexDigit? high = none ∨ Numeral.hexDigit? low = none := by
  constructor
  · rintro h high low after rfl
    by_contra hdigits
    obtain ⟨hhigh, hlow⟩ := not_or.1 hdigits
    obtain ⟨n, hn⟩ := Option.ne_none_iff_exists'.1 hhigh
    obtain ⟨k, hk⟩ := Option.ne_none_iff_exists'.1 hlow
    rw [pair?, hn, hk] at h
    cases h
  · intro h
    by_contra hsome
    obtain ⟨b, hb⟩ := Option.ne_none_iff_exists'.1 hsome
    obtain ⟨high, low, after, hcs, hhigh, hlow⟩ := exists_of_pair? hb
    exact (h high low after hcs).elim hhigh hlow

theorem unescaped_cons_iff {c : Char} {cs : List Char} :
    Unescaped (c :: cs) ↔ (c = '%' → pair? cs = none) ∧ Unescaped cs := by
  constructor
  · intro h
    refine ⟨?_, fun before high low after hcs => h (c :: before) high low after (by rw [hcs]; rfl)⟩
    rintro rfl
    exact pair?_eq_none_iff.2 fun high low after hcs => h [] high low after (by rw [hcs]; rfl)
  · rintro ⟨hfirst, hrest⟩ before high low after hcs
    cases before with
    | nil =>
      obtain ⟨rfl, rfl⟩ := List.cons.inj hcs
      exact pair?_eq_none_iff.1 (hfirst rfl) high low after rfl
    | cons d before =>
      obtain ⟨rfl, rfl⟩ := List.cons.inj hcs
      exact hrest before high low after rfl

theorem unescaped_of_not_mem {cs : List Char} (h : '%' ∉ cs) : Unescaped cs := by
  rintro before high low after rfl
  exact absurd (List.mem_append_right _ List.mem_cons_self) h

/-- Text is read as itself if no percent sign in it has two hexadecimal digits behind it. -/
theorem percentDecode_bytes_eq_iff {cs : List Char} :
    Host.percentDecode (bytes cs) = bytes cs ↔ Unescaped cs := by
  induction cs with
  | nil => exact iff_of_true rfl (unescaped_of_not_mem List.not_mem_nil)
  | cons c cs ih =>
    rw [unescaped_cons_iff, ← ih]
    by_cases hpercent : c = '%'
    · subst hpercent
      change Host.percentDecode (0x25 :: bytes cs) = 0x25 :: bytes cs ↔ _
      rw [Host.percentDecode_percent, pair?_bytes]
      cases hpair : pair? cs with
      | none => simp
      | some b =>
        obtain ⟨high, low, after, rfl, -, -⟩ := exists_of_pair? hpair
        -- The three characters are read as one byte.
        refine iff_of_false (fun h => ?_) (by simp)
        have hlength := congrArg List.length h
        have hle := Host.length_percentDecode_le ((bytes (high :: low :: after)).drop 2)
        have := Utf8.one_le_length_utf8EncodeChar high
        have := Utf8.one_le_length_utf8EncodeChar low
        simp only [List.length_cons, List.length_drop, Utf8.bytes_cons, List.length_append]
          at hlength hle
        omega
    · rw [Utf8.bytes_cons, Host.percentDecode_append fun b => ne_of_mem_utf8EncodeChar hpercent]
      simp [hpercent]

end Url

end NodeSupply
