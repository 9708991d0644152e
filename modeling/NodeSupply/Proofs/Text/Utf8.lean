import Mathlib.Data.List.Basic
import NodeSupply.Text.Utf8

/-!
# The bytes of text

The bytes of text are those of its characters, one after the other.  A character of ASCII is one
byte, the one of its number, and all bytes of any other character are greater.

## Main statements

* `Utf8.encode_eq` : the bytes of text, character by character.
* `Utf8.encode_inj` : different texts have different bytes.
* `Utf8.eq_of_length_le` : a part of text that has as many bytes is all of it.
-/

namespace NodeSupply

theorem toList_loop_eq (bytes : ByteArray) (i : Nat) (read : List UInt8) :
    ByteArray.toList.loop bytes i read = read.reverse ++ bytes.data.toList.drop i := by
  fun_induction ByteArray.toList.loop bytes i read with
  | case1 i read h ih =>
    have hi : i < bytes.data.toList.length := by simpa using h
    rw [ih, List.drop_eq_getElem_cons hi]
    simp [ByteArray.get!, getElem!_pos bytes.data i h]
  | case2 i read h =>
    have hi : bytes.data.toList.length ≤ i := by simpa using h
    rw [List.drop_eq_nil_of_le hi, List.append_nil]

theorem toList_byteArray (bytes : ByteArray) : bytes.toList = bytes.data.toList :=
  toList_loop_eq bytes 0 []

namespace Utf8

theorem encode_inj {s t : String} (h : encode s = encode t) : s = t := by
  unfold encode at h
  rw [toList_byteArray, toList_byteArray] at h
  exact String.toByteArray_inj.1 (ByteArray.ext (Array.toList_inj.1 h))

/-- The bytes of some characters. -/
def bytes (cs : List Char) : List UInt8 := cs.flatMap String.utf8EncodeChar

@[simp] theorem bytes_nil : bytes [] = [] := rfl

@[simp] theorem bytes_cons (c : Char) (cs : List Char) :
    bytes (c :: cs) = String.utf8EncodeChar c ++ bytes cs := rfl

@[simp] theorem bytes_append (cs ds : List Char) : bytes (cs ++ ds) = bytes cs ++ bytes ds :=
  List.flatMap_append

theorem encode_ofList (cs : List Char) : encode (String.ofList cs) = bytes cs := by
  rw [encode, toList_byteArray, String.toUTF8_eq_toByteArray, String.toByteArray_ofList,
    List.utf8Encode, List.toList_data_toByteArray]
  rfl

/-- The bytes of text are those of its characters. -/
theorem encode_eq (s : String) : encode s = bytes s.toList := by
  rw [← encode_ofList, String.ofList_toList]

theorem bytes_inj {cs ds : List Char} (h : bytes cs = bytes ds) : cs = ds := by
  rw [← encode_ofList, ← encode_ofList] at h
  exact String.ofList_injective (encode_inj h)

/-- A character of ASCII is a byte. -/
theorem utf8EncodeChar_of_ascii {c : Char} (h : c.toNat < 0x80) :
    String.utf8EncodeChar c = [UInt8.ofNat c.toNat] :=
  if_pos (Nat.le_of_lt_succ h)

/-- All bytes of a character that is not in ASCII are greater than those that are. -/
theorem le_of_mem_utf8EncodeChar {c : Char} (h : 0x80 ≤ c.toNat) {b : UInt8}
    (hb : b ∈ String.utf8EncodeChar c) : 0x80 ≤ b.toNat := by
  have hc : ¬ c.val.toNat ≤ 0x7f := Nat.not_le.2 h
  simp only [String.utf8EncodeChar, if_neg hc] at hb
  split_ifs at hb <;> simp only [List.mem_cons, List.not_mem_nil, or_false] at hb <;>
    rcases hb with rfl | rfl | rfl | rfl <;> simp only [UInt8.toNat_ofNat'] <;> omega

theorem one_le_length_utf8EncodeChar (c : Char) : 1 ≤ (String.utf8EncodeChar c).length := by
  rw [String.length_utf8EncodeChar]
  exact c.utf8Size_pos

theorem length_bytes_le {cs ds : List Char} (part : cs.Sublist ds) :
    (bytes cs).length ≤ (bytes ds).length := by
  induction part with
  | slnil => simp
  | cons c part ih => simp; omega
  | cons_cons c part ih => simp; omega

/-- A part of text that has as many bytes as all of it is all of it. -/
theorem eq_of_length_le {cs ds : List Char} (part : cs.Sublist ds)
    (h : (bytes ds).length ≤ (bytes cs).length) : cs = ds := by
  induction part with
  | slnil => rfl
  | cons c part ih =>
    have := length_bytes_le part
    have := one_le_length_utf8EncodeChar c
    rw [bytes_cons, List.length_append] at h
    omega
  | cons_cons c part ih =>
    rw [bytes_cons, bytes_cons, List.length_append, List.length_append] at h
    rw [ih (by omega)]

end Utf8

end NodeSupply
