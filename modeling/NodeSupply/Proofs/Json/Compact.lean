import NodeSupply.Json.Value
import NodeSupply.Text.Numeral

/-!
# Texts of JSON values

The text of a value says where the value ends, so a document is cut into the texts of its parts in
one way only.  This is stated for kinds of values: strings, numbers, truth values, and lists and
objects of values of one kind.

## Main definitions

* `Json.Delimited` : values of a kind are told from their texts, whatever follows.

## Main statements

* `Json.delimited_text`, `Json.delimited_integer`, `Json.delimited_bool` : plain values.
* `Json.delimited_array`, `Json.delimited_object` : lists, and objects.
-/

namespace NodeSupply.Json

variable {α : Type}

/-- Characters that do not begin with a digit. -/
def EndsNumber (cs : List Char) : Prop := ∀ c ∈ cs.head?, c.isDigit = false

/-- The texts of values of a kind begin as no closing bracket does, and a text tells which value it
is and where it ends, unless a digit follows. -/
structure Delimited (text : α → List Char) : Prop where
  begins : ∀ a, ∃ c cs, text a = c :: cs ∧ c ≠ ']' ∧ c ≠ '\x7d'
  inj : ∀ {a b : α} {r t : List Char}, EndsNumber r → EndsNumber t →
    text a ++ r = text b ++ t → a = b ∧ r = t

theorem endsNumber_cons {c : Char} (h : c.isDigit = false) (cs : List Char) :
    EndsNumber (c :: cs) := by
  intro d hd
  obtain rfl : c = d := Option.some.inj hd
  exact h

/-- Values are told by a part of theirs that is told from the text and that they are told by. -/
theorem Delimited.comp {β : Type} {text : β → List Char} (delimited : Delimited text) {f : α → β}
    (inj : ∀ {a b}, f a = f b → a = b) : Delimited fun a => text (f a) where
  begins a := delimited.begins (f a)
  inj hr ht h :=
    have ⟨hsame, hrest⟩ := delimited.inj hr ht h
    ⟨inj hsame, hrest⟩

/-! ### Strings -/

/-- The character at the start of the inside of a string, and what follows it. -/
def readChar : List Char → Option (Char × List Char)
  | [] => none
  | c :: cs =>
    if c ≠ '\\' then some (c, cs)
    else
      match cs with
      | 'b' :: cs => some ('\x08', cs)
      | 'f' :: cs => some ('\x0c', cs)
      | 'n' :: cs => some ('\n', cs)
      | 'r' :: cs => some ('\r', cs)
      | 't' :: cs => some ('\t', cs)
      | 'u' :: '0' :: '0' :: high :: low :: cs => do
        some (Char.ofNat (16 * (← Numeral.hexDigit? high) + (← Numeral.hexDigit? low)), cs)
      | c :: cs => some (c, cs)
      | [] => none

theorem readChar_escapeChar (c : Char) (cs : List Char) :
    readChar (escapeChar c ++ cs) = some (c, cs) := by
  unfold escapeChar
  split
  next h => rw [h]; rfl
  split
  next h => rw [h]; rfl
  split
  next h => rw [h]; rfl
  split
  next h => rw [h]; rfl
  split
  next h => rw [h]; rfl
  split
  next h => rw [h]; rfl
  split
  next h => rw [h]; rfl
  split
  next h =>
    have hdigits : ∀ n < 32, Numeral.hexDigit? (Nat.digitChar (n / 16)) = some (n / 16) ∧
        Numeral.hexDigit? (Nat.digitChar (n % 16)) = some (n % 16) := by decide
    obtain ⟨hhigh, hlow⟩ := hdigits c.toNat h
    simp [readChar, hhigh, hlow, Nat.div_add_mod]
  next hquote hslash _ _ _ _ _ _ => exact if_pos hslash

theorem escapeChar_append_ne (c : Char) (cs t : List Char) : escapeChar c ++ cs ≠ '"' :: t := by
  intro h
  have hread := readChar_escapeChar c cs
  rw [h] at hread
  cases hread
  cases h

theorem escaped_append_inj {l m r t : List Char}
    (h : l.flatMap escapeChar ++ '"' :: r = m.flatMap escapeChar ++ '"' :: t) : l = m ∧ r = t := by
  induction l generalizing m with
  | nil =>
    cases m with
    | nil => exact ⟨rfl, (List.cons.inj h).2⟩
    | cons d m =>
      rw [List.flatMap_cons, List.append_assoc] at h
      exact absurd h.symm (escapeChar_append_ne d _ _)
  | cons c l ih =>
    cases m with
    | nil =>
      rw [List.flatMap_cons, List.append_assoc] at h
      exact absurd h (escapeChar_append_ne c _ _)
    | cons d m =>
      rw [List.flatMap_cons, List.flatMap_cons, List.append_assoc, List.append_assoc] at h
      have hread := congrArg readChar h
      rw [readChar_escapeChar, readChar_escapeChar] at hread
      obtain ⟨rfl, hrest⟩ := Prod.mk.inj (Option.some.inj hread)
      obtain ⟨rfl, hafter⟩ := ih hrest
      exact ⟨rfl, hafter⟩

theorem quoted_append_inj {s u : String} {r t : List Char} (h : quoted s ++ r = quoted u ++ t) :
    s = u ∧ r = t := by
  unfold quoted at h
  simp only [List.cons_append, List.nil_append, List.append_assoc, List.cons.injEq, true_and] at h
  obtain ⟨hchars, hrest⟩ := escaped_append_inj h
  exact ⟨String.toList_inj.1 hchars, hrest⟩

theorem delimited_text : Delimited fun s => compactChars (.text s) where
  begins s := ⟨'"', _, rfl, by decide, by decide⟩
  inj _ _ := quoted_append_inj

/-! ### Numbers and truth values -/

theorem takeWhile_isDigit_write (n : Nat) {r : List Char} (ends : EndsNumber r) :
    (Numeral.write n ++ r).takeWhile Char.isDigit = Numeral.write n := by
  rw [List.takeWhile_append_of_pos fun c => Numeral.isDigit_of_mem_write]
  cases r with
  | nil => simp
  | cons c r => simp [ends c rfl]

theorem write_append_inj {n k : Nat} {r t : List Char} (hr : EndsNumber r) (ht : EndsNumber t)
    (h : Numeral.write n ++ r = Numeral.write k ++ t) : n = k ∧ r = t := by
  have hwrite := congrArg (List.takeWhile Char.isDigit) h
  rw [takeWhile_isDigit_write n hr, takeWhile_isDigit_write k ht] at hwrite
  have hread := congrArg Numeral.read? hwrite
  rw [Numeral.read?_write, Numeral.read?_write] at hread
  rw [hwrite] at h
  exact ⟨Option.some.inj hread, List.append_cancel_left h⟩

theorem compactChars_integer (n : Nat) : compactChars (.integer n) = Numeral.write n :=
  Nat.toList_repr

theorem delimited_integer : Delimited fun n : Nat => compactChars (.integer n) where
  begins n := by
    rw [compactChars_integer]
    cases hwrite : Numeral.write n with
    | nil => exact absurd hwrite (Numeral.write_ne_nil n)
    | cons c cs =>
      have hdigit : c.isDigit := Numeral.isDigit_of_mem_write (hwrite ▸ List.mem_cons_self)
      refine ⟨c, cs, rfl, ?_, ?_⟩ <;> rintro rfl <;> exact absurd hdigit (by decide)
  inj hr ht h := by
    rw [compactChars_integer, compactChars_integer] at h
    exact write_append_inj hr ht h

theorem delimited_bool : Delimited fun b => compactChars (.bool b) where
  begins b := by cases b <;> exact ⟨_, _, rfl, by decide, by decide⟩
  inj := by
    intro a b r t _ _ h
    cases a <;> cases b <;> simp [compactChars] at h <;> exact ⟨rfl, h⟩

/-! ### Lists and objects -/

theorem commas_cons (part : List Char) (parts : List (List Char)) :
    commas (part :: parts) = part ++ parts.flatMap (',' :: ·) := by
  induction parts generalizing part with
  | nil => simp [commas]
  | cons next parts ih =>
    have hnext : commas (part :: next :: parts) = part ++ ',' :: commas (next :: parts) := by
      simp [commas, List.intercalate]
    rw [hnext, ih, List.flatMap_cons, List.cons_append]

section

variable {text : α → List Char} {close : Char}

theorem endsNumber_tail (closes : close = ']' ∨ close = '\x7d') (l : List α) (r : List Char) :
    EndsNumber ((l.map text).flatMap (',' :: ·) ++ close :: r) := by
  cases l with
  | nil => rcases closes with rfl | rfl <;> exact endsNumber_cons rfl _
  | cons a l => exact endsNumber_cons rfl _

/-- Texts with a comma before each, up to a closing bracket, say which values they are. -/
theorem tail_append_inj (delimited : Delimited text) (closes : close = ']' ∨ close = '\x7d')
    {l m : List α} {r t : List Char} (h : (l.map text).flatMap (',' :: ·) ++ close :: r =
      (m.map text).flatMap (',' :: ·) ++ close :: t) : l = m ∧ r = t := by
  have hcomma : close ≠ ',' := by rcases closes with rfl | rfl <;> decide
  induction l generalizing m with
  | nil =>
    cases m with
    | nil => exact ⟨rfl, (List.cons.inj h).2⟩
    | cons b m => exact absurd (List.cons.inj h).1 hcomma
  | cons a l ih =>
    cases m with
    | nil => exact absurd (List.cons.inj h).1.symm hcomma
    | cons b m =>
      simp only [List.map_cons, List.flatMap_cons, List.cons_append, List.append_assoc,
        List.cons.injEq, true_and] at h
      obtain ⟨rfl, hrest⟩ :=
        delimited.inj (endsNumber_tail closes l r) (endsNumber_tail closes m t) h
      obtain ⟨rfl, hafter⟩ := ih hrest
      exact ⟨rfl, hafter⟩

/-- Texts with commas between them, up to a closing bracket, say which values they are. -/
theorem commas_append_inj (delimited : Delimited text) (closes : close = ']' ∨ close = '\x7d')
    {l m : List α} {r t : List Char}
    (h : commas (l.map text) ++ close :: r = commas (m.map text) ++ close :: t) :
    l = m ∧ r = t := by
  have hbegins : ∀ a : α, ∀ cs t, text a ++ cs ≠ close :: t := by
    intro a cs t heq
    obtain ⟨c, cs', htext, hbracket, hbrace⟩ := delimited.begins a
    rw [htext] at heq
    obtain ⟨rfl, -⟩ := List.cons.inj heq
    rcases closes with rfl | rfl
    · exact hbracket rfl
    · exact hbrace rfl
  cases l with
  | nil =>
    cases m with
    | nil => exact ⟨rfl, (List.cons.inj h).2⟩
    | cons b m =>
      rw [List.map_cons, commas_cons, List.append_assoc] at h
      exact absurd h.symm (hbegins b _ _)
  | cons a l =>
    cases m with
    | nil =>
      rw [List.map_cons, commas_cons, List.append_assoc] at h
      exact absurd h (hbegins a _ _)
    | cons b m =>
      rw [List.map_cons, List.map_cons, commas_cons, commas_cons, List.append_assoc,
        List.append_assoc] at h
      obtain ⟨rfl, hrest⟩ :=
        delimited.inj (endsNumber_tail closes l r) (endsNumber_tail closes m t) h
      obtain ⟨rfl, hafter⟩ := tail_append_inj delimited closes hrest
      exact ⟨rfl, hafter⟩

end

theorem itemsChars_eq_map (items : List Json) : itemsChars items = items.map compactChars := by
  induction items with
  | nil => rfl
  | cons item items ih => rw [itemsChars, ih, List.map_cons]

/-- The text of a member of an object. -/
def memberChars (member : String × Json) : List Char :=
  quoted member.1 ++ [':'] ++ compactChars member.2

theorem membersChars_eq_map (members : List (String × Json)) :
    membersChars members = members.map memberChars := by
  induction members with
  | nil => rfl
  | cons member members ih => rw [membersChars, ih, List.map_cons]; rfl

/-- Lists of delimited values are delimited. -/
theorem delimited_array {f : α → Json} (delimited : Delimited fun a => compactChars (f a)) :
    Delimited fun l : List α => compactChars (.array (l.map f)) where
  begins l := ⟨'[', _, rfl, by decide, by decide⟩
  inj := by
    intro l m r t _ _ h
    simp only [compactChars, itemsChars_eq_map, List.map_map, List.append_assoc, List.cons_append,
      List.nil_append, List.cons.injEq, true_and] at h
    exact commas_append_inj delimited (.inl rfl) h

theorem memberChars_append_inj {key key' : String} {v v' : Json} {r t : List Char}
    (h : memberChars (key, v) ++ r = memberChars (key', v') ++ t) :
    key = key' ∧ compactChars v ++ r = compactChars v' ++ t := by
  unfold memberChars at h
  rw [List.append_assoc, List.append_assoc, List.append_assoc, List.append_assoc] at h
  obtain ⟨hkey, hrest⟩ := quoted_append_inj h
  exact ⟨hkey, (List.cons.inj hrest).2⟩

/-- A member with what separates it from the next says which value it has. -/
theorem Delimited.member_inj {f : α → Json} (delimited : Delimited fun a => compactChars (f a))
    {key : String} {a b : α} {c : Char} {r t : List Char} (separates : c.isDigit = false)
    (h : memberChars (key, f a) ++ c :: r = memberChars (key, f b) ++ c :: t) : a = b ∧ r = t := by
  obtain ⟨-, hvalue⟩ := memberChars_append_inj h
  obtain ⟨hsame, hrest⟩ :=
    delimited.inj (endsNumber_cons separates r) (endsNumber_cons separates t) hvalue
  exact ⟨hsame, (List.cons.inj hrest).2⟩

/-- Objects of delimited values, under any keys, are delimited. -/
theorem delimited_object {f : α → Json} (delimited : Delimited fun a => compactChars (f a)) :
    Delimited fun l : List (String × α) =>
      compactChars (.object (l.map fun e => (e.1, f e.2))) where
  begins l := ⟨'\x7b', _, rfl, by decide, by decide⟩
  inj := by
    have hmember : Delimited fun e : String × α => memberChars (e.1, f e.2) := by
      refine ⟨fun e => ⟨'"', _, rfl, by decide, by decide⟩, ?_⟩
      intro a b r t hr ht h
      obtain ⟨hkey, hvalue⟩ := memberChars_append_inj h
      obtain ⟨hsame, hrest⟩ := delimited.inj hr ht hvalue
      exact ⟨Prod.ext hkey hsame, hrest⟩
    intro l m r t _ _ h
    simp only [compactChars, membersChars_eq_map, List.map_map, List.append_assoc,
      List.cons_append, List.nil_append, List.cons.injEq, true_and] at h
    exact commas_append_inj hmember (.inr rfl) h

end NodeSupply.Json
