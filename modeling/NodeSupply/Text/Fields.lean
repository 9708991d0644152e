/-!
# Separated fields

Text cut at every occurrence of a separator.  Main statements: joining the fields with the
separator gives the text back (`intercalate_fields`), and text determines what stands around its
last separator (`append_sep_inj`).
-/

namespace NodeSupply.Text

/-- The pieces of `cs` between the occurrences of `sep`; always at least one. -/
def fields (sep : Char) : List Char → List (List Char)
  | [] => [[]]
  | c :: cs =>
    if c = sep then [] :: fields sep cs
    else
      match fields sep cs with
      | [] => [[c]]
      | field :: rest => (c :: field) :: rest

theorem fields_ne_nil (sep : Char) (cs : List Char) : fields sep cs ≠ [] := by
  cases cs with
  | nil => simp [fields]
  | cons c cs =>
    rw [fields]
    split
    · simp
    · split <;> simp

/-- Joining the fields with the separator gives the text back. -/
theorem intercalate_fields (sep : Char) (cs : List Char) :
    [sep].intercalate (fields sep cs) = cs := by
  induction cs with
  | nil => rfl
  | cons c cs ih =>
    obtain ⟨field, rest, h⟩ := List.exists_cons_of_ne_nil (fields_ne_nil sep cs)
    rw [h] at ih
    rw [fields, h]
    split
    · rename_i hc
      cases rest <;> simp_all [List.intercalate]
    · cases rest <;> simp_all [List.intercalate]

/-- Text without the separator is one field. -/
theorem fields_of_not_mem {sep : Char} {cs : List Char} (h : sep ∉ cs) : fields sep cs = [cs] := by
  induction cs with
  | nil => rfl
  | cons c cs ih =>
    obtain ⟨hc, hcs⟩ := not_or.1 (fun hm => h (List.mem_cons.2 hm))
    rw [fields, if_neg (Ne.symm hc), ih hcs]

/-- No field has the separator. -/
theorem not_mem_of_mem_fields {sep : Char} {cs field : List Char} (h : field ∈ fields sep cs) :
    sep ∉ field := by
  induction cs generalizing field with
  | nil =>
    rw [List.mem_singleton.1 h]
    exact List.not_mem_nil
  | cons c cs ih =>
    obtain ⟨first, rest, hfields⟩ := List.exists_cons_of_ne_nil (fields_ne_nil sep cs)
    rw [hfields] at ih
    rw [fields, hfields] at h
    split at h
    next =>
      rcases List.mem_cons.1 h with rfl | h
      · exact List.not_mem_nil
      · exact ih h
    next hc =>
      rcases List.mem_cons.1 h with rfl | h
      · exact List.not_mem_cons_of_ne_of_not_mem (Ne.symm hc) (ih List.mem_cons_self)
      · exact ih (List.mem_cons_of_mem _ h)

/-- A field is a part of the text. -/
theorem sublist_of_mem_fields {sep : Char} {cs field : List Char}
    (h : field ∈ fields sep cs) : field.Sublist cs := by
  induction cs generalizing field with
  | nil =>
    obtain rfl := List.mem_singleton.1 h
    exact List.nil_sublist []
  | cons c cs ih =>
    obtain ⟨first, rest, hfields⟩ := List.exists_cons_of_ne_nil (fields_ne_nil sep cs)
    rw [hfields] at ih
    rw [fields, hfields] at h
    split at h
    next =>
      rcases List.mem_cons.1 h with rfl | h
      · exact List.nil_sublist _
      · exact (ih h).cons c
    next =>
      rcases List.mem_cons.1 h with rfl | h
      · exact (ih List.mem_cons_self).cons_cons c
      · exact (ih (List.mem_cons_of_mem _ h)).cons c

/-- Text is cut at any separator. -/
theorem fields_append_cons (sep : Char) (xs ys : List Char) :
    fields sep (xs ++ sep :: ys) = fields sep xs ++ fields sep ys := by
  induction xs with
  | nil => simp [fields]
  | cons c cs ih =>
    rw [List.cons_append, fields, fields, ih]
    split
    next => rfl
    next =>
      obtain ⟨field, rest, h⟩ := List.exists_cons_of_ne_nil (fields_ne_nil sep cs)
      rw [h]
      rfl

/-- The first field ends at the first separator. -/
theorem fields_append {sep : Char} {first : List Char} (h : sep ∉ first) (rest : List Char) :
    fields sep (first ++ sep :: rest) = first :: fields sep rest := by
  rw [fields_append_cons, fields_of_not_mem h, List.singleton_append]

/-- Nothing stands between a separator and the same separator. -/
theorem eq_nil_of_append_sep {sep : Char} {between last last' : List Char} (hlast : sep ∉ last)
    (h : sep :: last = between ++ sep :: last') : between = [] := by
  cases between with
  | nil => rfl
  | cons c between =>
    have hmem : sep ∈ last := (List.cons.inj h).2 ▸ List.mem_append_right _ List.mem_cons_self
    exact absurd hmem hlast

/-- Text determines what stands before and after its last separator. -/
theorem append_sep_inj {sep : Char} {before before' last last' : List Char} (hlast : sep ∉ last)
    (hlast' : sep ∉ last') (h : before ++ sep :: last = before' ++ sep :: last') :
    before = before' ∧ last = last' := by
  rcases List.append_eq_append_iff.1 h with ⟨between, hbefore, hrest⟩ | ⟨between, hbefore, hrest⟩
  · obtain rfl := eq_nil_of_append_sep hlast hrest
    exact ⟨by rw [hbefore, List.append_nil], (List.cons.inj hrest).2⟩
  · obtain rfl := eq_nil_of_append_sep hlast' hrest
    exact ⟨by rw [hbefore, List.append_nil], (List.cons.inj hrest).2.symm⟩

end NodeSupply.Text
