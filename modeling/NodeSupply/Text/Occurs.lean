/-!
# Occurrences

Whether text holds other text.  Main statement: it does exactly if the other is a run of its
characters (`occurs_iff`).
-/

namespace NodeSupply.Text

/-- Whether `part` stands somewhere in a list of characters. -/
def occurs (part : List Char) : List Char → Bool
  | [] => part.isEmpty
  | c :: cs => part.isPrefixOf (c :: cs) || occurs part cs

theorem occurs_iff {part cs : List Char} : occurs part cs = true ↔ part <:+: cs := by
  induction cs with
  | nil => simp [occurs]
  | cons c cs ih => simp [occurs, ih, List.infix_cons_iff]

end NodeSupply.Text
