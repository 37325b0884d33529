/-!
# Texts within texts
-/

namespace Provision.Text

def occurs {α : Type} [BEq α] (what : List α) : List α → Bool
  | [] => what.isEmpty
  | c :: rest => what.isPrefixOf (c :: rest) || occurs what rest

theorem occurs_append {α : Type} [BEq α] [LawfulBEq α] (a what b : List α) :
    occurs what (a ++ what ++ b) = true := by
  induction a with
  | nil =>
    cases h : what ++ b with
    | nil => simp_all [occurs]
    | cons c rest =>
      have : what <+: c :: rest := h ▸ List.prefix_append what b
      simp [occurs, h, List.isPrefixOf_iff_prefix.2 this]
  | cons c rest ih =>
    simp only [List.cons_append, occurs, Bool.or_eq_true]
    exact Or.inr ih

end Provision.Text
