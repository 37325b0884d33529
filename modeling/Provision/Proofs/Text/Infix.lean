import Provision.Text.Occurs

/-!
# What stands in a text

A search finds what is an infix of the text (`occurs_iff`). What stands in two texts that are
joined by a separator stands in one of them, or goes over the seam, and then it holds the
separator.
-/

namespace Provision.Text

variable {α : Type} {p a b : List α} {sep : α}

theorem occurs_iff [BEq α] [LawfulBEq α] : occurs p a = true ↔ p <:+: a := by
  induction a with
  | nil => simp [occurs]
  | cons c rest ih => rw [occurs, Bool.or_eq_true, List.isPrefixOf_iff_prefix, ih, List.infix_cons_iff]

theorem infix_joined_iff :
    p <:+: a ++ sep :: b ↔
      p <:+: a ∨ p <:+: b ∨ ∃ x y, p = x ++ sep :: y ∧ x <:+ a ∧ y <+: b := by
  rw [List.infix_append_iff, List.infix_cons_iff]
  constructor
  · rintro (h | (h | h) | ⟨x, y, rfl, hx, hy⟩)
    · exact .inl h
    · obtain rfl | ⟨y, rfl, hy⟩ := List.prefix_cons_iff.1 h
      · exact .inl List.nil_infix
      · exact .inr (.inr ⟨[], y, rfl, List.nil_suffix, hy⟩)
    · exact .inr (.inl h)
    · obtain rfl | ⟨z, rfl, hz⟩ := List.prefix_cons_iff.1 hy
      · exact .inl (by simpa using hx.isInfix)
      · exact .inr (.inr ⟨x, z, rfl, hx, hz⟩)
  · rintro (h | h | ⟨x, y, rfl, hx, hy⟩)
    · exact .inl h
    · exact .inr (.inl (.inr h))
    · exact .inr (.inr ⟨x, sep :: y, rfl, hx, (List.prefix_cons_inj sep).2 hy⟩)

theorem infix_joined_iff_of_not_mem (h : sep ∉ p) :
    p <:+: a ++ sep :: b ↔ p <:+: a ∨ p <:+: b := by
  rw [infix_joined_iff]
  refine or_congr_right (or_iff_left ?_)
  rintro ⟨x, y, rfl, -, -⟩
  simp at h

/-- What does not begin at the end of the first text stands in one of the two. -/
theorem infix_append_iff_of_apart (h : ∀ x, x <+: p → x <:+ a → x = []) :
    p <:+: a ++ b ↔ p <:+: a ∨ p <:+: b := by
  rw [List.infix_append_iff]
  refine or_congr_right (or_iff_left_of_imp ?_)
  rintro ⟨x, y, rfl, hx, hy⟩
  rw [h x (List.prefix_append x y) hx]
  exact hy.isInfix

end Provision.Text
