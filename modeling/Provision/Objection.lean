import Provision.Fault

/-!
# Objections

Things are handed over one at a time to someone who may refuse one of them. What is
refused is not taken, and what stands behind it is not offered any more. So a start
of the row is taken (`taken_isPrefix`), and all of it exactly when nothing in it is
refused (`refused_eq_none_iff`).
-/

namespace Provision

/-- The fault that comes of handing something over, if that is refused. -/
abbrev Objection (α : Type) := α → Option Fault

namespace Objection

variable {α : Type}

def never : Objection α := fun _ => none

def taken (o : Objection α) : List α → List α × Option Fault
  | [] => ([], none)
  | a :: rest =>
    match o a with
    | some f => ([], some f)
    | none =>
      let (more, refused) := taken o rest
      (a :: more, refused)

variable {o : Objection α} {as : List α}

theorem taken_isPrefix : (taken o as).1 <+: as := by
  induction as with
  | nil => exact List.prefix_refl _
  | cons a rest ih =>
    unfold taken
    split
    · exact List.nil_prefix
    · exact (List.prefix_cons_inj a).2 ih

theorem refused_eq_none_iff : (taken o as).2 = none ↔ ∀ a ∈ as, o a = none := by
  induction as with
  | nil => simp [taken]
  | cons a rest ih =>
    unfold taken
    split
    · next h => simp [h]
    · next h => simp [h, ih]

theorem taken_of_forall (h : ∀ a ∈ as, o a = none) : taken o as = (as, none) := by
  induction as with
  | nil => rfl
  | cons a rest ih =>
    simp [taken, h a (List.mem_cons_self ..), ih fun b hb => h b (List.mem_cons_of_mem a hb)]

end Objection

end Provision
