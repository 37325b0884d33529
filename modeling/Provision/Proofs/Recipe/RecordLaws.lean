import Provision.Proofs.SchemaLaws
import Provision.Recipe.Record

/-!
# Reading back what was written

A part of a document is read back as it was, whichever spelling of the keys is written,
provided that the texts that have to be there are.
-/

namespace Provision.Recipe

open Schema

structure Step.Sound (s : Step) : Prop where
  name : Worded s.name
  action : Worded s.action

theorem Step.read_record {s s' : Step} {sp : Spelling} :
    Step.read (s.record sp) = .ok s' ↔ s = s' ∧ s.Sound := by
  -- Every key is found under the spelling that was written.
  have hread : Step.read (s.record sp) =
      Checked.and (.and (.and (.and (.and (.and (.ok Step.mk)
        (.under (sp.pick "stepName" "step_name") (nonEmpty (.str s.name))))
        (.under "description" (string (.str s.description))))
        (.under "action" (nonEmpty (.str s.action))))
        (.under "options" (dict (.dict s.options))))
        (.under (sp.pick "onSuccess" "on_success") (optional string (.ofOption s.onSuccess))))
        (.under (sp.pick "onError" "on_error") (optional string (.ofOption s.onError))) := by
    cases sp <;> rfl
  simp only [hread, string, dict, optional_string_ofOption, nonEmpty_str_eq_ok, Checked.and_eq_ok,
    Checked.under_eq_ok, Except.ok.injEq, and_assoc, exists_and_left, exists_eq_left']
  constructor
  · rintro ⟨hname, haction, rfl⟩
    exact ⟨rfl, hname, haction⟩
  · rintro ⟨rfl, hname, haction⟩
    exact ⟨hname, haction, rfl⟩

structure Group.Sound (g : Group) : Prop where
  name : Worded g.name
  aliasName : Worded g.aliasName
  description : Worded g.description
  steps : ∀ s ∈ g.steps, s.Sound

theorem Group.read_record {g g' : Group} {sp : Spelling} :
    Group.read (g.record sp) = .ok g' ↔ g = g' ∧ g.Sound := by
  have hread : Group.read (g.record sp) =
      Checked.and (.and (.and (.and (.ok Group.mk)
        (.under (sp.pick "stepGroupName" "step_group_name") (nonEmpty (.str g.name))))
        (.under "alias" (nonEmpty (.str g.aliasName))))
        (.under "description" (nonEmpty (.str g.description))))
        (.under (sp.pick "recipeSteps" "recipe_steps")
          (list Step.read (.list (g.steps.map (·.record sp))))) := by
    cases sp <;> rfl
  have hsteps := list_map_eq_ok (fun s s' => @Step.read_record s s' sp) g.steps
  simp only [hread, hsteps, nonEmpty_str_eq_ok, Checked.and_eq_ok, Checked.under_eq_ok,
    Except.ok.injEq, and_assoc, exists_and_left, exists_eq_left']
  constructor
  · rintro ⟨hname, halias, hdescription, hsteps, rfl⟩
    exact ⟨rfl, hname, halias, hdescription, hsteps⟩
  · rintro ⟨rfl, hname, halias, hdescription, hsteps⟩
    exact ⟨hname, halias, hdescription, hsteps, rfl⟩

end Provision.Recipe
