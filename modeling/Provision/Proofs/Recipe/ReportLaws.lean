import Provision.Proofs.Recipe.Accepted
import Provision.Proofs.Schema.ReportLaws

/-!
# What the report on a recipe is like

No two problems of a recipe have one place, and the rules that a report can name are worded
in three ways (`Document.fields_tidy`). That an alias is repeated is said only of targets
that have all been read.
-/

namespace Provision.Recipe

open Schema
open Checked (Tidy TidyBelow tidyBelow_ok)

variable {es o : Entries} {v : Value} {R : String → Prop}

-- ---------------------------------------------------------------------------
-- Rules
-- ---------------------------------------------------------------------------

theorem Target.rule_text {t : Target} {text : String} (h : t.rule = some text) :
    ∃ rest, text = "target org '" ++ rest := by
  unfold Target.rule at h
  split at h
  · split at h
    · cases h
    · cases h
      exact ⟨_, by simp only [String.append_assoc]; rfl⟩
  · split at h
    · cases h
    · cases h
      exact ⟨_, by simp only [String.append_assoc]; rfl⟩

theorem knownType_text {type text : String} (h : knownType type = some text) :
    ∃ rest, text = "'" ++ rest := by
  unfold knownType at h
  split at h
  · cases h
  · cases h
    exact ⟨_, by simp only [String.append_assoc]; rfl⟩

def repeatedText (names : List String) : String :=
  "target org alias used more than once: " ++ Text.commas names

theorem uniqueTargets_text {ts : List Target} {text : String} (h : uniqueTargets ts = some text) :
    text = repeatedText (duplicates (ts.map (·.aliasName))) := by
  unfold uniqueTargets at h
  split at h
  · cases h
  · cases h
    rfl

inductive RuleText (es : Entries) : String → Prop
  | target (rest : String) : RuleText es ("target org '" ++ rest)
  | type (rest : String) : RuleText es ("'" ++ rest)
  | repeated {o : Entries} {place used : String} {vs : List Value} (names : List String) :
      Holds es "options" "options" place (.dict o) →
      Holds o "targetOrgs" "target_orgs" used (.list vs) → (∀ v ∈ vs, Takes Target.read v) →
      RuleText es (repeatedText names)

-- ---------------------------------------------------------------------------
-- Places
-- ---------------------------------------------------------------------------

theorem Step.fields_tidy : (Step.fields es).Tidy R := by
  have hfields : (Step.fields es).TidyBelow R _ :=
    ((((((tidyBelow_ok.and
      (tidy_required fun _ _ _ => plain_nonEmpty.tidy) (by decide)).and
      (tidy_withDefault fun _ _ _ => plain_string.tidy) (by decide)).and
      (tidy_required fun _ _ _ => plain_nonEmpty.tidy) (by decide)).and
      (tidy_withDefault fun _ _ _ => plain_dict.tidy) (by decide)).and
      (tidy_withDefault fun _ _ _ => plain_string.optional.tidy) (by decide)).and
      (tidy_withDefault fun _ _ _ => plain_string.optional.tidy) (by decide))
  exact hfields.tidy (by decide)

theorem Step.read_tidy : (Step.read v).Tidy R := tidy_record fun _ _ => Step.fields_tidy

theorem Group.fields_tidy : (Group.fields es).Tidy R := by
  have hfields : (Group.fields es).TidyBelow R _ :=
    ((((tidyBelow_ok.and
      (tidy_required fun _ _ _ => plain_nonEmpty.tidy) (by decide)).and
      (tidy_required fun _ _ _ => plain_nonEmpty.tidy) (by decide)).and
      (tidy_required fun _ _ _ => plain_nonEmpty.tidy) (by decide)).and
      (tidy_required fun _ _ _ => tidy_list fun _ _ _ _ => Step.read_tidy) (by decide))
  exact hfields.tidy (by decide)

theorem Group.read_tidy : (Group.read v).Tidy R := tidy_record fun _ _ => Group.fields_tidy

theorem Target.fields_tidy : (Target.fields es).Tidy R := by
  have hfields : (Target.fields es).TidyBelow R _ :=
    ((((((tidyBelow_ok.and
      (tidy_required fun _ _ _ => plain_nonEmpty.tidy) (by decide)).and
      (tidy_required fun _ _ _ => plain_nonEmpty.tidy) (by decide)).and
      (tidy_required fun _ _ _ => plain_nonEmpty.tidy) (by decide)).and
      (tidy_required fun _ _ _ => plain_strictTruth.tidy) (by decide)).and
      (tidy_withDefault fun _ _ _ => plain_string.optional.tidy) (by decide)).and
      (tidy_withDefault fun _ _ _ => plain_string.optional.tidy) (by decide))
  exact hfields.tidy (by decide)

theorem Target.read_tidy : (Target.read v).Tidy (RuleText es) := by
  refine tidy_record fun _ _ => Target.fields_tidy.ensure fun t text _ htext => ?_
  obtain ⟨rest, rfl⟩ := rule_text htext
  exact .target rest

theorem Options.fields_tidy {place : String}
    (hoptions : Holds es "options" "options" place (.dict o)) :
    (Options.fields o).Tidy (RuleText es) := by
  have htargets : ∀ used v, Holds o "targetOrgs" "target_orgs" used v →
      (Checked.ensure (list Target.read v) uniqueTargets).Tidy (RuleText es) := by
    intro used v hv
    refine (tidy_list fun _ _ _ _ => Target.read_tidy).ensure fun ts text hts htext => ?_
    obtain ⟨vs, rfl, htaken⟩ := list_takes_iff.1 ⟨ts, hts⟩
    rw [uniqueTargets_text htext]
    exact .repeated _ hoptions hv htaken
  have hfields : (Options.fields o).TidyBelow (RuleText es) _ :=
    (((((tidyBelow_ok.and
      (tidy_required fun _ _ _ => plain_strictTruth.tidy) (by decide)).and
      (tidy_required fun _ _ _ => plain_string.tidy_list) (by decide)).and
      (tidy_required fun _ _ _ => plain_string.tidy_list) (by decide)).and
      (tidy_required htargets) (by decide)).and
      (tidy_withDefault fun _ _ _ => plain_strictTruth.tidy) (by decide))
  exact hfields.tidy (by decide)

theorem Document.fields_tidy (es : Entries) :
    (Document.fields es).Tidy (RuleText es) ∧
      ∀ p ∈ (Document.fields es).problems, p.place ≠ "" := by
  have htype : ∀ v, (Checked.ensure (nonEmpty v) knownType).Tidy (RuleText es) := by
    refine fun v => plain_nonEmpty.tidy.ensure fun type text _ htext => ?_
    obtain ⟨rest, rfl⟩ := knownType_text htext
    exact .type rest
  have hoptions : ∀ place v, Holds es "options" "options" place v →
      (Options.read v).Tidy (RuleText es) := fun place v hv =>
    tidy_record fun o ho => Options.fields_tidy (ho ▸ hv)
  have hfields : (Document.fields es).TidyBelow (RuleText es) _ :=
    ((((((((tidyBelow_ok.and
      (tidy_required fun _ _ _ => plain_nonEmpty.tidy) (by decide)).and
      (tidy_required fun _ _ _ => plain_string.tidy) (by decide)).and
      (tidy_required fun _ v _ => htype v) (by decide)).and
      (tidy_required fun _ _ _ => plain_string.tidy) (by decide)).and
      (tidy_required fun _ _ _ => plain_string.tidy) (by decide)).and
      (tidy_required hoptions) (by decide)).and
      (tidy_required fun _ _ _ => tidy_list fun _ _ _ _ => Group.read_tidy) (by decide)).and
      (tidy_required fun _ _ _ => plain_dict.tidy_list) (by decide))
  exact ⟨hfields.tidy (by decide), hfields.place_ne_empty (by decide)⟩

-- ---------------------------------------------------------------------------
-- Entries
-- ---------------------------------------------------------------------------

def Document.report (data : Value) (source : String) : List String :=
  match Document.parse data source with
  | .error (.condition .invalidRecipe _ problems) => problems
  | _ => []

theorem Document.report_dict (source : String) :
    Document.report (.dict es) source = (Document.fields es).problems.map Problem.text := by
  rw [report, parse]
  cases Document.fields es <;> rfl

end Provision.Recipe
