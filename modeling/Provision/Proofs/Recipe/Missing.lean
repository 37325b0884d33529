import Provision.Proofs.Recipe.ReportLaws

/-!
# Missing keys

Each part of a recipe has keys that it cannot do without. A report names every one that is
missing, and names it once, whatever else is wrong (`Document.missing_reported`).
-/

namespace Provision.Recipe

open Schema

inductive Part where
  | document
  | options
  | target
  | group
  | step
  deriving DecidableEq, Repr

/-- The keys that a part cannot do without, each in both spellings. -/
def Part.required : Part → List (String × String)
  | .document => [("recipeName", "recipe_name"), ("description", "description"),
      ("recipeType", "recipe_type"), ("recipeVersion", "recipe_version"),
      ("schemaVersion", "schema_version"), ("options", "options"),
      ("recipeStepGroups", "recipe_step_groups"), ("handlers", "handlers")]
  | .options => [("haltOnError", "halt_on_error"), ("skipGroups", "skip_groups"),
      ("skipActions", "skip_actions"), ("targetOrgs", "target_orgs")]
  | .target => [("orgName", "org_name"), ("alias", "alias"), ("description", "description"),
      ("isScratchOrg", "is_scratch_org")]
  | .group => [("stepGroupName", "step_group_name"), ("alias", "alias"),
      ("description", "description"), ("recipeSteps", "recipe_steps")]
  | .step => [("stepName", "step_name"), ("action", "action")]

/-- A record, or one below it that is a part of the recipe, lacks a key that it cannot do
without. The path goes down to the key through the keys and positions of the data. -/
inductive Absent : Part → Entries → List String → Prop
  | here {part : Part} {es : Entries} {key second : String} :
      (key, second) ∈ part.required → Lacks es key second → Absent part es [key]
  | options {es o : Entries} {used : String} {rest : List String} :
      Holds es "options" "options" used (.dict o) → Absent .options o rest →
      Absent .document es (used :: rest)
  | target {es t : Entries} {used : String} {vs : List Value} {i : Nat} {rest : List String} :
      Holds es "targetOrgs" "target_orgs" used (.list vs) → vs[i]? = some (.dict t) →
      Absent .target t rest → Absent .options es (used :: toString i :: rest)
  | group {es g : Entries} {used : String} {vs : List Value} {i : Nat} {rest : List String} :
      Holds es "recipeStepGroups" "recipe_step_groups" used (.list vs) → vs[i]? = some (.dict g) →
      Absent .group g rest → Absent .document es (used :: toString i :: rest)
  | step {es s : Entries} {used : String} {vs : List Value} {i : Nat} {rest : List String} :
      Holds es "recipeSteps" "recipe_steps" used (.list vs) → vs[i]? = some (.dict s) →
      Absent .step s rest → Absent .group es (used :: toString i :: rest)

variable {α β : Type} {part : Part} {es : Entries} {key second name : String} {path : List String}

-- ---------------------------------------------------------------------------
-- What is absent, by parts
-- ---------------------------------------------------------------------------

def AbsentHere (part : Part) (es : Entries) (path : List String) : Prop :=
  ∃ k ∈ part.required, Lacks es k.1 k.2 ∧ path = [k.1]

def AbsentUnder (part : Part) (es : Entries) (key second : String) (path : List String) : Prop :=
  ∃ (used : String) (r : Entries) (rest : List String),
    Holds es key second used (.dict r) ∧ path = used :: rest ∧ Absent part r rest

def AbsentAmong (part : Part) (es : Entries) (key second : String) (path : List String) : Prop :=
  ∃ (used : String) (vs : List Value) (i : Nat) (r : Entries) (rest : List String),
    Holds es key second used (.list vs) ∧ vs[i]? = some (.dict r) ∧
      path = used :: toString i :: rest ∧ Absent part r rest

def AbsentBelow (es : Entries) (path : List String) : Part → Prop
  | .document => AbsentUnder .options es "options" "options" path ∨
      AbsentAmong .group es "recipeStepGroups" "recipe_step_groups" path
  | .options => AbsentAmong .target es "targetOrgs" "target_orgs" path
  | .group => AbsentAmong .step es "recipeSteps" "recipe_steps" path
  | .target => False
  | .step => False

theorem absent_iff : Absent part es path ↔ AbsentHere part es path ∨ AbsentBelow es path part := by
  constructor
  · intro h
    cases h with
    | here hk hl => exact .inl ⟨_, hk, hl, rfl⟩
    | options hv ha => exact .inr (.inl ⟨_, _, _, hv, rfl, ha⟩)
    | target hv hi ha => exact .inr ⟨_, _, _, _, _, hv, hi, rfl, ha⟩
    | group hv hi ha => exact .inr (.inr ⟨_, _, _, _, _, hv, hi, rfl, ha⟩)
    | step hv hi ha => exact .inr ⟨_, _, _, _, _, hv, hi, rfl, ha⟩
  · rintro (⟨k, hk, hl, rfl⟩ | h)
    · exact .here hk hl
    · cases part with
      | document =>
        rcases h with ⟨_, _, _, hv, rfl, ha⟩ | ⟨_, _, _, _, _, hv, hi, rfl, ha⟩
        · exact .options hv ha
        · exact .group hv hi ha
      | options =>
        obtain ⟨_, _, _, _, _, hv, hi, rfl, ha⟩ := h
        exact .target hv hi ha
      | group =>
        obtain ⟨_, _, _, _, _, hv, hi, rfl, ha⟩ := h
        exact .step hv hi ha
      | target => exact h.elim
      | step => exact h.elim

-- ---------------------------------------------------------------------------
-- What the readers report as missing
-- ---------------------------------------------------------------------------

section
variable {fields : Entries → Checked α}
  (hfields : ∀ es path, (fields es).Misses path ↔ Absent part es path)
include hfields

theorem misses_record_iff :
    (required es key second (record name fields)).Misses path ↔
      (Lacks es key second ∧ path = [key]) ∨ AbsentUnder part es key second path := by
  simp only [misses_required, misses_record, hfields, AbsentUnder]
  refine or_congr_right ⟨?_, ?_⟩
  · rintro ⟨used, _, rest, hv, rfl, r, rfl, ha⟩
    exact ⟨used, r, rest, hv, rfl, ha⟩
  · rintro ⟨used, r, rest, hv, rfl, ha⟩
    exact ⟨used, _, rest, hv, rfl, r, rfl, ha⟩

theorem misses_records_iff {r : Reader (List β)}
    (hr : ∀ v path, (r v).Misses path ↔ (list (record name fields) v).Misses path) :
    (required es key second r).Misses path ↔
      (Lacks es key second ∧ path = [key]) ∨ AbsentAmong part es key second path := by
  simp only [misses_required, hr, misses_list, misses_record, hfields, AbsentAmong]
  refine or_congr_right ⟨?_, ?_⟩
  · rintro ⟨used, _, _, hv, rfl, vs, i, _, _, rfl, hi, rfl, r', rfl, ha⟩
    exact ⟨used, vs, i, r', _, hv, hi, rfl, ha⟩
  · rintro ⟨used, vs, i, r', rest, hv, hi, rfl, ha⟩
    exact ⟨used, _, _, hv, rfl, vs, i, _, rest, rfl, hi, rfl, r', rfl, ha⟩

end

theorem Step.misses_iff : (Step.fields es).Misses path ↔ Absent .step es path := by
  simp [Step.fields, Checked.misses_and, Checked.not_misses_ok,
    misses_required_of_silent fun _ _ => plain_nonEmpty.not_misses,
    not_misses_withDefault fun _ _ => plain_string.not_misses,
    not_misses_withDefault fun _ _ => plain_dict.not_misses,
    not_misses_withDefault fun _ _ => plain_string.optional.not_misses,
    absent_iff, AbsentHere, AbsentBelow, Part.required]

theorem Group.misses_iff : (Group.fields es).Misses path ↔ Absent .group es path := by
  have hsteps : (required es "recipeSteps" "recipe_steps" (list Step.read)).Misses path ↔
      (Lacks es "recipeSteps" "recipe_steps" ∧ path = ["recipeSteps"]) ∨
        AbsentAmong .step es "recipeSteps" "recipe_steps" path :=
    misses_records_iff (fun _ _ => Step.misses_iff) fun _ _ => Iff.rfl
  simp [Group.fields, Checked.misses_and, Checked.not_misses_ok, hsteps,
    misses_required_of_silent fun _ _ => plain_nonEmpty.not_misses,
    absent_iff, AbsentHere, AbsentBelow, Part.required, or_assoc]

theorem Target.misses_iff : (Target.fields es).Misses path ↔ Absent .target es path := by
  simp [Target.fields, Checked.misses_and, Checked.not_misses_ok,
    misses_required_of_silent fun _ _ => plain_nonEmpty.not_misses,
    misses_required_of_silent fun _ _ => plain_strictTruth.not_misses,
    not_misses_withDefault fun _ _ => plain_string.optional.not_misses,
    absent_iff, AbsentHere, AbsentBelow, Part.required, or_assoc]

theorem Options.misses_iff : (Options.fields es).Misses path ↔ Absent .options es path := by
  -- The rules for targets ask for no key.
  have htargets : (required es "targetOrgs" "target_orgs"
        fun v => Checked.ensure (list Target.read v) uniqueTargets).Misses path ↔
      (Lacks es "targetOrgs" "target_orgs" ∧ path = ["targetOrgs"]) ∨
        AbsentAmong .target es "targetOrgs" "target_orgs" path :=
    misses_records_iff (fun _ _ => Checked.misses_ensure.trans Target.misses_iff)
      fun _ _ => Checked.misses_ensure
  simp [Options.fields, Checked.misses_and, Checked.not_misses_ok, htargets,
    misses_required_of_silent fun _ _ => plain_strictTruth.not_misses,
    misses_required_of_silent fun _ _ => plain_string.not_misses_list,
    not_misses_withDefault fun _ _ => plain_strictTruth.not_misses,
    absent_iff, AbsentHere, AbsentBelow, Part.required, or_assoc]

theorem Document.misses_iff : (Document.fields es).Misses path ↔ Absent .document es path := by
  have htype : ∀ v path, ¬(Checked.ensure (nonEmpty v) knownType).Misses path := fun _ _ h =>
    plain_nonEmpty.not_misses (Checked.misses_ensure.1 h)
  have hoptions : (required es "options" "options" Options.read).Misses path ↔
      (Lacks es "options" "options" ∧ path = ["options"]) ∨
        AbsentUnder .options es "options" "options" path :=
    misses_record_iff fun _ _ => Options.misses_iff
  have hgroups : (required es "recipeStepGroups" "recipe_step_groups"
        (list Group.read)).Misses path ↔
      (Lacks es "recipeStepGroups" "recipe_step_groups" ∧ path = ["recipeStepGroups"]) ∨
        AbsentAmong .group es "recipeStepGroups" "recipe_step_groups" path :=
    misses_records_iff (fun _ _ => Group.misses_iff) fun _ _ => Iff.rfl
  simp [Document.fields, Checked.misses_and, Checked.not_misses_ok, hoptions, hgroups,
    misses_required_of_silent fun _ _ => plain_nonEmpty.not_misses,
    misses_required_of_silent fun _ _ => plain_string.not_misses,
    misses_required_of_silent htype,
    misses_required_of_silent fun _ _ => plain_dict.not_misses_list,
    absent_iff, AbsentHere, AbsentBelow, Part.required, or_assoc, or_left_comm, or_comm]

-- ---------------------------------------------------------------------------
-- Reports
-- ---------------------------------------------------------------------------

theorem RuleText.ne_missing {text : String} (h : RuleText es text) : text ≠ missingText := by
  cases h with
  | target rest => exact append_ne_text (by decide) (by decide) rest
  | type rest => exact append_ne_text (by decide) (by decide) rest
  | repeated names _ _ _ => exact append_ne_text (by decide) (by decide) _

/-- The entries of a report that say that a key is missing are one for each key that is absent, at
whatever depth and whatever else is reported. Where there is no report, no key is absent. -/
theorem Document.missing_reported (es : Entries) (source : String) :
    (∃ paths : List (List String),
      paths.Nodup ∧ (∀ path, path ∈ paths ↔ Absent .document es path) ∧
        (Document.report (.dict es) source).filter reportsMissing =
          paths.map fun path => entry path missingText) ∧
    ((∃ d, Document.parse (.dict es) source = .ok d) → ∀ path, ¬Absent .document es path) := by
  obtain ⟨htidy, hplaces⟩ := fields_tidy es
  simp only [← misses_iff]
  constructor
  · rw [report_dict]
    exact htidy.missing_entries hplaces fun _ => RuleText.ne_missing
  · rintro ⟨d, hd⟩ path hmisses
    rw [parse_dict_iff.1 hd] at hmisses
    exact Checked.not_misses_ok hmisses

end Provision.Recipe
