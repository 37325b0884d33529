import Provision.Proofs.Recipe.Accepted
import Provision.Proofs.Schema.ReaderLaws

/-!
# The grammar of recipes

The shapes of the parts of a recipe say, key by key, what data may hold: `Document.Shape`
for the whole, and one below it for options, targets, groups and steps. A key counts in
its first spelling when it is there in both, and keys that nobody knows do not count.

What has to be filled is a text with the property `Word`, which is left open here. Reading
takes a text for that when it is not empty and all of its code points are characters.
Data of a recipe's shape is read, and no other (`parse_ok_iff`).
-/

namespace Provision.Recipe

open Schema

-- ---------------------------------------------------------------------------
-- Values
-- ---------------------------------------------------------------------------

def IsText (P : String → Prop) (v : Value) : Prop := ∃ s, v = .str s ∧ P s

def IsString : Value → Prop := IsText fun _ => True

def IsTruth (v : Value) : Prop := ∃ b, v = .bool b

def IsList (P : Value → Prop) (v : Value) : Prop := ∃ vs, v = .list vs ∧ ∀ w ∈ vs, P w

def IsDict (P : Entries → Prop) (v : Value) : Prop := ∃ es, v = .dict es ∧ P es

def IsObject : Value → Prop := IsDict fun _ => True

def OrNull (P : Value → Prop) (v : Value) : Prop := v = .null ∨ P v

-- ---------------------------------------------------------------------------
-- Shapes
-- ---------------------------------------------------------------------------

variable (Word : String → Prop) (es : Entries)

structure Target.Shape : Prop where
  orgName : Has es "orgName" "org_name" (IsText Word)
  aliasName : Has es "alias" "alias" (IsText Word)
  description : Has es "description" "description" (IsText Word)
  isScratchOrg : Has es "isScratchOrg" "is_scratch_org" IsTruth
  scratchDefJson : MayHave es "scratchDefJson" "scratch_def_json" (OrNull IsString)
  orgReqsJson : MayHave es "orgReqsJson" "org_reqs_json" (OrNull IsString)
  scratch : Has es "isScratchOrg" "is_scratch_org" (· = .bool true) →
    Has es "scratchDefJson" "scratch_def_json" (IsText (· ≠ ""))
  persistent : Has es "isScratchOrg" "is_scratch_org" (· = .bool false) →
    Has es "orgReqsJson" "org_reqs_json" (IsText (· ≠ ""))

structure Step.Shape : Prop where
  name : Has es "stepName" "step_name" (IsText Word)
  description : MayHave es "description" "description" IsString
  action : Has es "action" "action" (IsText Word)
  options : MayHave es "options" "options" IsObject
  onSuccess : MayHave es "onSuccess" "on_success" (OrNull IsString)
  onError : MayHave es "onError" "on_error" (OrNull IsString)

structure Group.Shape : Prop where
  name : Has es "stepGroupName" "step_group_name" (IsText Word)
  aliasName : Has es "alias" "alias" (IsText Word)
  description : Has es "description" "description" (IsText Word)
  steps : Has es "recipeSteps" "recipe_steps" (IsList (IsDict (Step.Shape Word)))

def targetAlias? : Value → Option String
  | .dict es => (Entries.get? "alias" es).bind Value.asString?
  | _ => none

def AreTargets (v : Value) : Prop :=
  ∃ vs, v = .list vs ∧ (∀ w ∈ vs, IsDict (Target.Shape Word) w) ∧ (vs.filterMap targetAlias?).Nodup

structure Options.Shape : Prop where
  haltOnError : Has es "haltOnError" "halt_on_error" IsTruth
  skipGroups : Has es "skipGroups" "skip_groups" (IsList IsString)
  skipActions : Has es "skipActions" "skip_actions" (IsList IsString)
  targets : Has es "targetOrgs" "target_orgs" (AreTargets Word)
  noCustomInstall : MayHave es "noCustomInstall" "no_custom_install" IsTruth

structure Document.Shape : Prop where
  name : Has es "recipeName" "recipe_name" (IsText Word)
  description : Has es "description" "description" IsString
  type : Has es "recipeType" "recipe_type" (IsText (· ∈ knownTypes))
  version : Has es "recipeVersion" "recipe_version" IsString
  schemaVersion : Has es "schemaVersion" "schema_version" IsString
  options : Has es "options" "options" (IsDict (Options.Shape Word))
  groups : Has es "recipeStepGroups" "recipe_step_groups" (IsList (IsDict (Group.Shape Word)))
  handlers : Has es "handlers" "handlers" (IsList IsObject)

variable {Word es} {v : Value}

-- ---------------------------------------------------------------------------
-- Plain values
-- ---------------------------------------------------------------------------

theorem string_takes_iff : Takes string v ↔ IsString v := by
  cases v <;> simp [Takes, string, need, IsString, IsText]

theorem nonEmpty_takes_iff : Takes nonEmpty v ↔ IsText Worded v := by
  simp [Takes, nonEmpty_eq_ok, IsText]

theorem strictTruth_takes_iff : Takes strictTruth v ↔ IsTruth v := by
  cases v <;> simp [Takes, strictTruth, need, IsTruth]

theorem dict_takes_iff : Takes dict v ↔ IsObject v := by
  cases v <;> simp [Takes, dict, need, IsObject, IsDict]

theorem optional_string_takes_iff : Takes (Schema.optional string) v ↔ OrNull IsString v := by
  cases v <;> simp [Takes, Schema.optional, string, need, OrNull, IsString, IsText, Functor.map,
    Except.map]

-- ---------------------------------------------------------------------------
-- Keys
-- ---------------------------------------------------------------------------

section
variable {α : Type} {key second : String} {r : Reader α} {P : Value → Prop}

theorem required_iff (h : ∀ v, Takes r v ↔ P v) :
    (∃ a, required es key second r = .ok a) ↔ Has es key second P := by
  simp only [required_ok_iff, Has, h]

theorem withDefault_iff {a : α} (h : ∀ v, Takes r v ↔ P v) :
    (∃ b, withDefault es key second r a = .ok b) ↔ MayHave es key second P := by
  simp only [withDefault_ok_iff, MayHave, h]

theorem list_iff (h : ∀ v, Takes r v ↔ P v) : Takes (list r) v ↔ IsList P v := by
  simp only [list_takes_iff, IsList, h]

theorem record_iff {name : String} {fields : Entries → Checked α} {Q : Entries → Prop}
    (h : ∀ es, (∃ a, fields es = .ok a) ↔ Q es) : Takes (record name fields) v ↔ IsDict Q v := by
  simp only [record_takes_iff, IsDict, h]

end

-- ---------------------------------------------------------------------------
-- Steps and groups
-- ---------------------------------------------------------------------------

theorem Step.fields_iff : (∃ s, Step.fields es = .ok s) ↔ Step.Shape Worded es := by
  simp only [Step.fields, and_ok_iff, required_iff fun _ => nonEmpty_takes_iff,
    withDefault_iff fun _ => string_takes_iff, withDefault_iff fun _ => dict_takes_iff,
    withDefault_iff fun _ => optional_string_takes_iff]
  constructor
  · rintro ⟨⟨⟨⟨⟨⟨-, hname⟩, hdescription⟩, haction⟩, hoptions⟩, hsuccess⟩, herror⟩
    exact ⟨hname, hdescription, haction, hoptions, hsuccess, herror⟩
  · rintro ⟨hname, hdescription, haction, hoptions, hsuccess, herror⟩
    exact ⟨⟨⟨⟨⟨⟨⟨_, rfl⟩, hname⟩, hdescription⟩, haction⟩, hoptions⟩, hsuccess⟩, herror⟩

theorem Step.read_iff : Takes Step.read v ↔ IsDict (Step.Shape Worded) v :=
  record_iff fun _ => Step.fields_iff

theorem Group.fields_iff : (∃ g, Group.fields es = .ok g) ↔ Group.Shape Worded es := by
  simp only [Group.fields, and_ok_iff, required_iff fun _ => nonEmpty_takes_iff,
    required_iff fun _ => list_iff fun _ => Step.read_iff]
  constructor
  · rintro ⟨⟨⟨⟨-, hname⟩, halias⟩, hdescription⟩, hsteps⟩
    exact ⟨hname, halias, hdescription, hsteps⟩
  · rintro ⟨hname, halias, hdescription, hsteps⟩
    exact ⟨⟨⟨⟨⟨_, rfl⟩, hname⟩, halias⟩, hdescription⟩, hsteps⟩

theorem Group.read_iff : Takes Group.read v ↔ IsDict (Group.Shape Worded) v :=
  record_iff fun _ => Group.fields_iff

-- ---------------------------------------------------------------------------
-- Targets
-- ---------------------------------------------------------------------------

theorem Target.fields_eq_ok {t : Target} :
    Target.fields es = .ok t ↔
      required es "orgName" "org_name" nonEmpty = .ok t.orgName ∧
      required es "alias" "alias" nonEmpty = .ok t.aliasName ∧
      required es "description" "description" nonEmpty = .ok t.description ∧
      required es "isScratchOrg" "is_scratch_org" strictTruth = .ok t.isScratchOrg ∧
      withDefault es "scratchDefJson" "scratch_def_json" (Schema.optional string) none =
        .ok t.scratchDefJson ∧
      withDefault es "orgReqsJson" "org_reqs_json" (Schema.optional string) none =
        .ok t.orgReqsJson := by
  simp only [Target.fields, Checked.and_eq_ok]
  constructor
  · rintro ⟨_, _, ⟨_, _, ⟨_, _, ⟨_, _, ⟨_, _, ⟨_, _, hmk, hname, rfl⟩, halias, rfl⟩, hdescription,
      rfl⟩, hscratch, rfl⟩, hdef, rfl⟩, hreqs, rfl⟩
    cases hmk
    exact ⟨hname, halias, hdescription, hscratch, hdef, hreqs⟩
  · rintro ⟨hname, halias, hdescription, hscratch, hdef, hreqs⟩
    exact ⟨_, _, ⟨_, _, ⟨_, _, ⟨_, _, ⟨_, _, ⟨_, _, rfl, hname, rfl⟩, halias, rfl⟩, hdescription,
      rfl⟩, hscratch, rfl⟩, hdef, rfl⟩, hreqs, rfl⟩

theorem strictTruth_eq_ok {b : Bool} : strictTruth v = .ok b ↔ v = .bool b := by
  cases v <;> simp [strictTruth, need]

theorem optional_string_eq_some {s : String} :
    Schema.optional string v = .ok (some s) ↔ v = .str s := by
  cases v <;> simp [Schema.optional, string, need, Functor.map, Except.map]

variable {key second : String}

theorem required_truth_iff {b c : Bool} (h : required es key second strictTruth = .ok b) :
    Has es key second (· = .bool c) ↔ b = c := by
  simp only [required_eq_ok, lookup?_eq_some_iff, strictTruth_eq_ok] at h
  obtain ⟨used, v, hv, rfl⟩ := h
  constructor
  · rintro ⟨used', v', hv', rfl⟩
    exact Value.bool.inj (hv.unique hv').2
  · rintro rfl
    exact ⟨used, _, hv, rfl⟩

theorem given_iff {o : Option String}
    (h : withDefault es key second (Schema.optional string) none = .ok o) :
    given o = true ↔ Has es key second (IsText (· ≠ "")) := by
  constructor
  · intro hgiven
    cases o with
    | none => simp [given] at hgiven
    | some s =>
      rcases withDefault_eq_ok.1 h with ⟨-, hnone⟩ | ⟨used, v, hv, hr⟩
      · cases hnone
      · exact ⟨used, v, hv, s, optional_string_eq_some.1 hr, by simpa [given] using hgiven⟩
  · rintro ⟨used, _, hv, s, rfl, hs⟩
    rcases withDefault_eq_ok.1 h with ⟨hl, -⟩ | ⟨used', v', hv', hr⟩
    · exact absurd hl hv.not_lacks
    · obtain ⟨rfl, rfl⟩ := hv.unique hv'
      cases hr
      simpa [given] using hs

theorem Target.rule_eq_none_iff {t : Target} :
    t.rule = none ↔ (t.isScratchOrg = true → given t.scratchDefJson = true) ∧
      (t.isScratchOrg = false → given t.orgReqsJson = true) := by
  unfold Target.rule
  split <;> split <;> simp_all

theorem Target.fields_iff :
    (∃ t, Target.fields es = .ok t ∧ t.rule = none) ↔ Target.Shape Worded es := by
  constructor
  · rintro ⟨t, hfields, hrule⟩
    obtain ⟨hname, halias, hdescription, hscratch, hdef, hreqs⟩ := fields_eq_ok.1 hfields
    obtain ⟨hgiven, hgiven'⟩ := rule_eq_none_iff.1 hrule
    exact {
      orgName := (required_iff fun _ => nonEmpty_takes_iff).1 ⟨_, hname⟩
      aliasName := (required_iff fun _ => nonEmpty_takes_iff).1 ⟨_, halias⟩
      description := (required_iff fun _ => nonEmpty_takes_iff).1 ⟨_, hdescription⟩
      isScratchOrg := (required_iff fun _ => strictTruth_takes_iff).1 ⟨_, hscratch⟩
      scratchDefJson := (withDefault_iff fun _ => optional_string_takes_iff).1 ⟨_, hdef⟩
      orgReqsJson := (withDefault_iff fun _ => optional_string_takes_iff).1 ⟨_, hreqs⟩
      scratch := fun h => (given_iff hdef).1 (hgiven ((required_truth_iff hscratch).1 h))
      persistent := fun h => (given_iff hreqs).1 (hgiven' ((required_truth_iff hscratch).1 h)) }
  · intro h
    obtain ⟨name, hname⟩ := (required_iff fun _ => nonEmpty_takes_iff).2 h.orgName
    obtain ⟨called, halias⟩ := (required_iff fun _ => nonEmpty_takes_iff).2 h.aliasName
    obtain ⟨about, habout⟩ := (required_iff fun _ => nonEmpty_takes_iff).2 h.description
    obtain ⟨scratch, hscratch⟩ := (required_iff fun _ => strictTruth_takes_iff).2 h.isScratchOrg
    obtain ⟨definition, hdef⟩ :=
      (withDefault_iff (a := none) fun _ => optional_string_takes_iff).2 h.scratchDefJson
    obtain ⟨reqs, hreqs⟩ :=
      (withDefault_iff (a := none) fun _ => optional_string_takes_iff).2 h.orgReqsJson
    refine ⟨⟨name, called, about, scratch, definition, reqs⟩,
      fields_eq_ok.2 ⟨hname, halias, habout, hscratch, hdef, hreqs⟩,
      rule_eq_none_iff.2 ⟨fun hs => ?_, fun hs => ?_⟩⟩
    · exact (given_iff hdef).2 (h.scratch ((required_truth_iff hscratch).2 hs))
    · exact (given_iff hreqs).2 (h.persistent ((required_truth_iff hscratch).2 hs))

theorem Target.read_eq_ok {t : Target} :
    Target.read v = .ok t ↔ ∃ es, v = .dict es ∧ Target.fields es = .ok t ∧ t.rule = none := by
  simp only [Target.read, record_eq_ok, Checked.ensure_eq_ok]

theorem Target.read_iff : Takes Target.read v ↔ IsDict (Target.Shape Worded) v := by
  simp only [Takes, read_eq_ok, IsDict, ← fields_iff]
  constructor
  · rintro ⟨t, es, hv, ht⟩
    exact ⟨es, hv, t, ht⟩
  · rintro ⟨es, hv, t, ht⟩
    exact ⟨t, es, hv, ht⟩

theorem Target.targetAlias?_eq {t : Target} (h : Target.read v = .ok t) :
    targetAlias? v = some t.aliasName := by
  obtain ⟨es, rfl, hfields, -⟩ := read_eq_ok.1 h
  obtain ⟨-, halias, -⟩ := fields_eq_ok.1 hfields
  simp only [required_eq_ok, lookup?_eq_some_iff, nonEmpty_eq_ok] at halias
  obtain ⟨used, _, hv, rfl, -⟩ := halias
  -- An alias has one spelling only.
  have hget : Entries.get? "alias" es = some (.str t.aliasName) := by
    cases hv with
    | first h => exact h
    | second _ h => exact h
  simp [targetAlias?, hget, Value.asString?]

theorem uniqueTargets_eq_none_iff {ts : List Target} :
    uniqueTargets ts = none ↔ (ts.map (·.aliasName)).Nodup := by
  rw [← duplicates_eq_nil_iff]
  unfold uniqueTargets
  split <;> simp_all

theorem filterMap_targetAlias? {vs : List Value} {ts : List Target}
    (h : List.Forall₂ (fun v t => Target.read v = .ok t) vs ts) :
    vs.filterMap targetAlias? = ts.map (·.aliasName) := by
  induction h with
  | nil => rfl
  | cons hv _ ih => rw [List.filterMap_cons_some (Target.targetAlias?_eq hv), ih, List.map_cons]

theorem targets_iff :
    Takes (fun v => Checked.ensure (list Target.read v) uniqueTargets) v ↔ AreTargets Worded v := by
  simp only [Takes, Checked.ensure_eq_ok, list_eq_ok, uniqueTargets_eq_none_iff, AreTargets,
    ← Target.read_iff]
  constructor
  · rintro ⟨ts, ⟨vs, hv, hts⟩, hnodup⟩
    exact ⟨vs, hv, exists_forall₂_iff.1 ⟨ts, hts⟩, filterMap_targetAlias? hts ▸ hnodup⟩
  · rintro ⟨vs, hv, htaken, hnodup⟩
    obtain ⟨ts, hts⟩ := exists_forall₂_iff.2 htaken
    exact ⟨ts, ⟨vs, hv, hts⟩, filterMap_targetAlias? hts ▸ hnodup⟩

-- ---------------------------------------------------------------------------
-- Options and documents
-- ---------------------------------------------------------------------------

theorem Options.fields_iff : (∃ o, Options.fields es = .ok o) ↔ Options.Shape Worded es := by
  simp only [Options.fields, and_ok_iff, required_iff fun _ => strictTruth_takes_iff,
    required_iff fun _ => list_iff fun _ => string_takes_iff, required_iff fun _ => targets_iff,
    withDefault_iff fun _ => strictTruth_takes_iff]
  constructor
  · rintro ⟨⟨⟨⟨⟨-, hhalt⟩, hgroups⟩, hactions⟩, htargets⟩, hinstall⟩
    exact ⟨hhalt, hgroups, hactions, htargets, hinstall⟩
  · rintro ⟨hhalt, hgroups, hactions, htargets, hinstall⟩
    exact ⟨⟨⟨⟨⟨⟨_, rfl⟩, hhalt⟩, hgroups⟩, hactions⟩, htargets⟩, hinstall⟩

theorem Options.read_iff : Takes Options.read v ↔ IsDict (Options.Shape Worded) v :=
  record_iff fun _ => Options.fields_iff

theorem knownType_eq_none_iff {type : String} : knownType type = none ↔ type ∈ knownTypes := by
  simp [knownType]

theorem worded_of_mem_knownTypes : ∀ type ∈ knownTypes, Worded type := by decide +kernel

theorem type_takes_iff :
    Takes (fun v => Checked.ensure (nonEmpty v) knownType) v ↔ IsText (· ∈ knownTypes) v := by
  simp only [Takes, Checked.ensure_eq_ok, nonEmpty_eq_ok, knownType_eq_none_iff, IsText]
  constructor
  · rintro ⟨type, ⟨hv, -⟩, hknown⟩
    exact ⟨type, hv, hknown⟩
  · rintro ⟨type, hv, hknown⟩
    exact ⟨type, ⟨hv, worded_of_mem_knownTypes type hknown⟩, hknown⟩

theorem Document.fields_iff : (∃ d, Document.fields es = .ok d) ↔ Document.Shape Worded es := by
  simp only [Document.fields, and_ok_iff, required_iff fun _ => nonEmpty_takes_iff,
    required_iff fun _ => string_takes_iff, required_iff fun _ => type_takes_iff,
    required_iff fun _ => Options.read_iff, required_iff fun _ => list_iff fun _ => Group.read_iff,
    required_iff fun _ => list_iff fun _ => dict_takes_iff]
  constructor
  · rintro ⟨⟨⟨⟨⟨⟨⟨⟨-, hname⟩, hdescription⟩, htype⟩, hversion⟩, hschema⟩, hoptions⟩, hgroups⟩,
      hhandlers⟩
    exact ⟨hname, hdescription, htype, hversion, hschema, hoptions, hgroups, hhandlers⟩
  · rintro ⟨hname, hdescription, htype, hversion, hschema, hoptions, hgroups, hhandlers⟩
    exact ⟨⟨⟨⟨⟨⟨⟨⟨⟨_, rfl⟩, hname⟩, hdescription⟩, htype⟩, hversion⟩, hschema⟩, hoptions⟩, hgroups⟩,
      hhandlers⟩

theorem Document.parse_ok_iff {source : String} :
    (∃ d, Document.parse v source = .ok d) ↔ IsDict (Document.Shape Worded) v := by
  cases v with
  | dict es =>
    simp only [Document.parse_dict_iff, Document.fields_iff]
    simp [IsDict]
  | _ => simp [Document.parse, IsDict]

def bareOptions (targets : List Value) : Entries :=
  [("haltOnError", .bool true), ("skipGroups", .list []), ("skipActions", .list []),
    ("targetOrgs", .list targets)]

def bareRecipe (name : String) (targets : List Value) : Entries :=
  [("recipeName", .str name), ("description", .str ""), ("recipeType", .str demoType),
    ("recipeVersion", .str "1.0"), ("schemaVersion", .str "1.0"),
    ("options", .dict (bareOptions targets)), ("recipeStepGroups", .list []),
    ("handlers", .list [])]

theorem bareRecipe_shape {name : String} (h : Word name) :
    Document.Shape Word (bareRecipe name []) := by
  have hempty {P : Value → Prop} : IsList P (.list []) := ⟨[], rfl, by simp⟩
  have hoptions : Options.Shape Word (bareOptions []) := {
    haltOnError := ⟨_, _, .first rfl, true, rfl⟩
    skipGroups := ⟨_, _, .first rfl, hempty⟩
    skipActions := ⟨_, _, .first rfl, hempty⟩
    targets := ⟨_, _, .first rfl, [], rfl, by simp, List.nodup_nil⟩
    noCustomInstall := by
      rintro _ _ (h | ⟨-, h⟩) <;> cases h }
  exact {
    name := ⟨_, _, .first rfl, name, rfl, h⟩
    description := ⟨_, _, .first rfl, "", rfl, trivial⟩
    type := ⟨_, _, .first rfl, demoType, rfl, by simp [knownTypes]⟩
    version := ⟨_, _, .first rfl, "1.0", rfl, trivial⟩
    schemaVersion := ⟨_, _, .first rfl, "1.0", rfl, trivial⟩
    options := ⟨_, _, .first rfl, _, rfl, hoptions⟩
    groups := ⟨_, _, .first rfl, hempty⟩
    handlers := ⟨_, _, .first rfl, hempty⟩ }

/-- A lone surrogate is a name that is not empty, and no recipe may have it. -/
theorem Document.surrogate_refused :
    ¬∀ v source, (∃ d, Document.parse v source = .ok d) ↔ IsDict (Document.Shape (· ≠ "")) v := by
  intro h
  have hshape : Document.Shape (· ≠ "") (bareRecipe (String.ofList (Text.ofPoint 0xd800)) []) :=
    bareRecipe_shape (by decide)
  obtain ⟨d, hd⟩ := (h (.dict _) "recipe").2 ⟨_, rfl, hshape⟩
  have hrefused : (Document.parse
      (.dict (bareRecipe (String.ofList (Text.ofPoint 0xd800)) [])) "recipe").toBool = false := by
    decide +kernel
  simp [hd, Except.toBool] at hrefused

end Provision.Recipe
