import Provision.Fault
import Provision.Recipe.Duplicates
import Provision.Schema
import Provision.Text.Joined

/-!
# Recipe documents

A recipe names the target orgs it can be installed into and, in order, groups of
steps. Each step calls one action with options that only the action knows.

`Document.parse` reads a document from data and reports every problem at once.
Rules that need more than the document's shape, such as group aliases that must
not repeat, are not its business.
-/

namespace Provision.Recipe

open Schema

/-- Where a recipe is installed. A scratch org is made anew from a definition
file. Any other org is there already and is checked against requirements. -/
structure Target where
  orgName : String
  aliasName : String
  description : String
  isScratchOrg : Bool
  scratchDefJson : Option String
  orgReqsJson : Option String
  deriving DecidableEq, Inhabited, Repr

structure Step where
  name : String
  description : String
  action : String
  options : Entries
  onSuccess : Option String
  onError : Option String
  deriving Inhabited

/-- Steps that belong together. The alias is what a skip list names. -/
structure Group where
  name : String
  aliasName : String
  description : String
  steps : List Step
  deriving Inhabited

structure Options where
  haltOnError : Bool
  skipGroups : List String
  skipActions : List String
  targets : List Target
  noCustomInstall : Bool
  deriving Inhabited

structure Document where
  name : String
  description : String
  type : String
  version : String
  schemaVersion : String
  options : Options
  groups : List Group
  handlers : List Entries
  deriving Inhabited

def demoType : String := "appx:demo-recipe"

def packageType : String := "appx:package-recipe"

def knownTypes : List String := [demoType, packageType]

/-! ## Reading -/

def given (s : Option String) : Bool := s.getD "" != ""

def Target.rule (t : Target) : Option String :=
  if t.isScratchOrg then
    if given t.scratchDefJson then none
    else some <| s!"target org '{t.aliasName}' is a scratch org, so 'scratchDefJson' " ++
      "must be a non-empty string"
  else if given t.orgReqsJson then none
  else some <| s!"target org '{t.aliasName}' is not a scratch org, so 'orgReqsJson' " ++
    "must be a non-empty string"

def Target.fields (es : Entries) : Checked Target :=
  Checked.and (.and (.and (.and (.and (.and (.ok Target.mk)
    (required es "orgName" "org_name" nonEmpty))
    (required es "alias" "alias" nonEmpty))
    (required es "description" "description" nonEmpty))
    (required es "isScratchOrg" "is_scratch_org" strictTruth))
    (withDefault es "scratchDefJson" "scratch_def_json" (optional string) none))
    (withDefault es "orgReqsJson" "org_reqs_json" (optional string) none)

def Target.read : Reader Target :=
  record "TargetOrg" fun es => Checked.ensure (Target.fields es) Target.rule

def Step.fields (es : Entries) : Checked Step :=
  Checked.and (.and (.and (.and (.and (.and (.ok Step.mk)
    (required es "stepName" "step_name" nonEmpty))
    (withDefault es "description" "description" string ""))
    (required es "action" "action" nonEmpty))
    (withDefault es "options" "options" dict []))
    (withDefault es "onSuccess" "on_success" (optional string) none))
    (withDefault es "onError" "on_error" (optional string) none)

def Step.read : Reader Step := record "RecipeStep" Step.fields

def Group.fields (es : Entries) : Checked Group :=
  Checked.and (.and (.and (.and (.ok Group.mk)
    (required es "stepGroupName" "step_group_name" nonEmpty))
    (required es "alias" "alias" nonEmpty))
    (required es "description" "description" nonEmpty))
    (required es "recipeSteps" "recipe_steps" (list Step.read))

def Group.read : Reader Group := record "StepGroup" Group.fields

/-- Targets are chosen by alias, so no two may share one. -/
def uniqueTargets (targets : List Target) : Option String :=
  match duplicates (targets.map (·.aliasName)) with
  | [] => none
  | repeated => some s!"target org alias used more than once: {Text.commas repeated}"

def Options.fields (es : Entries) : Checked Options :=
  Checked.and (.and (.and (.and (.and (.ok Options.mk)
    (required es "haltOnError" "halt_on_error" strictTruth))
    (required es "skipGroups" "skip_groups" (list string)))
    (required es "skipActions" "skip_actions" (list string)))
    (required es "targetOrgs" "target_orgs"
      fun v => Checked.ensure (list Target.read v) uniqueTargets))
    (withDefault es "noCustomInstall" "no_custom_install" strictTruth false)

def Options.read : Reader Options := record "RecipeOptions" Options.fields

def knownType (type : String) : Option String :=
  if type ∈ knownTypes then none
  else some s!"'{type}' is not one of {Text.commas knownTypes}"

def Document.fields (es : Entries) : Checked Document :=
  Checked.and (.and (.and (.and (.and (.and (.and (.and (.ok Document.mk)
    (required es "recipeName" "recipe_name" nonEmpty))
    (required es "description" "description" string))
    (required es "recipeType" "recipe_type" fun v => Checked.ensure (nonEmpty v) knownType))
    (required es "recipeVersion" "recipe_version" string))
    (required es "schemaVersion" "schema_version" string))
    (required es "options" "options" Options.read))
    (required es "recipeStepGroups" "recipe_step_groups" (list Group.read)))
    (required es "handlers" "handlers" (list dict))

def Document.read : Reader Document := record "RecipeDocument" Document.fields

def Document.parse (data : Value) (source : String) : Except Fault Document :=
  match data with
  | .dict es =>
    match Document.fields es with
    | .ok d => .ok d
    | .error ps =>
      .error (.invalidRecipe s!"{source} has {ps.length} invalid or missing key(s)"
        (ps.map Problem.text))
  | v =>
    .error (.invalidRecipe s!"Expected a JSON object in {source}, got {v.kindName}" [])

/-! ## Looking around in a document -/

def Document.target? (d : Document) (name : String) : Option Target :=
  d.options.targets.find? (·.aliasName = name)

def groupAliases (groups : List Group) : List String := groups.map (·.aliasName)

def Document.aliases (d : Document) : List String := groupAliases d.groups

def duplicateAliases (groups : List Group) : List String := duplicates (groupAliases groups)

end Provision.Recipe
