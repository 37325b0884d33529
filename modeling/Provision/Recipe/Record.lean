import Provision.Recipe.Document

/-!
# Recipe documents as data

Documents are written back under either spelling of their keys.
-/

namespace Provision.Recipe

/-- Which spelling of a key is written. -/
inductive Spelling where
  | camel
  | snake
  deriving DecidableEq

def Spelling.pick (s : Spelling) (camel snake : String) : String :=
  match s with
  | .camel => camel
  | .snake => snake

def Target.record (s : Spelling) (t : Target) : Value :=
  .dict [(s.pick "orgName" "org_name", .str t.orgName), ("alias", .str t.aliasName),
    ("description", .str t.description),
    (s.pick "isScratchOrg" "is_scratch_org", .bool t.isScratchOrg),
    (s.pick "scratchDefJson" "scratch_def_json", .ofOption t.scratchDefJson),
    (s.pick "orgReqsJson" "org_reqs_json", .ofOption t.orgReqsJson)]

def Step.record (s : Spelling) (t : Step) : Value :=
  .dict [(s.pick "stepName" "step_name", .str t.name), ("description", .str t.description),
    ("action", .str t.action), ("options", .dict t.options),
    (s.pick "onSuccess" "on_success", .ofOption t.onSuccess),
    (s.pick "onError" "on_error", .ofOption t.onError)]

def Group.record (s : Spelling) (g : Group) : Value :=
  .dict [(s.pick "stepGroupName" "step_group_name", .str g.name), ("alias", .str g.aliasName),
    ("description", .str g.description),
    (s.pick "recipeSteps" "recipe_steps", .list (g.steps.map (·.record s)))]

def Options.record (s : Spelling) (o : Options) : Value :=
  .dict [(s.pick "haltOnError" "halt_on_error", .bool o.haltOnError),
    (s.pick "skipGroups" "skip_groups", .ofStrings o.skipGroups),
    (s.pick "skipActions" "skip_actions", .ofStrings o.skipActions),
    (s.pick "targetOrgs" "target_orgs", .list (o.targets.map (·.record s))),
    (s.pick "noCustomInstall" "no_custom_install", .bool o.noCustomInstall)]

def Document.record (s : Spelling) (d : Document) : Value :=
  .dict [(s.pick "recipeName" "recipe_name", .str d.name), ("description", .str d.description),
    (s.pick "recipeType" "recipe_type", .str d.type),
    (s.pick "recipeVersion" "recipe_version", .str d.version),
    (s.pick "schemaVersion" "schema_version", .str d.schemaVersion),
    ("options", d.options.record s),
    (s.pick "recipeStepGroups" "recipe_step_groups", .list (d.groups.map (·.record s))),
    ("handlers", .list (d.handlers.map .dict))]

end Provision.Recipe
