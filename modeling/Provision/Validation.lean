import Provision.Recipe.Loading

/-!
# Validating a recipe

A recipe is valid if it can be loaded. What is wrong with it is listed otherwise,
every problem in a line of its own. A valid recipe may still give rise to
warnings, none of which keeps it from being compiled.
-/

namespace Provision

inductive Validation where
  | invalid (errors : List String)
  | valid (project : Project) (recipe : Recipe) (warnings : List String)

namespace Validation

open Recipe (Document Target)

/-! ## Warnings -/

def noEngine (type : String) : String :=
  s!"Recipe type '{type}' validates but no engine can compile it yet"

def noTargets : String := "No targetOrgs declared; the recipe cannot be installed anywhere."

def definition? (t : Target) : Option String := t.scratchDefJson.filter (· ≠ "")

def noDefinition (directory : Files.Path) (name aliasName : String) : String :=
  s!"Scratch definition '{name}' for '{aliasName}' not found in {directory.text}"

def missingDefinitions (files : Files) (directory : Files.Path) :
    List Target → Except Fault (List String)
  | [] => .ok []
  | t :: rest => do
    let here ← match definition? t with
      | none => pure []
      | some name =>
        if ← files.isFile (directory.append name) then pure []
        else pure [noDefinition directory name t.aliasName]
    return here ++ (← missingDefinitions files directory rest)

def unknownGroup (name : String) : String := s!"skipGroups names unknown group '{name}'"

def unknownSkips (d : Document) : List String :=
  d.options.skipGroups.filter (· ∉ d.aliases)

def warnings (files : Files) (project : Project) (d : Document) : Except Fault (List String) := do
  let missing ← missingDefinitions files project.configPath d.options.targets
  return (if Recipe.hasEngine d.type then [] else [noEngine d.type]) ++
    (if d.options.targets.isEmpty then [noTargets] else []) ++ missing ++
    (unknownSkips d).map unknownGroup

/-! ## The verdict -/

/-- What a fault in loading says about the recipe. Other faults are not about it. -/
def errors? : Fault → Option (List String)
  | .config text _ => some [text]
  | .condition .invalidRecipe detail [] => some [detail]
  | .condition .invalidRecipe _ problems => some problems
  | _ => none

def run (files : Files) (w : Recipe.Reference) : Except Fault Validation × List Record :=
  let (loaded, records) := (Recipe.load files w).outcome
  (match loaded with
    | .ok (project, r) => (warnings files project r.document).map (.valid project r)
    | .error f =>
      match errors? f with
      | some errors => .ok (.invalid errors)
      | none => .error f,
    records)

def ok : Validation → Bool
  | .invalid _ => false
  | .valid .. => true

def entries : Validation → Entries
  | .invalid errors =>
    [("valid", .bool false), ("errors", .ofStrings errors), ("warnings", .list []),
      ("project_path", .null), ("recipe", .null)]
  | .valid project r warnings =>
    [("valid", .bool true), ("errors", .list []), ("warnings", .ofStrings warnings),
      ("project_path", .str project.path.text), ("recipe", .dict r.entries)]

end Validation

end Provision
