import Provision.Program.Invocation
import Provision.Validation

/-!
# What the program looks at

The files that may make a difference to a run. What they are depends on the files
themselves: the project file says where the recipes are, and a recipe which
definitions it wants. So the list grows as more files come to hand.
-/

namespace Provision.Program

def reference? (words : List String) : Option Recipe.Reference :=
  match Manner.read words with
  | .ok (.act (m, rest)) =>
    match Errand.read rest with
    | .ok (.act e) => some ⟨e.recipe, m.config⟩
    | _ => none
  | _ => none

def configSights (files : Files) (w : Recipe.Reference) : List Files.Path :=
  match w.config with
  | some path => [path]
  | none => Project.candidates files.cwd

def recipeSights (files : Files) (w : Recipe.Reference) : List Files.Path :=
  match (Project.resolve files w.config none).outcome.1 with
  | .error _ => []
  | .ok project =>
    match w.nameIn project.config with
    | .ok name => Recipe.candidates project name
    | .error _ => []

def definitionSights (files : Files) (w : Recipe.Reference) : List Files.Path :=
  match (Recipe.load files w).outcome.1 with
  | .error _ => []
  | .ok (project, r) =>
    (r.document.options.targets.filterMap Validation.definition?).map project.configPath.append

def sights (files : Files) (w : Recipe.Reference) : List Files.Path :=
  (configSights files w ++ recipeSights files w ++ definitionSights files w).map
    (Files.Path.absolute files.cwd)

/-- How often files may turn up that name others: a project file, a recipe, its
definitions. -/
def sightRounds : Nat := 3

end Provision.Program
