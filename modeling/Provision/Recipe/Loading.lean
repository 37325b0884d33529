import Provision.Project.File
import Provision.Recipe.Lifecycle

/-!
# Finding the recipe to work on

A reference may leave open where the project is and which of its recipes is meant.
The project is then looked for, and the recipe is the one its project file falls
back to.
-/

namespace Provision.Recipe

structure Reference where
  recipe : Option String := none
  /-- The project file. -/
  config : Option Files.Path := none

def unnamed : Fault :=
  .invalidRecipe "No recipe given and the project has no default_recipe or recipes" []

def Reference.nameIn (w : Reference) (c : ProjectConfig) : Except Fault String :=
  match w.recipe.or c.fallbackRecipe with
  | some name => if name = "" then .error unnamed else .ok name
  | none => .error unnamed

def load (files : Files) (w : Reference) : Journaled (Project × Recipe) := do
  let project ← Project.resolve files w.config none
  let name ← match w.nameIn project.config with
    | .ok name => pure name
    | .error f => throw f
  let r ← read files project name
  return (project, r)

end Provision.Recipe
