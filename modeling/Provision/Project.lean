import Provision.Files.Path
import Provision.Value

/-!
# Projects

A project is a directory with fixed places for recipes and user definitions, for
metadata, and for data. A project file may give it a name, recipes, and defaults
for the choices of an installation.
-/

namespace Provision

structure ProjectConfig where
  name : String := ""
  aliasName : String := ""
  description : String := ""
  defaultRecipe : Option String := none
  recipes : List String := []
  devHubAlias : Option String := none
  logLevel : Option String := none
  deriving DecidableEq, Repr, Inhabited

namespace ProjectConfig

/-- The recipe that is meant when none is named: the default one, else the first
that is listed. -/
def fallbackRecipe (c : ProjectConfig) : Option String :=
  match c.defaultRecipe with
  | some name => if name = "" then c.recipes.head? else some name
  | none => c.recipes.head?

def entries (c : ProjectConfig) : Entries :=
  [("name", .str c.name), ("alias", .str c.aliasName), ("description", .str c.description),
    ("default_recipe", .ofOption c.defaultRecipe), ("recipes", .ofStrings c.recipes),
    ("dev_hub_alias", .ofOption c.devHubAlias), ("log_level", .ofOption c.logLevel)]

end ProjectConfig

structure Project where
  path : Files.Path
  config : ProjectConfig := {}
  deriving Inhabited

namespace Project

def configPath (p : Project) : Files.Path := p.path.append "demo-config"

def mdapiSourcePath (p : Project) : Files.Path := p.path.append "mdapi-source"

def dataPath (p : Project) : Files.Path := p.path.append "demo-data"

def toValue (p : Project) : Value :=
  .dict [("project_path", .str p.path.text), ("config_path", .str p.configPath.text),
    ("mdapi_source_path", .str p.mdapiSourcePath.text), ("data_path", .str p.dataPath.text),
    ("name", .str p.config.name)]

end Project

end Provision
