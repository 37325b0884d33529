import Provision.Action.Name
import Provision.Files
import Provision.Plan.Choices
import Provision.Project
import Provision.Recipe.Document

/-!
# What an action is and what it works with

Every action goes by a description, the command it starts with, and the options
that a step must give it. It works in a context: the org it is for, the project,
the hub that makes scratch orgs, and the files it may read.
-/

namespace Provision

namespace ActionName

def command : ActionName → String
  | .createScratchOrg => "force:org:create"
  | .deleteScratchOrg => "force:org:delete"
  | .deployMetadata => "force:mdapi:deploy"
  | .importDataTree => "force:data:tree:import"
  | .executeApex => "force:apex:execute"
  | .installPackage => "force:package:install"
  | .createUser => "force:user:create"
  | .configureAdminUser => "force:data:record:update"

def description : ActionName → String
  | .createScratchOrg => "Create Scratch Org"
  | .deleteScratchOrg => "Delete Scratch Org"
  | .deployMetadata => "Deploy Metadata"
  | .importDataTree => "Import Data Tree"
  | .executeApex => "Execute Apex"
  | .installPackage => "Install Package"
  | .createUser => "Create User"
  | .configureAdminUser => "Configure Admin User"

/-- The name under which the commands of an action are reported. -/
def executor : ActionName → String
  | .configureAdminUser => "sfdx:configureUser"
  | _ => "sfdx:executeSfdxCommand"

def required : ActionName → List String
  | .createScratchOrg => ["scratchOrgAlias", "scratchDefJson"]
  | .deleteScratchOrg => ["scratchOrgAlias"]
  | .deployMetadata => ["mdapiSource"]
  | .importDataTree => ["plan"]
  | .executeApex => ["apexCodeFile"]
  | .installPackage => ["packageName", "packageVersionId"]
  | .createUser => ["definitionFile", "sfdxUserAlias"]
  | .configureAdminUser => ["definitionFile"]

def kind : String := "sfdx-cli"

end ActionName

structure Context where
  target : Recipe.Target
  project : Project
  devHub : Value
  logLevel : ToolLogLevel
  files : Files

namespace Context

/-- Flags of every command: JSON output, and the level of the tool's own log. -/
def standardFlags (c : Context) : Entries :=
  [("FLAG_JSON", .bool true), ("FLAG_LOGLEVEL", .str c.logLevel.text)]

end Context

end Provision
