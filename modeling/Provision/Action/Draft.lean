import Provision.Action.Context
import Provision.Command
import Provision.User.Definition

/-!
# Drafting commands

Most actions are one command, drafted from the options of the step. An option that
is missing, or that should name a file and is no text, is a fault. Creating a user
reads the user's definition and takes a serial number for the user name.
-/

namespace Provision.Action

open Files (Path)

/-- Drafting takes serial numbers, and keeps those it took when it fails. -/
abbrev Draft (α : Type) := ExceptT Fault (StateM Nat) α

def Draft.ofExcept {α : Type} (e : Except Fault α) : Draft α :=
  match e with
  | .ok a => pure a
  | .error f => throw f

def noSuchKey (key : String) : Fault := .mishap .noSuchKey (Text.quoted key)

def option (options : Entries) (key : String) : Draft Value :=
  match options.get? key with
  | some v => pure v
  | none => throw (noSuchKey key)

def within (directory : Path) (name : Value) : Draft Path :=
  match name with
  | .str s => pure (directory.append s)
  | v => throw (.mishap .wrongKind
      s!"unsupported operand type(s) for /: 'PosixPath' and '{v.kindName}'")

def takeSerial : Draft Nat := do
  let n := (← get) + 1
  set n
  return n

def waitMinutes : Value := .int 10

def durationDays : Value := .int 30

def path (p : Path) : Value := .str p.text

def createScratchOrg (c : Context) (options : Entries) : Draft Command := do
  let org ← option options "scratchOrgAlias"
  let definition ← option options "scratchDefJson"
  let file ← within c.project.configPath definition
  return {
    command := ActionName.createScratchOrg.command
    progressMsg := s!"Creating scratch org '{org.text}' using {definition.text} " ++
      "(this can take 3-10 minutes)"
    errorMsg := s!"Failed to create scratch org using {definition.text}"
    successMsg := s!"Scratch org '{org.text}' created successfully using {definition.text}"
    flags := [("FLAG_TARGETDEVHUBUSERNAME", c.devHub), ("FLAG_DEFINITIONFILE", path file),
      ("FLAG_SETALIAS", org),
      ("FLAG_DURATIONDAYS", (options.get? "durationDays").getD durationDays),
      ("FLAG_WAIT", waitMinutes), ("FLAG_NONAMESPACE", .bool true),
      ("FLAG_SETDEFAULTUSERNAME", .bool true)] ++ c.standardFlags }

def deleteScratchOrg (c : Context) (options : Entries) : Draft Command := do
  let org ← option options "scratchOrgAlias"
  return {
    command := ActionName.deleteScratchOrg.command
    progressMsg := s!"Marking scratch org '{org.text}' for deletion"
    errorMsg := s!"Request to mark scratch org '{org.text}' for deletion failed"
    successMsg := s!"Scratch org '{org.text}' successfully marked for deletion"
    flags := [("FLAG_TARGETUSERNAME", org), ("FLAG_TARGETDEVHUBUSERNAME", c.devHub),
      ("FLAG_NOPROMPT", .bool true)] ++ c.standardFlags }

def deployMetadata (c : Context) (options : Entries) : Draft Command := do
  let source ← option options "mdapiSource"
  let org := c.target.aliasName
  let directory ← within c.project.mdapiSourcePath source
  return {
    command := ActionName.deployMetadata.command
    progressMsg := s!"Deploying metadata from '{source.text}' to {org}"
    errorMsg := s!"Deployment of metadata from '{source.text}' to {org} failed"
    successMsg := s!"Metadata from '{source.text}' successfully deployed to {org}"
    flags := [("FLAG_TARGETUSERNAME", .str org), ("FLAG_DEPLOYDIR", path directory),
      ("FLAG_WAIT", waitMinutes)] ++ c.standardFlags }

def importDataTree (c : Context) (options : Entries) : Draft Command := do
  let plan ← option options "plan"
  let file ← within c.project.dataPath plan
  return {
    command := ActionName.importDataTree.command
    progressMsg := s!"Importing data based on {plan.text}"
    errorMsg := s!"Data tree import failed for plan {plan.text}"
    successMsg := s!"Data tree import succeeded for plan '{plan.text}'"
    flags := [("FLAG_TARGETUSERNAME", .str c.target.aliasName), ("FLAG_PLAN", path file),
      ("FLAG_CONTENTTYPE", .str "json")] ++ c.standardFlags }

def executeApex (c : Context) (options : Entries) : Draft Command := do
  let code ← option options "apexCodeFile"
  let file ← within c.project.configPath code
  return {
    command := ActionName.executeApex.command
    progressMsg := s!"Executing anonymous Apex from '{code.text}'"
    errorMsg := s!"Execution failed for anonymous Apex in '{code.text}'"
    successMsg := s!"Execution of anonymous Apex in '{code.text}' succeeded"
    flags := [("FLAG_TARGETUSERNAME", .str c.target.aliasName), ("FLAG_APEXCODEFILE", path file)] ++
      c.standardFlags }

def installPackage (c : Context) (options : Entries) : Draft Command := do
  let name ← option options "packageName"
  let version ← option options "packageVersionId"
  let org := c.target.aliasName
  let package := s!"'{name.text}' ({version.text})"
  return {
    command := ActionName.installPackage.command
    progressMsg := s!"Installing {package} into {org}"
    errorMsg := s!"Installation of package {package} failed"
    successMsg := s!"Package {package} successfully installed into {org}"
    flags := [("FLAG_TARGETUSERNAME", .str org), ("FLAG_PACKAGE", version),
      ("FLAG_WAIT", waitMinutes), ("FLAG_PUBLISHWAIT", waitMinutes),
      ("FLAG_NOPROMPT", .bool true)] ++ c.standardFlags }

def baseUsername (definition : Entries) : Value :=
  let first := definition.getD "Username"
  let second := definition.getD "username"
  if first.truthy then first else if second.truthy then second else .str ""

/-- A user name that no other user has. The serial number is taken only when the
base will do. -/
def takeUsername (base : Value) : Draft String := do
  match User.uniqueUsername ((← get) + 1) base with
  | .error f => throw f
  | .ok username =>
    let _ ← takeSerial
    return username

def createUser (c : Context) (options : Entries) : Draft Command := do
  let file ← within c.project.configPath (← option options "definitionFile")
  let definition ← Draft.ofExcept (User.readDefinition c.files file)
  let username ← takeUsername (baseUsername definition)
  let password := User.password (definition.getD "password")
  let permsets ← Draft.ofExcept (User.permissionSets definition)
  let org := c.target.aliasName
  let userAlias ← option options "sfdxUserAlias"
  return {
    command := ActionName.createUser.command
    args := [s!"username={username}", s!"password={password.text}"] ++
      (if permsets.isEmpty then [] else ["permsets=" ++ ",".intercalate permsets])
    progressMsg := s!"Creating User '{username}' in {org}"
    errorMsg := s!"Failed to create User '{username}' in {org}"
    successMsg := s!"User '{username}' created successfully"
    flags := [("FLAG_TARGETUSERNAME", .str org), ("FLAG_DEFINITIONFILE", path file),
      ("FLAG_SETALIAS", userAlias)] ++ c.standardFlags }

def draft? (work : ActionName) : Option (Context → Entries → Draft Command) :=
  match work with
  | .createScratchOrg => some createScratchOrg
  | .deleteScratchOrg => some deleteScratchOrg
  | .deployMetadata => some deployMetadata
  | .importDataTree => some importDataTree
  | .executeApex => some executeApex
  | .installPackage => some installPackage
  | .createUser => some createUser
  | .configureAdminUser => none

end Provision.Action
