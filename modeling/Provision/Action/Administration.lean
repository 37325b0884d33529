import Provision.Action.Draft
import Provision.Runner

/-!
# Configuring the admin user

The admin user of an org is looked up, and a user definition is applied to it by
up to three commands: one for the fields of its record, one for its permission
sets, one for a new password. The first command that fails ends the chain.
-/

namespace Provision.Action

def displayCommand (c : Context) : Command :=
  let org := c.target.aliasName
  { command := "force:org:display"
    progressMsg := s!"Looking up the admin user of {org}"
    errorMsg := s!"Could not look up the admin user of {org}"
    successMsg := s!"Found the admin user of {org}"
    flags := ("FLAG_TARGETUSERNAME", .str org) :: c.standardFlags }

def recordCommand (c : Context) (values : String) (username : Value) : Command :=
  let org := c.target.aliasName
  let user := username.text
  { command := ActionName.configureAdminUser.command
    progressMsg := s!"Configuring user '{user}' in {org}"
    errorMsg := s!"Failed to configure user '{user}' in {org}"
    successMsg := s!"User '{user}' configured successfully"
    flags := [("FLAG_TARGETUSERNAME", .str org), ("FLAG_SOBJECTTYPE", .str "User"),
      ("FLAG_WHERE", .str s!"Username='{user}'"), ("FLAG_VALUES", .str values)] ++
      c.standardFlags }

def permsetCommand (c : Context) (permsets : List String) (username : Value) : Command :=
  let org := c.target.aliasName
  let user := username.text
  let names := ",".intercalate permsets
  { command := "force:user:permset:assign"
    progressMsg := s!"Assigning {names} to '{user}'"
    errorMsg := s!"Failed to assign {names} to '{user}' in {org}"
    successMsg := s!"Permission sets assigned to '{user}'"
    flags := [("FLAG_TARGETUSERNAME", .str org), ("FLAG_PERMSETNAME", .str names),
      ("FLAG_ONBEHALFOF", username)] ++ c.standardFlags }

def passwordCommand (c : Context) (username : Value) : Command :=
  let org := c.target.aliasName
  let user := username.text
  { command := "force:user:password:generate"
    progressMsg := s!"Generating a password for '{user}'"
    errorMsg := s!"Failed to generate a password for '{user}' in {org}"
    successMsg := s!"Password generated for '{user}'"
    flags := [("FLAG_TARGETUSERNAME", .str org), ("FLAG_ONBEHALFOF", username)] ++
      c.standardFlags }

def configureCommands (c : Context) (definition : Entries) (permsets : List String)
    (username : Value) : List Command :=
  let values := User.recordValues definition
  (if values = "" then [] else [recordCommand c values username]) ++
    (if permsets.isEmpty then [] else [permsetCommand c permsets username]) ++
    (if (definition.getD "generatePassword").truthy then [passwordCommand c username] else [])

def adminUsername (lookup : Outcome) : Except Fault Value :=
  let result := lookup.detail.getD "result"
  if !result.truthy then .ok .null
  else match result with
  | .dict entries => .ok (Entries.getD "username" entries)
  | v => .error (.mishap .noSuchField s!"'{v.kindName}' object has no attribute 'get'")

variable {σ : Type}

/-- How far a chain of commands came: its outcome, and whether it goes on. -/
inductive Chain where
  | going (o : Outcome)
  | ended (o : Outcome)
  | broken (f : Fault)

/-- Runs a command as the next part of a chain. A part that bubbles ends it. -/
def chainCommand (r : Runner σ) (o : Outcome) (c : Command) : Play σ (Chain × Option Outcome) := do
  match ← Stage.hand r c with
  | .error (.bubbled _) => return (.ended o, none)
  | .error (.fault f) => return (.broken f, none)
  | .ok child =>
    let reply := o.attach child (← Stage.clock)
    match reply.raised with
    | some (.fault f) => return (.broken f, none)
    | some (.bubbled _) => return (.ended reply.outcome, none)
    | none => return (.going reply.outcome, some child)

def chainCommands (r : Runner σ) (o : Outcome) : List Command → Play σ Chain
  | [] => return .going o
  | c :: rest => do
    match ← chainCommand r o c with
    | (.going o, _) => chainCommands r o rest
    | (stopped, _) => return stopped

def configureAdmin (r : Runner σ) (c : Context) (definition : Entries) (permsets : List String) :
    Play σ (Except Raised Outcome) := do
  let o := Outcome.begin ActionName.configureAdminUser.executor .executor
    { failureIsError := true } (← Stage.clock)
  match ← chainCommand r o (displayCommand c) with
  | (.going o, some found) =>
    match adminUsername found with
    | .error f => return .error (.fault f)
    | .ok username =>
      let now ← Stage.clock
      if !username.truthy then
        let why := s!"Could not determine the admin username of {c.target.aliasName}"
        return .ok (o.error (.value (.str why)) .null now).outcome
      let o := o.withDetail (.dict [("admin_username", username)])
      match ← chainCommands r o (configureCommands c definition permsets username) with
      | .going o => return .ok (o.finish .null (← Stage.clock)).outcome
      | .ended o => return .ok o
      | .broken f => return .error (.fault f)
  | (.going o, none) => return .ok o
  | (.ended o, _) => return .ok o
  | (.broken f, _) => return .error (.fault f)

end Provision.Action
