import Provision.Action.Absence
import Provision.Action.Administration
import Provision.Registry

/-!
# Running an action

An action first looks at its context and its options. Only what is wrong there is
raised. After that it ends in an outcome of its own, whatever happens: the outcome
of its commands is attached as a part, and a fault on the way becomes a part in
error. A failed part makes the action an error.
-/

namespace Provision

namespace Action

def missing? (work : ActionName) (options : Entries) : Option String :=
  work.required.find? fun key =>
    match options.get? key with
    | none => true
    | some .null => true
    | _ => false

def checkOptions (a : Action) (options : Entries) : Except Fault Unit :=
  match missing? a.work options with
  | some key => .error (.missingOption key)
  | none => .ok ()

/-- A scratch org needs a hub. -/
def checkContext (c : Context) : Except Fault Unit :=
  if c.target.isScratchOrg && !c.devHub.truthy then
    .error (.of .invalidActionContext <|
      s!"Target org '{c.target.aliasName}' is a scratch org, but no DevHub alias was provided")
  else .ok ()

def check (a : Action) (c : Option Context) (options : Entries) : Except Fault Context := do
  match c with
  | none => .error (.of .invalidActionContext s!"Missing action context for '{a.name}'")
  | some c =>
    checkContext c
    a.checkOptions options
    return c

def begun (a : Action) (c : Context) (options : Entries) (now : Moment) : Outcome :=
  (Outcome.begin s!"{a.name}:execute" .action { failureIsError := true } now).withDetail
    (.dict [("action_type", .str ActionName.kind), ("action_name", .str a.name),
      ("description", .str a.work.description), ("target_org", .str c.target.aliasName),
      ("action_options", .dict options)])

variable {σ : Type}

def Draft.play {α : Type} (d : Draft α) : Play σ (Except Fault α) := do
  let s ← get
  let (result, serial) := d.run.run s.serial
  set { s with serial }
  return result

/-- Does the work. Returns what the outcome has learned on the way, and the outcome
of the commands. -/
def perform (a : Action) (r : Runner σ) (c : Context) (options : Entries) (o : Outcome) :
    Play σ (Outcome × Except Raised Outcome) := do
  match draft? a.work with
  | some draft =>
    match ← (draft c options).play with
    | .error f => return (o, .error (.fault f))
    | .ok command =>
      let o := o.withDetail (.dict [("executor_name", .str a.work.executor),
        ("executor_messages", .dict command.messages), ("command", command.toValue)])
      return (o, ← Stage.hand r command)
  | none =>
    match ← (prepare c options).play with
    | .error f => return (o, .error (.fault f))
    | .ok (definition, permsets) =>
      let o := o.withDetail (.dict [("executor_name", .str a.work.executor),
        ("user_definition", .dict definition)])
      return (o, ← configureAdmin r c definition permsets)
where
  prepare (c : Context) (options : Entries) : Draft (Entries × List String) := do
    let file ← within c.project.configPath (← option options "definitionFile")
    let definition ← Draft.ofExcept (User.readDefinition c.files file)
    return (definition, ← Draft.ofExcept (User.permissionSets definition))

/-- Looks again at the outcome of the commands: an org that was not there to be
deleted is only worth a warning. -/
def classify (a : Action) (options : Entries) (child : Outcome) : Play σ Outcome := do
  if a.work = .deleteScratchOrg then
    let org := (options.getD "scratchOrgAlias").text
    match absenceWarning? org child (← Stage.clock) with
    | some warning =>
      Stage.note (.info .engine s!"Scratch org '{org}' does not exist, nothing to delete")
      return warning
    | none => return child
  else return child

/-- The outcome of the commands. Whatever was raised on the way is an outcome in error. -/
def received (a : Action) : Except Raised Outcome → Play σ Outcome
  | .ok child => return child
  | .error e => do
    Stage.note (.debug .engine s!"Action {a.name} raised: {(Outcome.faultOf e).text}")
    return .ofRaised e a.work.executor .executor (← Stage.clock)

def conclude (a : Action) (o child : Outcome) : Play σ Outcome := do
  let now ← Stage.clock
  let reply := o.attach child now
  match reply.raised with
  | none => return (reply.outcome.finish .null now).outcome
  | some _ =>
    Stage.note (.debug .engine s!"Action {a.name} bubbled an error: {reply.outcome.message}")
    return reply.outcome

def runChecked (a : Action) (r : Runner σ) (c : Context) (options : Entries) : Play σ Outcome := do
  let o := a.begun c options (← Stage.clock)
  Stage.note (.debug .engine
    s!"Executing action {a.name} with options {(Value.dict options).text}")
  let (o, result) ← a.perform r c options o
  let child ← a.received result
  let child ← a.classify options child
  a.conclude o child

def run (a : Action) (r : Runner σ) (c : Option Context) (options : Entries) :
    Play σ (Except Fault Outcome) := do
  match a.check c options with
  | .error f => return .error f
  | .ok c => return .ok (← a.runChecked r c options)

def rehearse (a : Action) (c : Context) (options : Entries) : Play σ (Except Fault Outcome) := do
  match a.check (some c) options with
  | .error f => return .error f
  | .ok c =>
    let now ← Stage.clock
    return .ok ((a.begun c options now).succeed (.dict [("dry_run", .bool true)]) now).outcome

end Action

end Provision
