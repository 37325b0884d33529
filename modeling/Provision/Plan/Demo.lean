import Provision.Interview.Target
import Provision.Plan.Build
import Provision.Recipe.Record
import Provision.Value.Display

/-!
# Demo installations

The engine that installs a demo into an org. The target is the one the caller
names, or the only one of the recipe, or the one that is picked when asked. A
scratch org is deleted and made anew before the recipe's own groups, which needs
the consent of the user unless the caller named the target or said yes beforehand.
Groups are skipped as the caller says, or as the recipe says, or, in a custom
install, as the user leaves them unchecked.
-/

namespace Provision.Plan.Demo

open Recipe (Document Group Step Target)
open Interview (Prompter)

def refreshAlias : String := "refresh-scratch-org"

def actions : List ActionName := ActionName.all

variable {π : Type}

def text (s : Option String) : String := (Value.ofOption s).text

def refreshOptions (t : Target) : Entries :=
  [("scratchOrgAlias", .str t.aliasName), ("scratchDefJson", .ofOption t.scratchDefJson)]

def refreshGroup (t : Target) : Group where
  name := "Refresh Scratch Org"
  aliasName := refreshAlias
  description := s!"Delete and recreate the scratch org '{t.aliasName}'"
  steps := [
    ⟨"Delete Scratch Org", s!"Mark '{t.aliasName}' for deletion", ActionName.deleteScratchOrg.text,
      refreshOptions t, none, none⟩,
    ⟨"Create Scratch Org", s!"Create '{t.aliasName}' from {text t.scratchDefJson}",
      ActionName.createScratchOrg.text, refreshOptions t, none, none⟩]

def orElse (first second : Option String) : Option String :=
  if first.getD "" = "" then second else first

def setContext (d : Document) : Hook π Unit := do
  let s := (← get).setting
  Hook.assign (.isExecuting (.bool false))
  Hook.assign (.devHub (.ofOption (orElse s.choices.devHub s.project.config.devHubAlias)))
  Hook.assign (.haltOnError (.bool (s.choices.haltOnError.getD d.options.haltOnError)))
  Hook.assign (.logLevel (s.choices.logLevel.getD (.ofSetting s.project.config.logLevel)))

def missingTarget (text : String) : Fault := .of .missingTargetOrg text

def noConsent (t : Target) : Fault :=
  .of .installationCancelled <| s!"The scratch org '{t.aliasName}' would be deleted and no " ++
    "interactive prompt is available to confirm (use --yes)"

def consent (p : Option (Prompter π)) (c : Choices) (t : Target) : Hook π Unit :=
  if t.isScratchOrg && !c.skipOrgRefresh && !c.assumeYes then
    match p with
    | none => throw (noConsent t)
    | some p => Hook.ask (Interview.confirmRefresh p t)
  else return

def selectTarget (p : Option (Prompter π)) (d : Document) (c : Choices) : Hook π Target :=
  let named := c.target.getD ""
  if named ≠ "" then
    match d.target? named with
    | some t => return t
    | none => throw (missingTarget <| s!"The target org alias '{named}' does not match " ++
        "any of the targetOrgs in your recipe")
  else match d.options.targets, p with
  | [], _ => throw (missingTarget "The recipe does not declare any targetOrgs")
  | [t], _ => do
    consent p c t
    return t
  | ts, none => throw (missingTarget
      s!"The recipe declares {ts.length} targetOrgs; choose one with --target-org")
  | ts, some p => Hook.ask (Interview.chooseTarget p ts)

def setTarget (p : Option (Prompter π)) (d : Document) : Hook π Unit := do
  let t ← selectTarget p d (← get).setting.choices
  Hook.note (.debug .engine s!"Target org: {t.aliasName}")
  Hook.assign (.target (some t))

def refreshes (c : Choices) (t : Target) : Bool := t.isScratchOrg && !c.skipOrgRefresh

/-- A group that an engine makes has to be in order as one of a recipe has. -/
def formed (g : Group) : Except Fault Group := (Group.read (g.record .snake)).mapError .shape

def supplyRefresh : Hook π Unit := do
  let s := (← get).setting
  match s.target.filter (refreshes s.choices) with
  | none => Hook.supplyBefore (.groups [])
  | some t =>
    match formed (refreshGroup t) with
    | .ok g => Hook.supplyBefore (.groups [g])
    | .error f => throw f

def setSkipActions (d : Document) : Hook π Unit := do
  let c := (← get).setting.choices
  Hook.assign (.skipActions (.ofStrings (c.skipActions.getD d.options.skipActions)))

def unchecked (aliases : List String) (answers : Interview.Answers) : Except Fault (List String) :=
  match answers.lookup "installGroups" with
  | some (.several items) =>
    match items.findSome? stranger? with
    | some f => .error f
    | none => .ok (aliases.filter fun a => !items.any fun i => isText a i)
  | _ => .ok aliases
where
  stranger? : Interview.Answer → Option Fault
    | .value v => if hashable v then none
        else some (.mishap .wrongKind s!"unhashable type: '{v.kindName}'")
    | _ => none
  isText (a : String) : Interview.Answer → Bool
    | .value (.str s) => s = a
    | _ => false

def askSkips (p : Prompter π) (aliases skipped : List String) (s : π) :
    Except Fault (List String) × π :=
  match Interview.interview p [Interview.groupsQuestion aliases skipped] s with
  | (.error f, s) => (.error f, s)
  | (.ok answers, s) => (unchecked aliases answers, s)

def setSkipGroups (p : Option (Prompter π)) (d : Document) : Hook π Unit := do
  let b ← get
  let c := b.setting.choices
  let usual := d.options.skipGroups
  let aliases := Recipe.groupAliases
    (allGroups (b.before.groups?.getD []) d (b.after.groups?.getD []))
  let skipped ← match c.skipGroups, p with
    | some skipped, _ => pure skipped
    | none, p =>
      if !c.customInstall || d.options.noCustomInstall then pure usual
      else match p with
      | none => do
        Hook.note (.warning .engine
          "Custom install requested but no prompt is available; using recipe defaults")
        pure usual
      | some p => Hook.ask (askSkips p aliases usual)
  Hook.assign (.skipGroups (.ofStrings skipped))

def registerAll : List ActionName → Hook π Unit
  | [] => return
  | a :: rest => do
    Hook.register (.ofName a)
    registerAll rest

def hook (p : Option (Prompter π)) (phase : Phase) (d : Document) : Hook π Unit :=
  match phase with
  | .context => setContext d
  | .target => setTarget p d
  | .before => supplyRefresh
  | .after => Hook.supplyAfter (.groups [])
  | .skipActions => setSkipActions d
  | .skipGroups => setSkipGroups p d
  | .actions => registerAll actions

def label : String := "DemoConfigEngine"

def make (p : Option (Prompter π)) : Make π :=
  ⟨Recipe.demoType, label, [refreshAlias], hook p⟩

end Provision.Plan.Demo
