import Provision.Interview.Question

/-!
# The choice of a target

Whoever installs a recipe picks one of its targets, confirms what will happen to
it, and may start over after declining. The answers of one round have no bearing on
the next. Every round uses up answers, so there are finitely many (`chooseTarget`).
-/

namespace Provision.Interview

open Recipe (Target)

def chosenTarget? (answers : Answers) : Option Target :=
  (answers.lookup "targetOrg").bind Answer.asTarget?

def agreed (answers : Answers) (name : String) : Bool :=
  (answers.lookup name).any Answer.truthy

def cancelValue : String := "CANCEL_INSTALLATION"

def targetChoice (t : Target) : Choice :=
  .of s!"{t.orgName} -- {t.description}" (.target t) t.orgName false

def cancelChoice : Choice :=
  .of "Cancel Installation" (.value (.str cancelValue)) "Demo Installation Canceled" false

def pickQuestion (targets : List Target) : Question where
  kind := .list
  name := "targetOrg"
  message := fun _ => .ok "Please select the installation target for this demo"
  choices := targets.map targetChoice ++ [cancelChoice]

def deletionMessage (t : Target) : String :=
  s!"The scratch org '{t.aliasName}' will be deleted before installing the demo. Proceed?"

def validationMessage (t : Target) : String :=
  s!"The alias '{t.aliasName}' must be associated with a compatible Salesforce org. " ++
    "Proceed with org validation?"

def confirmQuestion (about : Target → String) (concerns : Target → Bool) : Question where
  kind := .confirm
  name := "proceed"
  message := fun answers => .ok (((chosenTarget? answers).map about).getD "")
  default := .bool false
  visible := fun answers => (chosenTarget? answers).any concerns

def retryQuestion : Question where
  kind := .confirm
  name := "tryAgain"
  message := fun _ => .ok "Would you like to select a different demo target?"
  default := .bool false
  visible := fun answers => (chosenTarget? answers).isSome && !agreed answers "proceed"

def targetQuestions (targets : List Target) : List Question :=
  [pickQuestion targets, confirmQuestion deletionMessage (·.isScratchOrg),
    confirmQuestion validationMessage (!·.isScratchOrg), retryQuestion]

def refreshQuestion (t : Target) : Question where
  kind := .confirm
  name := "proceed"
  message := fun _ => .ok (deletionMessage t)
  default := .bool false

def groupsQuestion (aliases skipped : List String) : Question where
  kind := .checkbox
  name := "installGroups"
  message := fun _ => .ok "Select the step groups to install"
  choices := aliases.map fun a => .of a (.value (.str a)) "" (!skipped.contains a)

def cancelled : Fault := .of .installationCancelled "Installation cancelled at user's request"

variable {π : Type}

/-- Asks until a target is confirmed, or the installation is called off. -/
def chooseTarget (p : Prompter π) (targets : List Target) (s : π) : Except Fault Target × π :=
  match _h : interview p (targetQuestions targets) s with
  | (.error f, s') => (.error f, s')
  | (.ok answers, s') =>
    match chosenTarget? answers with
    | none => (.error cancelled, s')
    | some t =>
      if agreed answers "proceed" then (.ok t, s')
      else if agreed answers "tryAgain" then chooseTarget p targets s'
      else (.error cancelled, s')
termination_by p.size s
decreasing_by exact interview_lt rfl _h

def confirmRefresh (p : Prompter π) (t : Target) (s : π) : Except Fault Unit × π :=
  match interview p [refreshQuestion t] s with
  | (.error f, s) => (.error f, s)
  | (.ok answers, s) => if agreed answers "proceed" then (.ok (), s) else (.error cancelled, s)

end Provision.Interview
