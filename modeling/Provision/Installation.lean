import Provision.Outcome.Report
import Provision.Recipe.Loading

/-!
# Installing a recipe

A recipe is loaded, compiled and executed. A real run wants a runner that is
available, and looks for that before anything is asked. What keeps the run from
beginning is the error of the installation; so is the message of a run that raised
its outcome.
-/

namespace Provision

inductive Installation where
  /-- The recipe could not be loaded. -/
  | unread (error : String)
  /-- Nothing came of the run, or the user called it off. -/
  | stopped (recipe : Recipe) (cancelled : Bool) (error : String)
  | ran (recipe : Recipe) (outcome : Outcome) (error : Option String)

namespace Installation

open Interview (Prompter)

def status : Installation → Status
  | .unread _ => .error
  | .stopped _ cancelled _ => if cancelled then .unknown else .error
  | .ran _ o _ => o.status

def ok : Installation → Bool
  | .ran _ o none => o.ok
  | _ => false

def cancelled : Installation → Bool
  | .stopped _ cancelled _ => cancelled
  | _ => false

def error? : Installation → Option String
  | .unread error => some error
  | .stopped _ _ error => some error
  | .ran _ _ error => error

def recipe? : Installation → Option Recipe
  | .unread _ => none
  | .stopped r _ _ => some r
  | .ran r _ _ => some r

def outcome? : Installation → Option Outcome
  | .ran _ o _ => some o
  | _ => none

/-! ## The run -/

def unavailable (runner : String) : Fault :=
  .of .executorUnavailable s!"The {runner} CLI was not found; install it or put it on PATH"

variable {π σ : Type}

def ofLoading (f : Fault) : Except Fault Installation :=
  match f with
  | .config .. => .ok (.unread f.text)
  | .condition .. => .ok (.unread f.text)
  | _ => .error f

def ofFault (r : Recipe) (f : Fault) : Play σ (Except Fault Installation) := do
  match f with
  | .condition .installationCancelled _ _ =>
    Stage.note (.info .install s!"Installation cancelled: {f.text}")
    return .ok (.stopped r true f.text)
  | .condition .. =>
    Stage.note (.debug .install "Install failed")
    return .ok (.stopped r false f.text)
  | _ => return .error f

def ofRaised (r : Recipe) : Raised → Play σ (Except Fault Installation)
  | .bubbled o =>
    return .ok (.ran r o (some (if o.message = "" then o.bubbledFault.text else o.message)))
  | .fault f => ofFault r f

def execute (r : Recipe) (runner : Runner σ) (files : Files) (run : RunChoices) :
    Play σ (Except Fault Installation) := do
  match ← r.execute runner files run with
  | .ok o => return .ok (.ran r o none)
  | .error raised => ofRaised r raised

def install (r : Recipe) (runner : Runner σ) (files : Files) (choices : Choices)
    (run : RunChoices) (p : Option (Prompter π)) (asked : π) :
    Play σ (Except Fault Installation × π) := do
  if !run.dryRun && !runner.available then
    return (← ofFault r (unavailable runner.name), asked)
  let c := r.compile p choices asked
  Stage.noteAll c.records
  let result ← match c.result with
    | .error f => ofFault c.recipe f
    | .ok _ => execute c.recipe runner files run
  return (result, c.asked)

/-- Installs the recipe that a reference means, with the runner for its project. -/
def run (files : Files) (w : Recipe.Reference) (runner : Project → Runner σ)
    (choices : Choices) (run : RunChoices) (p : Option (Prompter π)) (asked : π) :
    Play σ (Except Fault Installation × π) := do
  let (loaded, records) := (Recipe.load files w).outcome
  Stage.noteAll records
  match loaded with
  | .error f => return (ofLoading f, asked)
  | .ok (project, r) => install r (runner project) files choices run p asked

/-! ## As data -/

def recipeEntries (r : Recipe) : Except Fault Entries :=
  match r.engine.bind (·.setting) with
  | none => .ok [("recipe", .str r.document.name)]
  | some s => do return [("recipe", .str r.document.name), ("context", ← s.toValue)]

def entries (i : Installation) (epoch : Int) (now : Moment) : Except Fault Entries := do
  let recipe ← match i.recipe? with
    | none => pure []
    | some r => recipeEntries r
  let error := match i.error? with
    | none => []
    | some e => [("error", Value.str e)]
  let result := match i.outcome? with
    | none => []
    | some o => [("result", o.report epoch now)]
  return [("status", .str i.status.name), ("cancelled", .bool i.cancelled)] ++ error ++ recipe ++
    result

end Installation

end Provision
