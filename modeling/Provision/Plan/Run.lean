import Provision.Action.Run
import Provision.Plan.Engine

/-!
# Running a plan

Groups run in order, and in each group its tasks, one at a time. A task ends in the
outcome of its action. When the setting says so, the first error ends the run; an
action that is not registered ends it in any case. A group and a task are announced
when they start and when they end, save for a task whose action is not registered:
it never starts, and its failure is all that is said of the end of its group. An
announcement that the listener refuses ends the run there and then.
-/

namespace Provision.Plan

variable {σ : Type}

structure Terms where
  registry : Registry
  context : Context
  /-- Whether the first error ends the run. -/
  halt : Bool
  dryRun : Bool

def closing (o : Outcome) (name failure : String) : Event :=
  match o.status with
  | .success => .complete name
  | .warning => .complete s!"{name} (warning)"
  | _ => .error failure

def marker : Status → String
  | .success => "✓"
  | .warning => "⚠"
  | _ => "✗"

def call (r : Runner σ) (terms : Terms) (a : Action) (t : Task) : Play σ (Except Fault Outcome) :=
  if terms.dryRun then a.rehearse terms.context t.options
  else a.run r (some terms.context) t.options

/-- The outcome of a task whose action is registered. What is wrong with the call of
the action becomes an outcome in error. -/
def taskOutcome (r : Runner σ) (terms : Terms) (a : Action) (t : Task) : Play σ Outcome := do
  match ← call r terms a t with
  | .ok o => return o
  | .error f => return .ofRaised (.fault f) s!"{t.action}:execute" .action (← Stage.clock)

def runTask (r : Runner σ) (terms : Terms) (a : Action) (t : Task) : Watched σ Outcome := do
  Watched.tell (.start t.name)
  Watched.note (.info .engine s!"▶ {t.name} ({t.action})")
  let o ← taskOutcome r terms a t
  Watched.note (.info .engine s!"{marker o.status} {t.name} → {o.status.name}")
  Watched.tell (closing o t.name s!"{t.name}: {o.message}")
  return o

/-- Runs the tasks of a group. `group` is its outcome so far. -/
def runTasks (r : Runner σ) (terms : Terms) (g : TaskGroup) (group : Outcome) :
    List Task → Watched σ Outcome
  | [] => do
    let o := (group.finish .null (← Watched.clock)).outcome
    Watched.tell (closing o g.name s!"{g.name} finished with status {o.status.name}")
    return o
  | t :: rest => do
    match terms.registry.resolve t.action with
    | .error f =>
      Watched.note (.error .engine f.text)
      let o := (group.error (.fault f) .null (← Watched.clock)).outcome
      Watched.tell (.error s!"{t.name}: {f.text}")
      return o
    | .ok a =>
      let o ← runTask r terms a t
      let reply := group.attach o (← Watched.clock)
      match reply.raised with
      | some _ =>
        Watched.tell (.error s!"{g.name}: {reply.outcome.message}")
        return reply.outcome
      | none => runTasks r terms g reply.outcome rest

def TaskGroup.begun (g : TaskGroup) (terms : Terms) (now : Moment) : Outcome :=
  (Outcome.begin s!"group:{g.aliasName}" .function { bubbleError := terms.halt } now).withDetail
    (.dict [("group_name", .str g.name), ("steps", .int g.tasks.length)])

def runGroup (r : Runner σ) (terms : Terms) (g : TaskGroup) : Watched σ Outcome := do
  Watched.tell (.start g.name)
  runTasks r terms g (g.begun terms (← Watched.clock)) g.tasks

/-- Runs groups. The outcome of the run so far takes in that of each group, and when
it bubbles no more groups are run. -/
def runGroups (r : Runner σ) (terms : Terms) (run : Outcome) :
    List TaskGroup → Watched σ Outcome.Reply
  | [] => return run.finish .null (← Watched.clock)
  | g :: rest => do
    let o ← runGroup r terms g
    let reply := run.attach o (← Watched.clock)
    match reply.raised with
    | some _ => return reply
    | none => runGroups r terms reply.outcome rest

namespace Engine

def uncompiled (e : Engine) : Fault :=
  .of .recipeNotCompiled s!"The {e.type} engine has no compiled task tree"

def terms (e : Engine) (s : Setting) (t : Recipe.Target) (files : Files) (choices : RunChoices) :
    Terms where
  registry := e.registry
  context :=
    { target := t, project := s.project, devHub := s.devHub, logLevel := s.logLevel, files }
  halt := s.haltOnError.truthy
  dryRun := choices.dryRun

def begun (e : Engine) (name : String) (s : Setting) (t : Recipe.Target) (choices : RunChoices)
    (now : Moment) : Outcome :=
  (Outcome.begin s!"{e.type}:execute" .engine {} now).withDetail
    (.dict [("recipe_name", .str name), ("target_org", .str t.aliasName),
      ("halt_on_error", s.haltOnError), ("dry_run", .bool choices.dryRun)])

def marked (e : Engine) (running : Bool) : Engine :=
  { e with setting := e.setting.map (·.write (.isExecuting (.bool running))) }

/-- Runs the tree, and answers with the engine as the run leaves it. A run that is ended
by an error raises its outcome, and one that its listener ended raises the fault. The mark
that a run is going on stands for as long as groups are run, and is taken away however
they end. -/
def execute (e : Engine) (r : Runner σ) (files : Files) (choices : RunChoices) :
    Play σ (Except Raised Outcome × Engine) := do
  match e.tree, e.setting, e.setting.bind (·.target), e.document with
  | some tree, some s, some t, some d =>
    let o := e.begun d.name s t choices (← Stage.clock)
    let e := e.marked true
    let ended ← (runGroups r (e.terms s t files choices) o tree).run
    let e := e.marked false
    match ended with
    | .error f => return (.error (.fault f), e)
    | .ok reply =>
      match reply.raised with
      | some raised =>
        Stage.note (.error .engine s!"Recipe '{d.name}' halted: {reply.outcome.message}")
        return (.error raised, e)
      | none => return (.ok reply.outcome, e)
  | _, _, _, _ => return (.error (.fault e.uncompiled), e)

def run (e : Engine) (r : Runner σ) (files : Files) (choices : RunChoices) :
    Play σ (Except Raised Outcome) := do
  let (result, _) ← e.execute r files choices
  return result

end Engine

end Provision.Plan
