import Provision.Plan.Demo
import Provision.Plan.Run
import Provision.Recipe.File

/-!
# The life of a recipe

A recipe is read and validated, then compiled, then executed. Compiling attaches an
engine, and an attempt that fails leaves the recipe with the engine it had.
Executing wraps the outcome of the engine in one of the recipe's own, which takes in
everything below it and raises itself when that is an error.
-/

namespace Provision

structure Recipe where
  document : Recipe.Document
  project : Project
  source : Option Files.Path
  /-- Anything that counts as given will do. -/
  validated : Value
  compiled : Bool
  engine : Option Plan.Engine

namespace Recipe

open Plan (Engine)

def ofDocument (d : Document) (project : Project) (source : Option Files.Path) : Recipe :=
  ⟨d, project, source, .bool false, false, none⟩

/-! ## Reading and validating -/

def hasEngine (type : String) : Bool := type = demoType

def problems (d : Document) : List String :=
  if hasEngine d.type then Plan.problems [Plan.Demo.refreshAlias] demoType d
  else Plan.problems [] "abstract" d

def validate (r : Recipe) : Except Fault Recipe :=
  match problems r.document with
  | [] => .ok { r with validated := .bool true }
  | ps => .error (.invalidRecipe s!"Recipe '{r.document.name}' failed validation" ps)

def sourceName (source : Option Files.Path) : String :=
  match source with
  | some p => p.name
  | none => "recipe"

def ofData (data : Value) (project : Project) (source : Option Files.Path) : Journaled Recipe := do
  let d ← match Document.parse data (sourceName source) with
    | .ok d => pure d
    | .error f => throw f
  let r ← match (ofDocument d project source).validate with
    | .ok r => pure r
    | .error f => throw f
  Journaled.note (.info .recipe s!"Validated recipe '{d.name}' ({d.type})")
  return r

def read (files : Files) (project : Project) (ref : String) : Journaled Recipe := do
  let path ← match locate files project ref with
    | .ok p => pure p
    | .error f => throw f
  let data ← loadData files path
  ofData (.dict data) project (some path)

/-! ## Compiling -/

def toSource (r : Recipe) : Engine.Source := ⟨r.document, r.project, r.validated⟩

structure Compiled (π : Type) where
  recipe : Recipe
  result : Except Fault Engine
  asked : π
  records : List Record

variable {π σ : Type}

def compile (r : Recipe) (p : Option (Interview.Prompter π)) (choices : Choices) (asked : π) :
    Compiled π :=
  let d := r.document
  let refuse (f : Fault) : Compiled π := ⟨r, .error f, asked, []⟩
  if !r.validated.truthy then
    refuse (.of .recipeNotValidated s!"Recipe '{d.name}' must be validated before compiling")
  else if !hasEngine d.type then
    refuse (.invalidRecipe s!"Recipe type '{d.type}' is not supported by any engine yet" [])
  else
    let report := (Engine.fresh demoType Plan.Demo.label).compile (Plan.Demo.make p) r.toSource
      choices asked
    match report.result with
    | .ok () =>
      ⟨{ r with engine := some report.engine, compiled := true }, .ok report.engine, report.asked,
        report.records⟩
    | .error f => ⟨r, .error f, report.asked, report.records⟩

/-- Compiles again on the engine that is attached, whatever comes of it. -/
def recompile (r : Recipe) (e : Engine) (p : Option (Interview.Prompter π)) (choices : Choices)
    (asked : π) : Compiled π :=
  let report := e.compile (Plan.Demo.make p) r.toSource choices asked
  ⟨{ r with engine := some report.engine }, report.result.map fun _ => report.engine,
    report.asked, report.records⟩

/-! ## Executing -/

def uncompiled (r : Recipe) : Fault :=
  .of .recipeNotCompiled s!"Recipe '{r.document.name}' must be compiled before executing"

def begun (r : Recipe) (now : Moment) : Outcome :=
  (Outcome.begin s!"recipe:{r.document.name}" .recipe {} now).withDetail
    (.dict [("recipe_name", .str r.document.name), ("recipe_type", .str r.document.type),
      ("source", .ofOption (r.source.map (·.text)))])

def conclude (o engine : Outcome) (now : Moment) : Except Raised Outcome :=
  let reply := o.attach engine now
  match reply.raised with
  | some raised => .error raised
  | none => .ok (reply.outcome.finish .null now).outcome

def execute (r : Recipe) (runner : Runner σ) (files : Files) (choices : RunChoices) :
    Play σ (Except Raised Outcome) := do
  match r.compiled, r.engine with
  | true, some e =>
    let o := r.begun (← Stage.clock)
    match ← e.run runner files choices with
    | .ok engine => return conclude o engine (← Stage.clock)
    | .error (.bubbled engine) => return conclude o engine (← Stage.clock)
    | .error (.fault f) => return .error (.fault f)
  | _, _ => return .error (.fault r.uncompiled)

/-- The recipe as an execution leaves it. Its engine is the one that has run. -/
def executed (r : Recipe) (runner : Runner σ) (files : Files) (choices : RunChoices)
    (s : Stage σ) : Recipe :=
  match r.compiled, r.engine with
  | true, some e => { r with engine := some ((e.execute runner files choices).run s).1.2 }
  | _, _ => r

/-! ## As data -/

def entries (r : Recipe) : Entries :=
  let d := r.document
  [("name", .str d.name), ("description", .str d.description), ("type", .str d.type),
    ("version", .str d.version), ("schema_version", .str d.schemaVersion),
    ("validated", r.validated), ("compiled", .bool r.compiled),
    ("step_groups", .ofStrings d.aliases),
    ("target_orgs", .ofStrings (d.options.targets.map (·.aliasName)))]

end Recipe

end Provision
