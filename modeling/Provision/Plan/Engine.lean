import Provision.Plan.Build
import Provision.Value.Display

/-!
# Engines

An engine compiles a recipe into a task tree and holds on to it. Compiling starts
from a clean slate: whatever an earlier recipe left behind is gone, whether or not
the new one can be compiled. An engine without a tree cannot be run.
-/

namespace Provision.Plan

open Recipe (Document Group)

structure Engine where
  type : String
  label : String
  document : Option Document
  setting : Option Setting
  registry : Registry
  before : Supplied
  after : Supplied
  tree : Option Tree
  deriving Inhabited

namespace Engine

def fresh (type label : String) : Engine :=
  ⟨type, label, none, none, .empty type, .absent, .absent, none⟩

def compiled (e : Engine) : Bool := e.tree.isSome

def description (e : Engine) : String :=
  let compiled := (Value.bool e.compiled).text
  s!"<{e.label} type={Text.quoted e.type} compiled={compiled}>"

def readDocument (e : Engine) : Except Fault Document :=
  match e.document with
  | some d => .ok d
  | none => .error (.of .recipeNotCompiled "No recipe has been compiled by this engine")

def aliases (e : Engine) : Except Fault (List String) := do
  let d ← e.readDocument
  match e.before.listingFault?.or e.after.listingFault? with
  | some f => .error f
  | none =>
    if e.before.hasStranger || e.after.hasStranger then
      .error (.mishap .noSuchField "'str' object has no attribute 'alias'")
    else
      .ok (Recipe.groupAliases
        (allGroups (e.before.groups?.getD []) d (e.after.groups?.getD [])))

/-! ## Compiling -/

/-- What is compiled: a document that may have been validated, and where it is to
run. -/
structure Source where
  document : Document
  project : Project
  validated : Value

structure Report (π : Type) where
  engine : Engine
  result : Except Fault Unit
  asked : π
  records : List Record
  begun : List Phase

variable {π : Type}

/-- The slate on which a recipe is compiled. -/
def slate (type : String) (s : Source) (choices : Choices) (asked : π) : Build π where
  setting := { project := s.project, choices }
  before := .absent
  after := .absent
  registry := .empty type
  asked := asked
  records := [.debug .engine s!"Compiling recipe '{s.document.name}' with {type} engine"]
  begun := []

def holding (e : Engine) (d : Document) (b : Build π) (setting : Setting) (tree : Option Tree) :
    Engine :=
  { e with
    document := some d
    setting := some setting
    registry := b.registry
    before := b.before
    after := b.after
    tree }

def unvalidated : Fault :=
  .invalidRecipe "Recipes must be validated before they can be compiled" []

def compile (m : Make π) (e : Engine) (s : Source) (choices : Choices) (asked : π) : Report π :=
  if !s.validated.truthy then ⟨e, .error unvalidated, asked, [], []⟩
  else
    let d := s.document
    let (result, b) := (runHooks m d Phase.all).run.run (slate m.type s choices asked)
    let report (setting : Setting) (tree : Option Tree) (result : Except Fault Unit)
        (records : List Record) : Report π :=
      ⟨e.holding d b setting tree, result, b.asked, b.records ++ records, b.begun⟩
    match result with
    | .error f => report b.setting none (.error f) []
    | .ok () =>
      match b.checked d with
      | .error f => report b.setting none (.error f) []
      | .ok (groups, setting) =>
        match skips setting with
        | .error f => report setting none (.error f) []
        | .ok skips =>
          let tree := Tree.ofGroups skips groups
          report setting (some tree) (.ok ()) (omissions skips groups ++ [.info .engine <|
            s!"Compiled recipe '{d.name}': {tree.length} group(s), {tree.taskCount} step(s)"])

def tasks (e : Engine) : Value := (e.tree.getD []).toValue

def contextValue (e : Engine) : Except Fault Value :=
  match e.setting with
  | none => .ok .null
  | some s => s.toValue

end Engine

end Provision.Plan
