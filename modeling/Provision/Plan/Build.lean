import Provision.Plan.Setting
import Provision.Plan.Tree
import Provision.Recipe.Duplicates
import Provision.Registry

/-!
# Building a plan

A make of engine is what distinguishes one engine from another: seven hooks, called
in a fixed order. They fill in the setting, supply groups to run before and after
those of the recipe, and register actions. What a hook may touch is a build, so the
task tree is out of its reach.

After the hooks the build is checked. `Build.checked` answers with the complete
setting, which is frozen, and from a checked build the tree is made.
-/

namespace Provision.Plan

open Recipe (Document Group)

/-- The hooks, by what they supply. -/
inductive Phase where
  | context
  | target
  | before
  | after
  | skipActions
  | skipGroups
  | actions
  deriving DecidableEq, Repr

def Phase.all : List Phase :=
  [.context, .target, .before, .after, .skipActions, .skipGroups, .actions]

/-- Groups that an engine supplies. An engine may supply anything in their place,
or nothing, which is a null. -/
inductive Supplied where
  | groups (gs : List Group)
  | other (v : Value)
  deriving Inhabited

namespace Supplied

def absent : Supplied := .other .null

def groups? : Supplied → Option (List Group)
  | .groups gs => some gs
  | .other _ => none

def listingFault? : Supplied → Option Fault
  | .groups _ => none
  | .other v =>
    match v with
    | .bool true => some (noList v)
    | .int n => if n = 0 then none else some (noList v)
    | .float x => if x == 0.0 then none else some (noList v)
    | _ => none
where
  noList (v : Value) : Fault :=
    .mishap .wrongKind s!"Value after * must be an iterable, not {v.kindName}"

def hasStranger : Supplied → Bool
  | .groups _ => false
  | .other v => v.truthy

end Supplied

structure Build (π : Type) where
  setting : Setting
  before : Supplied
  after : Supplied
  registry : Registry
  /-- The state of whoever is asked. -/
  asked : π
  records : List Record
  /-- The hooks called so far. -/
  begun : List Phase

abbrev Hook (π α : Type) := ExceptT Fault (StateM (Build π)) α

structure Make (π : Type) where
  /-- The type of recipe that it compiles. -/
  type : String
  label : String
  /-- Aliases of groups that it may supply. A recipe must not use them. -/
  reserved : List String
  hook : Phase → Document → Hook π Unit

def problems (reserved : List String) (type : String) (d : Document) : List String :=
  ((Recipe.duplicateAliases d.groups).map repeated) ++
    ((d.aliases.filter (· ∈ reserved)).map taken)
where
  repeated (a : String) : String :=
    s!"'recipeStepGroups': alias '{a}' is used by more than one step group"
  taken (a : String) : String :=
    s!"'recipeStepGroups': alias '{a}' is reserved by the {type} engine"

/-! ## Hooks -/

namespace Hook

variable {π : Type}

def note (r : Record) : Hook π Unit := modify fun b => { b with records := b.records ++ [r] }

def assign (a : Assignment) : Hook π Unit := do
  match (← get).setting.assign a with
  | .ok setting => modify fun b => { b with setting }
  | .error f => throw f

def supplyBefore (s : Supplied) : Hook π Unit := modify fun b => { b with before := s }

def supplyAfter (s : Supplied) : Hook π Unit := modify fun b => { b with after := s }

def register (a : Action) : Hook π Unit := do
  let reply := (← get).registry.register a
  modify fun b => { b with registry := reply.registry, records := b.records ++ reply.records }
  match reply.raised with
  | some f => throw f
  | none => return

def ask {α : Type} (question : π → Except Fault α × π) : Hook π α := do
  let (result, asked) := question (← get).asked
  modify fun b => { b with asked }
  match result with
  | .ok a => return a
  | .error f => throw f

end Hook

variable {π : Type}

def runHooks (m : Make π) (d : Document) : List Phase → Hook π Unit
  | [] => return
  | p :: rest => do
    modify fun b => { b with begun := b.begun ++ [p] }
    m.hook p d
    runHooks m d rest

/-! ## The check -/

def allGroups (before : List Group) (d : Document) (after : List Group) : List Group :=
  before ++ d.groups ++ after

def invalid {α : Type} (text : String) : Except Fault α := .error (.of .invalidEngine text)

def invalidContext {α : Type} (text : String) : Except Fault α :=
  .error (.of .invalidEngineContext text)

/-- The groups of a build, if both supplies are lists of groups with different
aliases. -/
def Build.groups (b : Build π) (d : Document) : Except Fault (List Group) :=
  match b.before, b.after with
  | .groups before, .groups after =>
    let groups := allGroups before d after
    match Recipe.duplicateAliases groups with
    | [] => .ok groups
    | repeated => invalid s!"Step group aliases are not unique: {Text.commas repeated}"
  | .groups _, .other _ => invalid "Post-build step groups were not initialized"
  | .other _, _ => invalid "Pre-build step groups were not initialized"

def isList : Value → Bool
  | .list _ => true
  | _ => false

/-- Checks a build, and answers with its groups and its setting, which is complete
from then on. A setting that was declared complete before cannot be declared so again. -/
def Build.checked (b : Build π) (d : Document) : Except Fault (List Group × Setting) := do
  if b.registry.size = 0 then invalid s!"The {b.registry.engine} engine registered no actions"
  let groups ← b.groups d
  if !(b.setting.target.any (·.aliasName ≠ "")) then
    invalidContext "No target org with a non-empty alias was selected"
  if !isList b.setting.skipActions then invalidContext "Skip actions were not initialized"
  if !isList b.setting.skipGroups then invalidContext "Skip groups were not initialized"
  let setting ← b.setting.assign (.initialized (.bool true))
  return (groups, setting)

/-! ## The tree -/

def hashable : Value → Bool
  | .list _ => false
  | .dict _ => false
  | _ => true

/-- The names in a list of anything. What can be no member of a set is a fault. -/
def names (v : Value) : Except Fault (List String) := do
  let items ← Setting.items v
  match items.find? (!hashable ·) with
  | some w => .error (.mishap .wrongKind s!"unhashable type: '{w.kindName}'")
  | none => .ok (items.filterMap Value.asString?)

def skips (s : Setting) : Except Fault Skips := do
  let groups ← names s.skipGroups
  let actions ← names s.skipActions
  return ⟨groups, actions⟩

def omissions (skips : Skips) (groups : List Group) : List Record :=
  groups.filterMap fun g =>
    if g.aliasName ∈ skips.groups then some (.debug .engine s!"Skipping group {g.aliasName}")
    else if (tasksOf skips g).isEmpty then
      some (.debug .engine s!"Group {g.aliasName} has no active steps, omitted")
    else none

end Provision.Plan
