import Provision.Recipe.Document

/-!
# Task trees

What is left of the groups of a recipe when the groups and the actions to be
skipped are taken away. A group that keeps no step is taken away with them.
-/

namespace Provision.Plan

open Recipe (Group Step)

structure Task where
  name : String
  description : String
  action : String
  options : Entries
  deriving Inhabited

structure TaskGroup where
  name : String
  aliasName : String
  description : String
  tasks : List Task
  deriving Inhabited

abbrev Tree := List TaskGroup

structure Skips where
  groups : List String
  actions : List String
  deriving DecidableEq, Repr

def Task.ofStep (s : Step) : Task := ⟨s.name, s.description, s.action, s.options⟩

def tasksOf (skips : Skips) (g : Group) : List Task :=
  (g.steps.filter fun s => s.action ∉ skips.actions).map .ofStep

def TaskGroup.ofGroup? (skips : Skips) (g : Group) : Option TaskGroup :=
  if g.aliasName ∈ skips.groups then none
  else match tasksOf skips g with
  | [] => none
  | tasks => some ⟨g.name, g.aliasName, g.description, tasks⟩

def Tree.ofGroups (skips : Skips) (groups : List Group) : Tree :=
  groups.filterMap (TaskGroup.ofGroup? skips)

namespace Tree

def tasks (t : Tree) : List Task := t.flatMap (·.tasks)

def taskCount (t : Tree) : Nat := t.tasks.length

end Tree

def Task.toValue (t : Task) : Value :=
  .dict [("name", .str t.name), ("description", .str t.description), ("action", .str t.action),
    ("options", .dict t.options)]

def TaskGroup.toValue (g : TaskGroup) : Value :=
  .dict [("name", .str g.name), ("alias", .str g.aliasName), ("description", .str g.description),
    ("steps", .list (g.tasks.map (·.toValue)))]

def Tree.toValue (t : Tree) : Value := .list (t.map (·.toValue))

end Provision.Plan
