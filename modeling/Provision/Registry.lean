import Provision.Action.Name
import Provision.Fault
import Provision.Journal
import Provision.Text.Quoted
import Provision.Value

/-!
# The actions of an engine

An engine registers the actions that its recipes may call. An action goes under
its name. Registering a second action under a name puts it in the place of the
first. A name that nothing is registered under is an unknown action.

`Reply.registry` is what a registration leaves behind and `Reply.raised` why it
was refused, if it was.
-/

namespace Provision

/-- An action as it is registered: what it does, and the name it goes by. -/
structure Action where
  work : ActionName
  name : String
  deriving DecidableEq, Repr, Inhabited

namespace Action

def ofName (work : ActionName) : Action := ⟨work, work.text⟩

def label : ActionName → String
  | .createScratchOrg => "CreateScratchOrgAction"
  | .deleteScratchOrg => "DeleteScratchOrgAction"
  | .deployMetadata => "DeployMetadataAction"
  | .importDataTree => "ImportDataTreeAction"
  | .executeApex => "ExecuteApexAction"
  | .installPackage => "InstallPackageAction"
  | .createUser => "CreateUserAction"
  | .configureAdminUser => "ConfigureAdminUserAction"

def description (a : Action) : String := s!"<{label a.work} name={Text.quoted a.name}>"

end Action

structure Registry where
  engine : String
  actions : List (ActionName × Action)
  deriving Inhabited

namespace Registry

structure Reply where
  registry : Registry
  raised : Option Fault
  records : List Record

def empty (engine : String) : Registry := ⟨engine, []⟩

def put (key : ActionName) (a : Action) :
    List (ActionName × Action) → List (ActionName × Action)
  | [] => [(key, a)]
  | (k, b) :: rest => if k = key then (k, a) :: rest else (k, b) :: put key a rest

def get? (r : Registry) (name : String) : Option Action :=
  (ActionName.lookup? name).bind fun key => r.actions.lookup key

def unknownName (name : String) : Fault :=
  .mishap .wrongValue s!"'{name}' is not a known action name"

/-- Registers an action under its own name, which must be a known one. -/
def register (r : Registry) (a : Action) : Reply :=
  match ActionName.lookup? a.name with
  | none => ⟨r, some (unknownName a.name), []⟩
  | some key =>
    let overwriting :=
      if (r.actions.lookup key).isSome then
        [Record.warning .engine s!"Overwriting existing action: {key.text}"]
      else []
    ⟨{ r with actions := put key a r.actions }, none,
      overwriting ++ [.debug .engine s!"Registered action: {key.text}"]⟩

def resolve (r : Registry) (name : String) : Except Fault Action :=
  match r.get? name with
  | some a => .ok a
  | none => .error (.unknownAction name r.engine)

def names (r : Registry) : List String := r.actions.map (·.1.text)

def size (r : Registry) : Nat := r.actions.length

def contains (r : Registry) (name : Value) : Bool :=
  match name with
  | .str s => (r.get? s).isSome
  | _ => false

end Registry

end Provision
