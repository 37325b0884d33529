import Provision.Fault
import Provision.Plan.Choices
import Provision.Project
import Provision.Recipe.Document
import Provision.Text.Points

/-!
# The setting of a plan

While a recipe is compiled, an engine fills in the setting in which the plan will
run. An engine of any make may fill in whatever it likes, so most fields hold
values without a fixed shape and are checked later. Once the setting is declared
complete nothing in it can be changed any more, save for the mark that a run is
going on.
-/

namespace Provision

structure Setting where
  project : Project
  choices : Choices
  isExecuting : Value := .bool false
  haltOnError : Value := .bool true
  devHub : Value := .null
  target : Option Recipe.Target := none
  skipGroups : Value := .null
  skipActions : Value := .null
  logLevel : ToolLogLevel := .usual
  initialized : Value := .bool false
  deriving Inhabited

inductive Assignment where
  | isExecuting (v : Value)
  | haltOnError (v : Value)
  | devHub (v : Value)
  | target (t : Option Recipe.Target)
  | skipGroups (v : Value)
  | skipActions (v : Value)
  | logLevel (l : ToolLogLevel)
  | initialized (v : Value)
  /-- A field that settings do not have. Nobody looks at it. -/
  | other (name : String)

def Assignment.field : Assignment → String
  | .isExecuting _ => "is_executing"
  | .haltOnError _ => "halt_on_error"
  | .devHub _ => "dev_hub_alias"
  | .target _ => "target_org"
  | .skipGroups _ => "skip_groups"
  | .skipActions _ => "skip_actions"
  | .logLevel _ => "log_level"
  | .initialized _ => "initialized"
  | .other name => name

namespace Setting

def write (s : Setting) : Assignment → Setting
  | .isExecuting v => { s with isExecuting := v }
  | .haltOnError v => { s with haltOnError := v }
  | .devHub v => { s with devHub := v }
  | .target t => { s with target := t }
  | .skipGroups v => { s with skipGroups := v }
  | .skipActions v => { s with skipActions := v }
  | .logLevel l => { s with logLevel := l }
  | .initialized v => { s with initialized := v }
  | .other _ => s

def frozen (s : Setting) : Bool := s.initialized.truthy

def isRunMark : Assignment → Bool
  | .isExecuting _ => true
  | _ => false

def readOnly (a : Assignment) : Fault :=
  .of .invalidEngineContext
    s!"Engine context is initialized and read-only (tried to set '{a.field}')"

def assign (s : Setting) (a : Assignment) : Except Fault Setting :=
  if s.frozen && !isRunMark a then .error (readOnly a) else .ok (s.write a)

/-- The items that a loop over a value meets. What does not count as given has
none. -/
def items (v : Value) : Except Fault (List Value) :=
  if !v.truthy then .ok []
  else match v with
  | .list items => .ok items
  | .dict entries => .ok (entries.map fun e => .str e.1)
  | .str s => .ok ((Text.split s).map Value.str)
  | v => .error (.mishap .wrongKind s!"'{v.kindName}' object is not iterable")

def toValue (s : Setting) : Except Fault Value := do
  let groups ← items s.skipGroups
  let actions ← items s.skipActions
  return .dict [("project_path", .str s.project.path.text), ("halt_on_error", s.haltOnError),
    ("dev_hub_alias", s.devHub), ("target_org", .ofOption (s.target.map (·.aliasName))),
    ("skip_groups", .list groups), ("skip_actions", .list actions),
    ("log_level", .str s.logLevel.text), ("initialized", s.initialized)]

end Setting

end Provision
