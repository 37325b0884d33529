import Provision.Schema

/-!
# Choices of the caller

What the caller of an installation decides. A choice that is left open is made
by the recipe, by the project, or by asking.
-/

namespace Provision

/-- Levels at which the platform's command line tool keeps its own log. -/
inductive ToolLogLevel where
  | trace
  | debug
  | info
  | warn
  | error
  | fatal
  deriving DecidableEq, Repr, Inhabited

namespace ToolLogLevel

def all : List ToolLogLevel := [.trace, .debug, .info, .warn, .error, .fatal]

def text : ToolLogLevel → String
  | .trace => "trace"
  | .debug => "debug"
  | .info => "info"
  | .warn => "warn"
  | .error => "error"
  | .fatal => "fatal"

def ofText? (s : String) : Option ToolLogLevel := all.find? (·.text = s)

def usual : ToolLogLevel := .error

open Schema in
def read : Reader ToolLogLevel := fun v =>
  looked (v.asString?.getD "") fun s =>
    match ofText? s with
    | some l => .ok l
    | none => need (.oneOf (all.map text))

/-- The level that a project file names in whatever case. What is no level
counts as the usual one. -/
def ofSetting (s : Option String) : ToolLogLevel :=
  match s with
  | none => usual
  | some s => (ofText? (Text.lower s)).getD usual

end ToolLogLevel

structure Choices where
  target : Option String := none
  devHub : Option String := none
  haltOnError : Option Bool := none
  skipGroups : Option (List String) := none
  skipActions : Option (List String) := none
  skipOrgRefresh : Bool := false
  logLevel : Option ToolLogLevel := none
  customInstall : Bool := false
  assumeYes : Bool := false
  deriving DecidableEq, Repr, Inhabited

namespace Choices

open Schema

def fields (es : Entries) : Checked Choices :=
  Checked.and (.and (.and (.and (.and (.and (.and (.and (.and (.ok Choices.mk)
    (optionalField "target_org_alias" string))
    (optionalField "dev_hub_alias" string))
    (optionalField "halt_on_error" truth))
    (optionalField "skip_groups" (list string)))
    (optionalField "skip_actions" (list string)))
    (withDefault es "skip_org_refresh" "skip_org_refresh" truth false))
    (optionalField "log_level" ToolLogLevel.read))
    (withDefault es "custom_install" "custom_install" truth false))
    (withDefault es "assume_yes" "assume_yes" truth false)
where
  optionalField {α : Type} (key : String) (r : Reader α) : Checked (Option α) :=
    withDefault es key key (optional r) none

def read : Reader Choices := record "CompileOptions" fields

def ofList? (items : Option (List String)) : Value :=
  match items with
  | none => .null
  | some items => .ofStrings items

def toValue (c : Choices) : Value :=
  .dict [("target_org_alias", .ofOption c.target), ("dev_hub_alias", .ofOption c.devHub),
    ("halt_on_error", (c.haltOnError.map Value.bool).getD .null),
    ("skip_groups", ofList? c.skipGroups), ("skip_actions", ofList? c.skipActions),
    ("skip_org_refresh", .bool c.skipOrgRefresh),
    ("log_level", .ofOption (c.logLevel.map (·.text))),
    ("custom_install", .bool c.customInstall), ("assume_yes", .bool c.assumeYes)]

end Choices

structure RunChoices where
  dryRun : Bool := false
  deriving DecidableEq, Repr, Inhabited

open Schema in
def RunChoices.read : Reader RunChoices :=
  record "ExecutionOptions" fun es => RunChoices.mk <$> withDefault es "dry_run" "dry_run" truth false

def RunChoices.toValue (c : RunChoices) : Value := .dict [("dry_run", .bool c.dryRun)]

end Provision
