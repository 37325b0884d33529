import Provision.Schema.Problem
import Provision.Text.Joined

/-!
# Faults

What can go wrong, by cause. The conditions are those that provisioning itself
defines: each has a code that never changes and stands in front of its message.
The other faults come from reading configuration, from data of the wrong shape,
or from the world outside.

Expected outcomes of a step, such as a command that failed, are no faults. They
are outcomes.
-/

namespace Provision

inductive Condition where
  | general
  | invalidRecipe
  | recipeNotValidated
  | recipeNotCompiled
  | invalidEngine
  | invalidEngineContext
  | invalidActionContext
  | unknownAction
  | missingOption
  | installationCancelled
  | missingTargetOrg
  | executorUnavailable
  | resultFinalized
  | resultBubbled
  deriving DecidableEq, Repr

namespace Condition

def all : List Condition :=
  [.general, .invalidRecipe, .recipeNotValidated, .recipeNotCompiled, .invalidEngine,
    .invalidEngineContext, .invalidActionContext, .unknownAction, .missingOption,
    .installationCancelled, .missingTargetOrg, .executorUnavailable, .resultFinalized,
    .resultBubbled]

def code : Condition → String
  | .general => "ERROR_RECIPE_ENGINE"
  | .invalidRecipe => "ERROR_INVALID_RECIPE"
  | .recipeNotValidated => "ERROR_RECIPE_NOT_VALIDATED"
  | .recipeNotCompiled => "ERROR_RECIPE_NOT_COMPILED"
  | .invalidEngine => "ERROR_INVALID_ENGINE"
  | .invalidEngineContext => "ERROR_INVALID_ENGINE_CONTEXT"
  | .invalidActionContext => "ERROR_INVALID_ACTION_CONTEXT"
  | .unknownAction => "ERROR_UNKNOWN_ACTION"
  | .missingOption => "ERROR_MISSING_OPTION"
  | .installationCancelled => "INSTALLATION_CANCELLED"
  | .missingTargetOrg => "ERROR_MISSING_TARGET_ORG"
  | .executorUnavailable => "ERROR_EXECUTOR_UNAVAILABLE"
  | .resultFinalized => "ERROR_RESULT_FINALIZED"
  | .resultBubbled => "ERROR_RESULT_BUBBLED"

def name : Condition → String
  | .general => "RecipeEngineError"
  | .invalidRecipe => "InvalidRecipe"
  | .recipeNotValidated => "RecipeNotValidated"
  | .recipeNotCompiled => "RecipeNotCompiled"
  | .invalidEngine => "InvalidEngine"
  | .invalidEngineContext => "InvalidEngineContext"
  | .invalidActionContext => "InvalidActionContext"
  | .unknownAction => "UnknownAction"
  | .missingOption => "MissingOption"
  | .installationCancelled => "InstallationCancelled"
  | .missingTargetOrg => "MissingTargetOrg"
  | .executorUnavailable => "ExecutorUnavailable"
  | .resultFinalized => "ResultAlreadyFinalized"
  | .resultBubbled => "ResultBubbled"

end Condition

/-- Mishaps that provisioning does not define but meets. -/
inductive Mishap where
  | wrongKind
  | wrongValue
  | noSuchKey
  | noSuchPlace
  | nothingLeft
  | noSuchField
  | notText
  | notWritable
  | notJson
  | noSuchFile
  | system
  | other (name : String)
  deriving DecidableEq, Repr

def Mishap.name : Mishap → String
  | .wrongKind => "TypeError"
  | .wrongValue => "ValueError"
  | .noSuchKey => "KeyError"
  | .noSuchPlace => "IndexError"
  | .nothingLeft => "LookupError"
  | .noSuchField => "AttributeError"
  | .notText => "UnicodeDecodeError"
  | .notWritable => "UnicodeEncodeError"
  | .notJson => "JSONDecodeError"
  | .noSuchFile => "FileNotFoundError"
  | .system => "OSError"
  | .other name => name

inductive Fault where
  /-- A condition with its detail. Only an invalid recipe lists problems. -/
  | condition (c : Condition) (detail : String) (problems : List String)
  /-- The project file is missing, unreadable or of the wrong shape. -/
  | config (text : String) (problems : List Schema.Problem)
  /-- Data of the wrong shape. -/
  | shape (problems : List Schema.Problem)
  | mishap (m : Mishap) (text : String)
  /-- The user ended the dialogue. -/
  | abort
  deriving DecidableEq, Repr

namespace Fault

def name : Fault → String
  | .condition c _ _ => c.name
  | .config _ _ => "ConfigError"
  | .shape _ => "ValidationError"
  | .mishap m _ => m.name
  | .abort => "Abort"

/-- The message of a fault. A condition's code comes first, and stands alone
when there is no detail. -/
def text : Fault → String
  | .condition c detail _ => if detail = "" then c.code else s!"{c.code}: {detail}"
  | .config text _ => text
  | .shape problems => Text.lines (problems.map (·.text))
  | .mishap _ text => text
  | .abort => ""

def of (c : Condition) (detail : String) : Fault := .condition c detail []

def bulletLine (problem : String) : String := s!"  - {problem}"

/-- A recipe that is not valid. Its problems are listed below the message. -/
def invalidRecipe (message : String) (problems : List String) : Fault :=
  let bullets := Text.lines (problems.map bulletLine)
  .condition .invalidRecipe
    (if problems.isEmpty then message
      else if message = "" then bullets
      else s!"{message}\n{bullets}")
    problems

def unknownAction (action engine : String) : Fault :=
  of .unknownAction s!"Action '{action}' is not supported by the {engine} engine"

def missingOption (key : String) : Fault := of .missingOption s!"'{key}'"

def isCondition : Fault → Bool
  | .condition .. => true
  | _ => false

end Fault

end Provision
