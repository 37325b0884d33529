import Provision.Files.Naming
import Provision.Plan.Choices
import Provision.Program.Arguments

/-!
# What the program is asked to do

A command line says first how to go about things and then, behind the word for
recipes, what to do with one. Asking for the version or for help goes before
everything else that is said in the same place.

The options are declared here and read as the library for command lines documents
it: of an option that is not repeatable the last use counts, a path is looked at
before a command runs, options of a group stand in front of the command's name, and
a text that is asked for is given at once. The text of help is not the library's own.
-/

namespace Provision.Program

inductive Flag where
  | verbose
  | quiet
  | debug
  | config
  | version
  | help
  | target
  | devHub
  | skipGroup
  | skipAction
  | halt
  | noHalt
  | logLevel
  | skipOrgRefresh
  | custom
  | yes
  | dryRun
  | json
  deriving DecidableEq, Repr

/-- Something to do, or a text that was asked for instead. -/
inductive Wish (α : Type) where
  | act (a : α)
  | text (s : String)

def programName : String := "sandboxctl"

def versionText : String := s!"{programName}, version 0.4.0"

def usageText : String :=
  s!"Usage: {programName} [OPTIONS] recipe (validate|plan|install) [OPTIONS] [RECIPE_REF]"

def asked? (a : Arguments Flag) : Option String :=
  match a.first? [.version, .help] with
  | some .version => some versionText
  | some _ => some usageText
  | none => none

def helpSpelling : Spelling Flag := { key := .help, names := ["--help"] }

/-- Why a command line is not acted upon: it is misused, or a value in it cannot
even be looked at. -/
inductive Denial where
  | misuse (m : Misuse)
  | fault (f : Fault)
  deriving DecidableEq, Repr

/-! ## How to go about it -/

structure Manner where
  verbose : Bool := false
  quiet : Bool := false
  debug : Bool := false
  config : Option Files.Path := none
  deriving Repr

def mannerTable : List (Spelling Flag) := [
  { key := .verbose, names := ["--verbose", "-v"] },
  { key := .quiet, names := ["--quiet", "-q"] },
  { key := .debug, names := ["--debug"] },
  { key := .config, names := ["--config", "-c"], wantsValue := true },
  { key := .version, names := ["--version"] },
  helpSpelling]

def misused {α : Type} : Except Misuse α → Except Denial α := Except.mapError .misuse

/-- Options in front of the word for a command. The project file among them must have
a name that files can have. -/
def readOptions (table : List (Spelling Flag)) (words : List String) :
    Except Denial (Wish (Arguments Flag)) := do
  let a ← misused (Arguments.read table false words)
  match asked? a, (a.value? .config).bind Files.badName? with
  | some text, _ => return .text text
  | none, some bad => throw (.fault bad.fault)
  | none, none => return .act a

/-- Options and then the word for a command, which must be among these. A word that
is none of them may still ask for a text. -/
def readCommand (table : List (Spelling Flag)) (commands : List String) (words : List String) :
    Except Denial (Wish (Arguments Flag × String × List String)) := do
  if words = [] then throw (.misuse .missingCommand)
  match ← readOptions table words with
  | .text text => return .text text
  | .act a =>
    match a.words with
    | [] => throw (.misuse .missingCommand)
    | name :: rest =>
      if name ∈ commands then return .act (a, name, rest)
      match ← readOptions table a.words with
      | .text text => return .text text
      | .act _ => throw (.misuse (.noSuchCommand name))

def configPath (value : Option String) : Option Files.Path :=
  match value with
  | none => none
  | some s => if s = "" then none else some (.ofText s)

def Manner.read (words : List String) : Except Denial (Wish (Manner × List String)) := do
  match ← readCommand mannerTable ["recipe"] words with
  | .text s => return .text s
  | .act (a, _, rest) =>
    return .act ({ verbose := a.given .verbose, quiet := a.given .quiet, debug := a.given .debug,
                   config := configPath (a.value? .config) }, rest)

/-! ## What to do -/

inductive Job where
  | validate
  | plan (choices : Choices)
  | install (choices : Choices) (run : RunChoices)

structure Errand where
  recipe : Option String
  job : Job
  /-- Whether the result is wanted as data. -/
  asData : Bool

def dataTable : List (Spelling Flag) := [
  { key := .json, names := ["--json-output", "--json"] },
  helpSpelling]

def choiceTable : List (Spelling Flag) := [
  { key := .target, names := ["--target-org", "-t"], wantsValue := true },
  { key := .devHub, names := ["--devhub", "-d"], wantsValue := true },
  { key := .skipGroup, names := ["--skip-group"], wantsValue := true },
  { key := .skipAction, names := ["--skip-action"], wantsValue := true },
  { key := .halt, names := ["--halt-on-error"] },
  { key := .noHalt, names := ["--no-halt-on-error"] },
  { key := .logLevel, names := ["--log-level"], wantsValue := true },
  { key := .skipOrgRefresh, names := ["--skip-org-refresh"] },
  { key := .custom, names := ["--custom"] },
  { key := .yes, names := ["--yes", "-y"] }]

def dryRunSpelling : Spelling Flag := { key := .dryRun, names := ["--dry-run"] }

def logLevelOf : Option String → Except Misuse (Option ToolLogLevel)
  | none => .ok none
  | some s =>
    match ToolLogLevel.ofText? s with
    | some l => .ok (some l)
    | none => .error (.noChoice "--log-level" s)

def openIfEmpty (items : List String) : Option (List String) :=
  if items = [] then none else some items

def choicesOf (a : Arguments Flag) : Except Misuse Choices := do
  return {
    target := a.value? .target
    devHub := a.value? .devHub
    haltOnError := (a.last? [.halt, .noHalt]).map (· = .halt)
    skipGroups := openIfEmpty (a.values .skipGroup)
    skipActions := openIfEmpty (a.values .skipAction)
    skipOrgRefresh := a.given .skipOrgRefresh
    logLevel := ← logLevelOf (a.value? .logLevel)
    customInstall := a.given .custom
    assumeYes := a.given .yes }

def jobTable : String → List (Spelling Flag)
  | "plan" => choiceTable ++ dataTable
  | "install" => dryRunSpelling :: (choiceTable ++ dataTable)
  | _ => dataTable

def jobOf (name : String) (a : Arguments Flag) : Except Misuse Job := do
  match name with
  | "plan" => return .plan (← choicesOf a)
  | "install" => return .install (← choicesOf a) ⟨a.given .dryRun⟩
  | _ => return .validate

def onlyWord : List String → Except Misuse (Option String)
  | [] => .ok none
  | [word] => .ok (some word)
  | _ :: more => .error (.excess more)

def Errand.read (words : List String) : Except Denial (Wish Errand) := do
  match ← readCommand [helpSpelling] ["validate", "plan", "install"] words with
  | .text s => return .text s
  | .act (_, name, rest) =>
    let a ← misused (Arguments.read (jobTable name) true rest)
    match asked? a with
    | some text => return .text text
    | none =>
      let job ← misused (jobOf name a)
      let recipe ← misused (onlyWord a.words)
      return .act ⟨recipe, job, a.given .json⟩

end Provision.Program
