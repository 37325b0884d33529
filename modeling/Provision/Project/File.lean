import Provision.Files
import Provision.Journal.Writing
import Provision.Project.Config

/-!
# Finding and loading a project

The project file lies in the root of its project. It is looked for upwards from
where one stands, and not in more than twenty directories. Without one, the
starting point itself is the project.
-/

namespace Provision.Project

open Journaled (note)
open Files (Path)
open Yaml (Datum Refusal)

def fileName : String := "sandboxctl.yml"

def searchLimit : Nat := 20

def ancestors : Nat → List String → List (List String)
  | 0, _ => []
  | fuel + 1, names => names :: if names = [] then [] else ancestors fuel names.dropLast

def candidates (start : Path) : List Path :=
  (ancestors searchLimit start.names).map fun names => ⟨.slash, names ++ [fileName]⟩

def startingPoint (files : Files) (start : Option Path) : Except Fault Path :=
  files.resolve (start.getD files.cwd)

def find? (files : Files) (start : Option Path) : Except Fault (Option Path) := do
  files.firstFile? (candidates (← startingPoint files start))

def configFault (text : String) : Fault := .config text []

def problemLines (p : Schema.Problem) : List String :=
  (if p.path = [] then [] else [p.place]) ++ [s!"  {p.need.text} [type={p.need.kind}]"]

def shapeFault (problems : List Schema.Problem) : Fault :=
  let noun := if problems.length = 1 then "error" else "errors"
  .config (s!"Invalid project configuration: {problems.length} validation {noun} for " ++
    s!"ProjectConfig\n{Text.lines (problems.flatMap problemLines)}") problems

def refusalFault (path : Path) : Refusal → Fault
  | .malformed reason => configFault s!"Invalid YAML in {path.text}: {reason}"
  | .mishap m text => .mishap m text

def loadConfig (files : Files) (path : Path) : Journaled ProjectConfig := do
  if !(← files.isFile path) then throw (configFault s!"Config file not found: {path.text}")
  note (.debug .project s!"Loading project config from {path.text}")
  let bytes ← match files.read path with
    | .ok bytes => pure bytes
    | .error e => throw (configFault s!"Cannot read {path.text}: {e.message path}")
  let text ← match Text.readTextFile bytes with
    | .ok text => pure text
    | .error e => throw (Files.badText e)
  let data ← match Datum.ofText text with
    | .ok .null => pure (.mapping [])
    | .ok d => pure d
    | .error r => throw (refusalFault path r)
  let entries ← match data with
    | .mapping entries => pure entries
    | d => throw (configFault s!"Expected a YAML mapping in {path.text}, got {d.kindName}")
  let config ← match ProjectConfig.ofDatum ((entries.lookup "project").getD data) with
    | .ok c => pure c
    | .error ps => throw (shapeFault ps)
  let shown := if config.name = "" then path.parent.name else config.name
  note (.info .project s!"Loaded project '{shown}'")
  return config

def ofPath (files : Files) (path : Path) (config : ProjectConfig) : Except Fault Project := do
  return ⟨← files.resolve path, config⟩

/-- The project for a run: that of the given project file, else of the one that is
found, else the starting point. -/
def resolve (files : Files) (config start : Option Path) : Journaled Project := do
  let found ← match config with
    | some path => pure (some path)
    | none => find? files start
  match found with
  | some path =>
    let c ← loadConfig files path
    ofPath files path.parent c
  | none =>
    let root ← startingPoint files start
    note (.debug .project s!"No {fileName} found, using {root.text} as project root")
    ofPath files root {}

end Provision.Project
