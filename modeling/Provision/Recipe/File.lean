import Provision.Files
import Provision.Journal.Writing
import Provision.Json.Fault
import Provision.Project

/-!
# Recipe files

A recipe is named by a path, or by its place among the recipes of the project. A
recipe file holds one JSON object.
-/

namespace Provision.Recipe

open Journaled (note)
open Files (Path)

def candidates (project : Project) (ref : String) : List Path :=
  [.ofText ref, project.configPath.append ref]

def locate (files : Files) (project : Project) (ref : String) : Except Fault Path :=
  match files.firstFile? (candidates project ref) with
  | .ok (some path) => files.resolve path
  | .ok none => .error (.invalidRecipe
      s!"Recipe file '{ref}' not found (also looked in {project.configPath.text})" [])
  | .error f => .error f

def loadData (files : Files) (path : Path) : Journaled Entries := do
  note (.debug .project s!"Reading recipe from {path.text}")
  if let some bad := Files.badName? path.text then throw bad.fault
  let bytes ← match files.read path with
    | .ok bytes => pure bytes
    | .error e => throw (.invalidRecipe s!"Cannot read {path.text}: {e.message path}" [])
  let cs ← match Text.readTextChars bytes with
    | .ok cs => pure cs
    | .error e => throw (Files.badText e)
  match Json.readChars cs with
  | .ok (.dict entries) => return entries
  | .ok v =>
    throw (.invalidRecipe s!"Expected a JSON object in {path.text}, got {v.kindName}" [])
  | .error e =>
    match e with
    | .malformed .. =>
      throw (.invalidRecipe s!"Invalid JSON in {path.text}: {e.message (String.ofList cs)}" [])
    | _ => throw (e.fault (String.ofList cs))

end Provision.Recipe
