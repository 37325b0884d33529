import Provision.Preview
import Provision.Proofs.InstallationLaws
import Provision.Proofs.Recipe.Legible
import Provision.Validation

/-!
# What keeps a recipe from being loaded becomes a result

Reading a recipe file comes to an object or to an invalid recipe, and reading a project file to
its configuration or to a fault of that file, unless it is illegible. A validation, a preview and
an installation tell every such fault as their result, and let all others through
(`loading_contained_iff`).
-/

namespace Provision

open Journaled (Ends)
open Interview (Prompter)

variable {σ π : Type} {files : Files} {w : Recipe.Reference} {runner : Project → Runner σ}
  {choices : Choices} {run : RunChoices} {p : Option (Prompter π)} {asked : π} {s : Stage σ}
  {f : Fault}

-- ---------------------------------------------------------------------------
-- Readers
-- ---------------------------------------------------------------------------

theorem Recipe.ends_loadData_iff {path : Files.Path} :
    Ends (loadData files path) (fun _ => True) Invalid ↔ ¬ Illegible files path := by
  refine ((ends_loadData path).iff_not_strays fun f h => h.not_isMishap).trans ?_
  simp only [loadData_strays_iff, forall_const]

theorem Project.ends_loadConfig_iff {path : Files.Path} :
    Ends (loadConfig files path) (fun _ => True) Refused ↔ ¬ Illegible files path := by
  refine ((ends_loadConfig path).iff_not_strays fun f h => h.not_isMishap).trans ?_
  simp only [loadConfig_strays_iff, forall_const]

-- ---------------------------------------------------------------------------
-- Those who load recipes
-- ---------------------------------------------------------------------------

structure Told (f : Fault) (validation : Except Fault Validation) (preview : Except Fault Preview)
    (installation : Except Fault Installation) : Prop where
  invalid : ∃ errors, errors ≠ [] ∧ Validation.errors? f = some errors ∧
    validation = .ok (.invalid errors)
  refused : preview = .ok (.refused false f.text)
  unread : installation = .ok (.unread f.text)

section Unloaded

variable (hl : (Recipe.load files w).outcome.1 = .error f)
include hl

theorem load_outcome_error :
    (Recipe.load files w).outcome = (.error f, (Recipe.load files w).outcome.2) :=
  Prod.ext hl rfl

theorem Validation.run_unloaded :
    (Validation.run files w).1 =
      (errors? f).elim (.error f) fun errors => .ok (.invalid errors) := by
  unfold Validation.run
  rw [load_outcome_error hl]
  dsimp only
  cases errors? f <;> rfl

theorem Preview.run_unloaded :
    (Preview.run files w choices p asked).result = (ofFault f).1 := by
  unfold Preview.run
  rw [load_outcome_error hl]
  rfl

theorem Installation.run_unloaded_result :
    ((Installation.run files w runner choices run p asked).run s).1.1 = ofLoading f := by
  rw [Installation.run_unloaded (load_outcome_error hl)]

theorem told_of_not_isMishap (hf : ¬ f.IsMishap) :
    Told f (Validation.run files w).1 (Preview.run files w choices p asked).result
      ((Installation.run files w runner choices run p asked).run s).1.1 := by
  have hu : Unloadable f := (Recipe.ends_load w).error (load_outcome_error hl)
  rw [Validation.run_unloaded hl, Preview.run_unloaded hl, Installation.run_unloaded_result hl]
  cases hu with
  | invalid detail problems =>
    refine ⟨?_, rfl, rfl⟩
    cases problems with
    | nil => exact ⟨[detail], nofun, rfl, rfl⟩
    | cons problem rest => exact ⟨problem :: rest, nofun, rfl, rfl⟩
  | config text problems => exact ⟨⟨[text], nofun, rfl, rfl⟩, rfl, rfl⟩
  | mishap m text => exact absurd ⟨m, text, rfl⟩ hf

end Unloaded

theorem Told.not_isMishap {v : Except Fault Validation} {q : Except Fault Preview}
    {i : Except Fault Installation} (h : Told f v q i) : ¬ f.IsMishap := by
  rintro ⟨m, text, rfl⟩
  obtain ⟨errors, -, he, -⟩ := h.invalid
  cases he

/-- A recipe file is read to an object or found invalid, and a project file to its configuration
or found wrong, exactly when it is not illegible. A recipe that cannot be loaded is the result
of a validation, a preview and an installation exactly when nothing has hindered it from being
loaded. -/
theorem loading_contained_iff (files : Files) (w : Recipe.Reference) (runner : Project → Runner σ)
    (choices : Choices) (run : RunChoices) (p : Option (Prompter π)) (asked : π) (s : Stage σ) :
    (∀ path, Ends (Recipe.loadData files path) (fun _ => True) Recipe.Invalid ↔
      ¬ Recipe.Illegible files path) ∧
    (∀ path, Ends (Project.loadConfig files path) (fun _ => True) Project.Refused ↔
      ¬ Project.Illegible files path) ∧
    ((∀ f, (Recipe.load files w).outcome.1 = .error f →
      Told f (Validation.run files w).1 (Preview.run files w choices p asked).result
        ((Installation.run files w runner choices run p asked).run s).1.1) ↔
      ¬ Recipe.Hindered files w) := by
  refine ⟨fun path => Recipe.ends_loadData_iff, fun path => Project.ends_loadConfig_iff, ?_⟩
  rw [← Recipe.load_strays_iff]
  constructor
  · rintro ht ⟨f, hf, hl⟩
    exact (ht f hl).not_isMishap hf
  · intro hn f hl
    exact told_of_not_isMishap hl fun hf => hn ⟨f, hf, hl⟩

def garbled (name : String) : Files := ⟨[([name], .file [0xff])], ⟨.slash, []⟩⟩

def garbledRecipe : Files.Path := ⟨.slash, ["demo.json"]⟩

def garbledProject : Files.Path := ⟨.slash, [Project.fileName]⟩

theorem readTextChars_garbled :
    Text.readTextChars [0xff] = .error ⟨0, 0xff, 0, .badStart⟩ := by
  simp [Text.readTextChars, Text.decodeFrom, Text.sequence]

theorem read_garbledRecipe : (garbled "demo.json").read garbledRecipe = .ok [0xff] := rfl

theorem read_garbledProject : (garbled Project.fileName).read garbledProject = .ok [0xff] := rfl

theorem garbledProject_illegible : Project.Illegible (garbled Project.fileName) garbledProject :=
  (Project.illegible_iff read_garbledProject).2 (Text.not_holds readTextChars_garbled)

theorem garbled_not_contained :
    ¬ Ends (Recipe.loadData (garbled "demo.json") garbledRecipe) (fun _ => True) Recipe.Invalid ∧
    ¬ Ends (Project.loadConfig (garbled Project.fileName) garbledProject) (fun _ => True)
      Project.Refused ∧
    ∃ f : Fault, f.IsMishap ∧
      (Validation.run (garbled Project.fileName) ⟨none, some garbledProject⟩).1 = .error f ∧
      (Preview.run (garbled Project.fileName) ⟨none, some garbledProject⟩ {}
        (none : Option (Prompter Unit)) ()).result = .error f := by
  refine ⟨?_, ?_, ?_⟩
  · rw [Recipe.ends_loadData_iff, not_not]
    exact (Recipe.illegible_iff read_garbledRecipe).2 (Text.not_holds readTextChars_garbled)
  · rw [Project.ends_loadConfig_iff, not_not]
    exact garbledProject_illegible
  · have hh : Recipe.Hindered (garbled Project.fileName) ⟨none, some garbledProject⟩ :=
      .inl (.inl garbledProject_illegible)
    obtain ⟨_, ⟨m, text, rfl⟩, hl⟩ := Recipe.load_strays_iff.2 hh
    exact ⟨_, ⟨m, text, rfl⟩, Validation.run_unloaded hl, Preview.run_unloaded hl⟩

end Provision
