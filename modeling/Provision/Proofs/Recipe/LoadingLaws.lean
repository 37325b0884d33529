import Provision.Proofs.Recipe.Accepted
import Provision.Recipe.Loading

/-!
# What keeps a recipe from being loaded

The project file or the recipe is not as it should be, or something about the files is
not. No one is asked anything yet, so nothing is called off.
-/

namespace Provision

open Journaled (Ends)

inductive Unloadable : Fault → Prop
  | invalid (detail : String) (problems : List String) :
      Unloadable (.condition .invalidRecipe detail problems)
  | config (text : String) (problems : List Schema.Problem) : Unloadable (.config text problems)
  | mishap (m : Mishap) (text : String) : Unloadable (.mishap m text)

def Project.Refused (f : Fault) : Prop := ∃ text problems, f = .config text problems

variable {files : Files} {f : Fault}

theorem Recipe.Invalid.unloadable (h : Recipe.Invalid f) : Unloadable f := by
  obtain ⟨detail, problems, rfl⟩ := h
  exact .invalid detail problems

theorem Project.Refused.unloadable (h : Project.Refused f) : Unloadable f := by
  obtain ⟨text, problems, rfl⟩ := h
  exact .config text problems

theorem Fault.IsMishap.unloadable (h : f.IsMishap) : Unloadable f := by
  obtain ⟨m, text, rfl⟩ := h
  exact .mishap m text

namespace Files

theorem isFile_error {path : Path} (h : files.isFile path = .error f) : f.IsMishap := by
  unfold isFile at h
  split at h
  · cases h
  · cases h
    exact ⟨_, _, rfl⟩
  · cases h

theorem firstFile?_error {paths : List Path} (h : files.firstFile? paths = .error f) :
    f.IsMishap := by
  induction paths with
  | nil => cases h
  | cons path rest ih =>
    unfold firstFile? at h
    cases hp : files.isFile path with
    | error g =>
      rw [hp] at h
      cases h
      exact isFile_error hp
    | ok found =>
      rw [hp] at h
      cases found with
      | true => cases h
      | false => exact ih h

theorem BadName.fault_isMishap (bad : BadName) : bad.fault.IsMishap := by
  cases bad <;> exact ⟨_, _, rfl⟩

theorem resolve_error {path : Path} (h : files.resolve path = .error f) : f.IsMishap := by
  unfold resolve at h
  dsimp only at h
  split at h
  · cases h
    exact BadName.fault_isMishap _
  · cases h

end Files

namespace Project

theorem startingPoint_error {start : Option Files.Path}
    (h : startingPoint files start = .error f) : f.IsMishap := Files.resolve_error h

theorem find?_error {start : Option Files.Path} (h : find? files start = .error f) :
    f.IsMishap := by
  unfold find? at h
  cases hs : startingPoint files start with
  | error g =>
    rw [hs] at h
    cases h
    exact startingPoint_error hs
  | ok root =>
    rw [hs] at h
    exact Files.firstFile?_error h

theorem refusalFault_cases (path : Files.Path) (r : Yaml.Refusal) :
    Refused (refusalFault path r) ∨ (refusalFault path r).IsMishap := by
  cases r with
  | malformed => exact .inl ⟨_, _, rfl⟩
  | mishap => exact .inr ⟨_, _, rfl⟩

theorem ofPath_error {path : Files.Path} {config : ProjectConfig}
    (h : ofPath files path config = .error f) : f.IsMishap := by
  unfold ofPath at h
  cases hp : files.resolve path with
  | error g =>
    rw [hp] at h
    cases h
    exact Files.resolve_error hp
  | ok root =>
    rw [hp] at h
    cases h

theorem ends_readDatum (path : Files.Path) (data : Yaml.Datum) :
    Ends (do
      let entries ← match data with
        | .mapping entries => pure entries
        | d => throw (configFault s!"Expected a YAML mapping in {path.text}, got {d.kindName}")
      let config ← match ProjectConfig.ofDatum ((entries.lookup "project").getD data) with
        | .ok c => pure c
        | .error ps => throw (shapeFault ps)
      let shown := if config.name = "" then path.parent.name else config.name
      Journaled.note (.info .project s!"Loaded project '{shown}'")
      return config) (fun _ => True) Refused := by
  dsimp only
  split
  · refine .pure_bind ?_
    split
    · exact .pure_bind (.bind (Journaled.ends_note _) fun _ _ => .pure trivial)
    · exact .throw_bind ⟨_, _, rfl⟩
  · exact .throw_bind ⟨_, _, rfl⟩

theorem ends_loadConfig (path : Files.Path) :
    Ends (loadConfig files path) (fun _ => True) (fun f => Refused f ∨ f.IsMishap) := by
  unfold loadConfig
  refine .bind (Journaled.ends_lift (Q := fun _ => True) (fun _ _ => trivial)
    fun _ h => .inr (Files.isFile_error h)) fun found _ => ?_
  dsimp only
  split
  · exact .throw_bind (.inl ⟨_, _, rfl⟩)
  refine .bind (Journaled.ends_note _) fun _ _ => ?_
  split
  · refine .pure_bind ?_
    split
    · refine .pure_bind ?_
      split
      · exact .pure_bind ((ends_readDatum path (.mapping [])).imp_error fun _ => .inl)
      · next d _ _ => exact .pure_bind ((ends_readDatum path d).imp_error fun _ => .inl)
      · exact .throw_bind (refusalFault_cases ..)
    · exact .throw_bind (.inr ⟨_, _, rfl⟩)
  · exact .throw_bind (.inl ⟨_, _, rfl⟩)

theorem ends_resolve (config start : Option Files.Path) :
    Ends (resolve files config start) (fun _ => True) Unloadable := by
  have hloaded (path : Files.Path) : Ends (do
      let c ← loadConfig files path
      ofPath files path.parent c) (fun _ => True) Unloadable :=
    .bind ((ends_loadConfig path).imp_error fun _ h =>
      h.elim (·.unloadable) (·.unloadable)) fun _ _ =>
      Journaled.ends_lift (fun _ _ => trivial) fun _ h => (ofPath_error h).unloadable
  have hbare : Ends (do
      let root ← startingPoint files start
      Journaled.note (.debug .project s!"No {fileName} found, using {root.text} as project root")
      ofPath files root {}) (fun _ => True) Unloadable := by
    refine .bind (Journaled.ends_lift (Q := fun _ => True) (fun _ _ => trivial)
      fun _ h => (startingPoint_error h).unloadable) fun root _ => ?_
    exact .bind (Journaled.ends_note _) fun _ _ =>
      Journaled.ends_lift (fun _ _ => trivial) fun _ h => (ofPath_error h).unloadable
  unfold resolve
  dsimp only
  split
  · exact .pure_bind (hloaded _)
  · refine .bind (Journaled.ends_lift (Q := fun _ => True) (fun _ _ => trivial)
      fun _ h => (find?_error h).unloadable) fun found _ => ?_
    cases found with
    | none => exact hbare
    | some path => exact hloaded path

end Project

namespace Recipe

theorem Reference.nameIn_error {w : Reference} {config : ProjectConfig}
    (h : w.nameIn config = .error f) : Invalid f := by
  unfold nameIn at h
  split at h
  · split at h
    · cases h
      exact ⟨_, _, rfl⟩
    · cases h
  · cases h
    exact ⟨_, _, rfl⟩

theorem locate_error {project : Project} {ref : String} (h : locate files project ref = .error f) :
    Invalid f ∨ f.IsMishap := by
  unfold locate at h
  split at h
  · exact .inr (Files.resolve_error h)
  · cases h
    exact .inl ⟨_, _, rfl⟩
  · next hp =>
    cases h
    exact .inr (Files.firstFile?_error hp)

theorem ends_loadData (path : Files.Path) :
    Ends (loadData files path) (fun _ => True) (fun f => Invalid f ∨ f.IsMishap) := by
  unfold loadData
  refine .bind (Journaled.ends_note _) fun _ _ => ?_
  dsimp only
  split
  · exact .throw_bind (.inr (Files.BadName.fault_isMishap _))
  split
  · refine .pure_bind ?_
    split
    · refine .pure_bind ?_
      split
      · exact .pure trivial
      · exact .throw (.inl ⟨_, _, rfl⟩)
      · split
        · exact .throw (.inl ⟨_, _, rfl⟩)
        · exact .throw (.inr ⟨_, _, rfl⟩)
    · exact .throw_bind (.inr ⟨_, _, rfl⟩)
  · exact .throw_bind (.inl ⟨_, _, rfl⟩)

theorem ends_read (project : Project) (ref : String) :
    Ends (read files project ref) Accepted (fun f => Invalid f ∨ f.IsMishap) := by
  unfold read
  dsimp only
  split
  · refine .pure_bind (.bind (ends_loadData _) fun data _ => ?_)
    exact ofData_ends.imp (fun _ ⟨d, hd⟩ => ⟨d, _, _, _, hd⟩) fun _ => Or.inl
  · next h => exact .throw_bind (locate_error h)

theorem ends_load (w : Reference) :
    Ends (load files w) (fun found => found.2.Accepted) Unloadable := by
  unfold load
  refine .bind (Project.ends_resolve w.config none) fun project _ => ?_
  dsimp only
  split
  · refine .pure_bind (.bind ((ends_read project _).imp_error fun _ h => ?_) fun _ hr =>
      .pure hr)
    exact h.elim (·.unloadable) (·.unloadable)
  · next h => exact .throw_bind (Reference.nameIn_error h).unloadable

end Recipe

end Provision
