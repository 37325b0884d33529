import Provision.Proofs.Recipe.LoadingLaws
import Provision.Proofs.Text.Utf8Laws

/-!
# Files that can be read, whatever they hold

Loading is meant to end in a recipe, or in a fault that is about the project file or the
recipe. It ends in a mishap instead when the bytes of one of the two are no UTF-8, when a reader
meets something that it does not put down to the text, and when a path cannot be looked up
(`load_strays_iff`).
-/

namespace Provision

open Journaled (Ends Strays)

-- ---------------------------------------------------------------------------
-- Legible files
-- ---------------------------------------------------------------------------

def Json.Fair (cs : List Char) : Prop :=
  ∀ e, Json.readChars cs = .error e → ∃ cause place, e = .malformed cause place

def Yaml.Fair (text : String) : Prop :=
  ∀ r, Yaml.Datum.ofText text = .error r → ∃ reason, r = .malformed reason

def Recipe.Legible (bytes : List UInt8) : Prop := Text.Holds Json.Fair bytes

def Project.Legible (bytes : List UInt8) : Prop :=
  Text.Holds (fun cs => Yaml.Fair (String.ofList cs)) bytes

variable {files : Files} {path : Files.Path} {bytes : List UInt8} {records : List Record}

namespace Files

theorem stat_of_read (h : files.read path = .ok bytes) : files.stat path = .ok (.file bytes) := by
  unfold read at h
  cases hs : files.stat path with
  | error miss =>
    rw [hs] at h
    cases h
  | ok entry =>
    rw [hs] at h
    cases entry with
    | directory => cases h
    | special => cases h
    | file content =>
      cases h
      rfl

theorem isFile_of_read (h : files.read path = .ok bytes) : files.isFile path = .ok true := by
  rw [isFile, stat_of_read h]

theorem badName?_of_read (h : files.read path = .ok bytes) : badName? path.text = none := by
  have hs := stat_of_read h
  unfold stat at hs
  cases hb : badName? path.text with
  | none => rfl
  | some bad =>
    rw [hb] at hs
    cases hs

theorem badText_isMishap (e : Text.BadBytes) : (badText e).IsMishap := ⟨_, _, rfl⟩

end Files

-- ---------------------------------------------------------------------------
-- One file
-- ---------------------------------------------------------------------------

theorem condition_not_isMishap {c : Condition} {detail : String} {problems : List String} :
    ¬ (Fault.condition c detail problems).IsMishap := nofun

theorem config_not_isMishap {text : String} {problems : List Schema.Problem} :
    ¬ (Fault.config text problems).IsMishap := nofun

theorem Recipe.Invalid.not_isMishap {f : Fault} (h : Recipe.Invalid f) : ¬ f.IsMishap := by
  obtain ⟨detail, problems, rfl⟩ := h
  exact condition_not_isMishap

theorem Project.Refused.not_isMishap {f : Fault} (h : Project.Refused f) : ¬ f.IsMishap := by
  obtain ⟨text, problems, rfl⟩ := h
  exact config_not_isMishap

namespace Json

theorem fair_of_ok {cs : List Char} {v : Value} (h : readChars cs = .ok v) : Fair cs := by
  intro e he
  rw [h] at he
  cases he

theorem fair_iff {cs : List Char} {e : ReadFault} (h : readChars cs = .error e) :
    Fair cs ↔ ∃ cause place, e = .malformed cause place := by
  constructor
  · exact fun hf => hf e h
  · intro hm e' he
    rw [h] at he
    cases he
    exact hm

end Json

namespace Yaml

theorem fair_of_ok {text : String} {d : Datum} (h : Datum.ofText text = .ok d) : Fair text := by
  intro r hr
  rw [h] at hr
  cases hr

theorem fair_iff {text : String} {r : Refusal} (h : Datum.ofText text = .error r) :
    Fair text ↔ ∃ reason, r = .malformed reason := by
  constructor
  · exact fun hf => hf r h
  · intro hm r' hr
    rw [h] at hr
    cases hr
    exact hm

end Yaml

namespace Recipe

def Illegible (files : Files) (path : Files.Path) : Prop :=
  (∃ bad, Files.badName? path.text = some bad) ∨
    ∃ bytes, files.read path = .ok bytes ∧ ¬ Legible bytes

theorem illegible_iff (h : files.read path = .ok bytes) :
    Illegible files path ↔ ¬ Legible bytes := by
  unfold Illegible
  rw [Files.badName?_of_read h, h]
  simp

theorem loadData_strays_iff :
    Strays records (loadData files path) ↔ Illegible files path := by
  refine Ends.strays_iff ?_
  unfold loadData
  refine .bind (Journaled.ends_note _) fun _ _ => ?_
  dsimp only
  split
  · next bad hn =>
    exact .throw_bind (iff_of_true (Files.BadName.fault_isMishap bad) (.inl ⟨bad, hn⟩))
  · next hn =>
    split
    · next bytes hr =>
      rw [illegible_iff hr, not_not]
      refine .pure_bind ?_
      split
      · next cs ht =>
        rw [Legible, Text.holds_iff ht]
        refine .pure_bind ?_
        split
        · next entries hj => exact .pure (Json.fair_of_ok hj)
        · next v _ hj =>
          refine .throw (iff_of_false condition_not_isMishap (not_not.2 ?_))
          exact Json.fair_of_ok hj
        · next e hj =>
          rw [Json.fair_iff hj]
          split
          · next cause spot =>
            exact .throw (iff_of_false condition_not_isMishap (not_not.2 ⟨cause, spot, rfl⟩))
          · next h =>
            refine .throw (iff_of_true ⟨_, _, rfl⟩ ?_)
            rintro ⟨cause, spot, rfl⟩
            exact h cause spot rfl
      · next e he =>
        exact .throw_bind (iff_of_true (Files.badText_isMishap e) (Text.not_holds he))
    · next miss hr =>
      refine .throw_bind (iff_of_false condition_not_isMishap ?_)
      rintro (⟨bad, hb⟩ | ⟨bytes, hb, -⟩)
      · exact hn bad hb
      · rw [hr] at hb
        cases hb

end Recipe

namespace Project

def Illegible (files : Files) (path : Files.Path) : Prop :=
  (∃ f, files.isFile path = .error f) ∨ ∃ bytes, files.read path = .ok bytes ∧ ¬ Legible bytes

theorem illegible_iff (h : files.read path = .ok bytes) :
    Illegible files path ↔ ¬ Legible bytes := by
  unfold Illegible
  rw [Files.isFile_of_read h, h]
  simp

theorem not_illegible {found : Bool} (hp : files.isFile path = .ok found)
    (hr : ∀ bytes, files.read path ≠ .ok bytes) : ¬ Illegible files path := by
  rintro (⟨f, hf⟩ | ⟨bytes, hb, -⟩)
  · rw [hp] at hf
    cases hf
  · exact hr bytes hb

theorem loadConfig_strays_iff :
    Strays records (loadConfig files path) ↔ Illegible files path := by
  refine Ends.strays_iff ?_
  unfold loadConfig
  refine .bind (P := fun found => files.isFile path = .ok found)
    (Journaled.ends_lift (fun _ h => h) fun f h => ?_) fun found hp => ?_
  · exact iff_of_true (Files.isFile_error h) (.inl ⟨f, h⟩)
  dsimp only
  split
  · next hn =>
    refine .throw_bind (iff_of_false config_not_isMishap (not_illegible hp fun bytes hr => ?_))
    rw [Files.isFile_of_read hr] at hp
    cases hp
    cases hn
  refine .bind (Journaled.ends_note _) fun _ _ => ?_
  split
  · next bytes hr =>
    rw [illegible_iff hr, not_not]
    refine .pure_bind ?_
    split
    · next text ht =>
      obtain ⟨cs, hcs, rfl⟩ := Text.readTextFile_ok ht
      rw [Legible, Text.holds_iff hcs]
      refine .pure_bind ?_
      have hdata (hf : Yaml.Fair (String.ofList cs)) (d : Yaml.Datum) :=
        (ends_readDatum path d).imp (Q := fun _ => Yaml.Fair (String.ofList cs))
          (E := fun f => f.IsMishap ↔ ¬ Yaml.Fair (String.ofList cs)) (fun _ _ => hf)
          fun f h => iff_of_false h.not_isMishap (not_not.2 hf)
      split
      · next hd => exact .pure_bind (hdata (Yaml.fair_of_ok hd) (.mapping []))
      · next d _ hd => exact .pure_bind (hdata (Yaml.fair_of_ok hd) d)
      · next r hr =>
        rw [Yaml.fair_iff hr]
        refine .throw_bind ?_
        cases r with
        | malformed reason => exact iff_of_false config_not_isMishap (not_not.2 ⟨reason, rfl⟩)
        | mishap m text => exact iff_of_true ⟨_, _, rfl⟩ nofun
    · next e he =>
      refine .throw_bind (iff_of_true (Files.badText_isMishap e) ?_)
      exact Text.not_holds (Text.readTextFile_error he)
  · next miss hr =>
    refine .throw_bind (iff_of_false config_not_isMishap (not_illegible hp fun bytes hb => ?_))
    rw [hr] at hb
    cases hb

end Project

-- ---------------------------------------------------------------------------
-- Loading as a whole
-- ---------------------------------------------------------------------------

namespace Project

/-- The project file that is given, or the one that is found. -/
def file? (files : Files) (config start : Option Files.Path) : Except Fault (Option Files.Path) :=
  match config with
  | some path => .ok (some path)
  | none => find? files start

/-- What keeps a project from being loaded and is not put down to its file: that file cannot be
looked for, or it is illegible, or the root of the project cannot be made out. -/
def Hindered (files : Files) (config start : Option Files.Path) : Prop :=
  match file? files config start with
  | .error _ => True
  | .ok (some path) => Illegible files path ∨
    ∃ c f, (loadConfig files path).outcome.1 = .ok c ∧ files.resolve path.parent = .error f
  | .ok none => ∃ root f, startingPoint files start = .ok root ∧ files.resolve root = .error f

variable {config start : Option Files.Path}

theorem ofPath_strays_iff {c : ProjectConfig} :
    Strays records (liftM (ofPath files path c) : Journaled Project) ↔
      ∃ f, files.resolve path = .error f := by
  rw [Journaled.strays_lift]
  constructor
  · rintro ⟨f, -, h⟩
    unfold ofPath at h
    cases hr : files.resolve path with
    | error g => exact ⟨g, rfl⟩
    | ok root =>
      rw [hr] at h
      cases h
  · rintro ⟨f, hr⟩
    refine ⟨f, Files.resolve_error hr, ?_⟩
    rw [ofPath, hr]
    rfl

-- What loading comes to is said of an empty journal, and the project file is loaded with one.
theorem loaded_strays_iff :
    Strays [] (do
      let c ← loadConfig files path
      ofPath files path.parent c) ↔
    Illegible files path ∨
      ∃ c f, (loadConfig files path).outcome.1 = .ok c ∧ files.resolve path.parent = .error f := by
  rw [Journaled.strays_bind, loadConfig_strays_iff]
  refine or_congr_right ⟨?_, ?_⟩
  · rintro ⟨c, later, hc, hs⟩
    obtain ⟨f, hf⟩ := ofPath_strays_iff.1 hs
    exact ⟨c, f, congrArg Prod.fst hc, hf⟩
  · rintro ⟨c, f, hc, hf⟩
    exact ⟨c, (loadConfig files path).outcome.2, Prod.ext hc rfl, ofPath_strays_iff.2 ⟨f, hf⟩⟩

theorem startingPoint_of_find? {found : Option Files.Path} (h : find? files start = .ok found) :
    ∃ root, startingPoint files start = .ok root := by
  unfold find? at h
  cases hs : startingPoint files start with
  | ok root => exact ⟨root, rfl⟩
  | error f =>
    rw [hs] at h
    cases h

theorem bare_strays_iff (h : find? files start = .ok none) :
    Strays records (do
      let root ← startingPoint files start
      Journaled.note (.debug .project s!"No {fileName} found, using {root.text} as project root")
      ofPath files root {}) ↔
    ∃ root f, startingPoint files start = .ok root ∧ files.resolve root = .error f := by
  obtain ⟨root, hs⟩ := startingPoint_of_find? h
  rw [Journaled.strays_lift_bind]
  constructor
  · rintro (⟨f, -, hf⟩ | ⟨root', hr, hstrays⟩)
    · rw [hs] at hf
      cases hf
    · obtain ⟨f, hf⟩ := ofPath_strays_iff.1 (Journaled.strays_note_bind.1 hstrays)
      exact ⟨root', f, hr, hf⟩
  · rintro ⟨root', f, hr, hf⟩
    exact .inr ⟨root', hr, Journaled.strays_note_bind.2 (ofPath_strays_iff.2 ⟨f, hf⟩)⟩

theorem resolve_strays_iff :
    Strays [] (resolve files config start) ↔ Hindered files config start := by
  unfold resolve Hindered file?
  dsimp only
  cases config with
  | some path => exact loaded_strays_iff
  | none =>
    cases hf : find? files start with
    | error f =>
      exact iff_of_true (Journaled.strays_lift_bind.2 (.inl ⟨f, find?_error hf, rfl⟩)) trivial
    | ok found =>
      cases found with
      | some path => exact loaded_strays_iff
      | none => exact bare_strays_iff hf

end Project

namespace Recipe

/-- Which recipe a reference means, once its project is loaded. -/
structure Reference.Means (w : Reference) (files : Files) (project : Project) (name : String) :
    Prop where
  resolved : (Project.resolve files w.config none).outcome.1 = .ok project
  named : w.nameIn project.config = .ok name

inductive Misplaced (files : Files) (project : Project) (name : String) : Prop
  | place {f : Fault} (h : locate files project name = .error f) (hf : f.IsMishap)
  | file {path : Files.Path} (h : locate files project name = .ok path)
    (hi : Illegible files path)

/-- What keeps a recipe from being loaded, and is put down neither to it nor to the project
file. -/
def Hindered (files : Files) (w : Reference) : Prop :=
  Project.Hindered files w.config none ∨
    ∃ project name, w.Means files project name ∧ Misplaced files project name

theorem read_strays_iff {project : Project} {name : String} :
    Strays records (read files project name) ↔ Misplaced files project name := by
  unfold read
  dsimp only
  cases hl : locate files project name with
  | error f =>
    refine Journaled.strays_throw_bind.trans ⟨fun hf => .place hl hf, ?_⟩
    rintro (⟨h, hf⟩ | ⟨h, -⟩)
    · rw [hl] at h
      cases h
      exact hf
    · rw [hl] at h
      cases h
  | ok path =>
    rw [Journaled.strays_pure_bind, Journaled.strays_bind]
    constructor
    · rintro (h | ⟨data, later, -, hs⟩)
      · exact .file hl (loadData_strays_iff.1 h)
      · exact absurd hs (ofData_ends.not_strays fun f h => h.not_isMishap)
    · rintro (⟨h, -⟩ | ⟨h, hi⟩)
      · rw [hl] at h
        cases h
      · rw [hl] at h
        cases h
        exact .inl (loadData_strays_iff.2 hi)

theorem paired_strays_iff {project : Project} {name : String} :
    Strays records (do
      let r ← read files project name
      return (project, r)) ↔ Misplaced files project name := by
  rw [Journaled.strays_bind, read_strays_iff]
  refine or_iff_left ?_
  rintro ⟨r, later, -, hs⟩
  exact Journaled.strays_pure hs

theorem named_strays_iff {w : Reference} {project : Project} :
    Strays records (do
      let name ← match w.nameIn project.config with
        | .ok name => pure name
        | .error f => throw f
      let r ← read files project name
      return (project, r)) ↔
    ∃ name, w.nameIn project.config = .ok name ∧ Misplaced files project name := by
  dsimp only
  cases hn : w.nameIn project.config with
  | error f =>
    refine iff_of_false (fun hs => ?_) ?_
    · exact (Reference.nameIn_error hn).not_isMishap (Journaled.strays_throw_bind.1 hs)
    · rintro ⟨name, h, -⟩
      cases h
  | ok name =>
    dsimp only
    rw [Journaled.strays_pure_bind, paired_strays_iff]
    refine ⟨fun h => ⟨name, rfl, h⟩, ?_⟩
    rintro ⟨name', h, hm⟩
    cases h
    exact hm

theorem load_strays_iff {w : Reference} : Strays [] (load files w) ↔ Hindered files w := by
  unfold load
  refine Journaled.strays_bind.trans (or_congr Project.resolve_strays_iff ⟨?_, ?_⟩)
  · rintro ⟨project, later, hp, hs⟩
    obtain ⟨name, hn, hm⟩ := named_strays_iff.1 hs
    exact ⟨project, name, ⟨congrArg Prod.fst hp, hn⟩, hm⟩
  · rintro ⟨project, name, hm, hp⟩
    exact ⟨project, (Project.resolve files w.config none).outcome.2, Prod.ext hm.resolved rfl,
      named_strays_iff.2 ⟨name, hm.named, hp⟩⟩

end Recipe

end Provision
