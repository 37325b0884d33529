import Provision.Program.Run
import Provision.Proofs.InstallationLaws
import Provision.Proofs.Json.Ascii
import Provision.Proofs.Recipe.Execution

/-!
# How an installation ends

An installation that executed its recipe is in order exactly when every task was
attempted and ended well (`execute_answer`). So is the end of the program, as far as
the terminal takes what there is to say (`install_accounts`): data it always takes,
but a page with half of a surrogate pair in it makes an error of any result.
-/

namespace Provision

open Stage Outcome Plan Interview

variable {σ π : Type} {runner : Runner σ} {r : Recipe} {e : Engine} {tree : Tree} {st : Setting}
  {t : Recipe.Target}

-- ---------------------------------------------------------------------------
-- Installations
-- ---------------------------------------------------------------------------

/-- What the listener raises is none of the conditions that an installation answers for. -/
def Stage.Foreign (s : Stage σ) : Prop :=
  ∀ e c detail problems, s.objection e ≠ some (.condition c detail problems)

namespace Installation

inductive Answer (r : Recipe) (result : Except Raised Outcome) : Except Fault Installation → Prop
  | ran {o : Outcome} {error : Option String} (h : Recipe.Carries result o)
      (hok : (ran r o error).ok = o.status.ok) : Answer r result (.ok (.ran r o error))
  | brokenOff {f : Fault} (h : result = .error (.fault f)) : Answer r result (.error f)

variable {files : Files} {choices : RunChoices} {terms : Terms} {s s' : Stage σ}
  {as : List Attempt}

theorem execute_answer (hs : s.Foreign)
    (h : Recipe.Reported runner terms tree s s' as ((r.execute runner files choices).run s).1) :
    ((execute r runner files choices).run s).2 = ((r.execute runner files choices).run s).2 ∧
      Answer r ((r.execute runner files choices).run s).1
        ((execute r runner files choices).run s).1 := by
  unfold execute
  rw [Play.run_bind]
  generalize (r.execute runner files choices).run s = executed at h
  obtain ⟨result, s''⟩ := executed
  cases result with
  | ok o => exact ⟨rfl, .ran (.inl rfl) rfl⟩
  | error raised =>
    cases raised with
    | bubbled o =>
      have hbad : o.status.ok = false := by
        rw [h.raised o rfl]
        rfl
      exact ⟨rfl, .ran (.inr rfl) hbad.symm⟩
    | fault f =>
      obtain ⟨event, hobj, -⟩ := h.brokenOff f rfl
      cases f with
      | condition c detail problems => exact absurd hobj (hs _ _ _ _)
      | _ => exact ⟨rfl, .brokenOff rfl⟩

theorem Answer.ok_iff {result : Except Raised Outcome} {i : Installation}
    (h : Answer r result (.ok i)) (hr : Recipe.Reported runner terms tree s s' as result) :
    i.ok = true ↔ AllWell tree as := by
  cases h with
  | ran hc hok => rw [hok, hr.ok_iff _ hc]

theorem entries_ok (h : r.Ready e tree st t) {result : Except Raised Outcome} {i : Installation}
    (hi : Answer r result (.ok i)) (epoch : Int) (now : Moment) :
    ∃ entries, i.entries epoch now = .ok entries := by
  obtain ⟨v, hv⟩ := h.legible
  cases hi
  have hentries : recipeEntries r = .ok [("recipe", .str r.document.name), ("context", v)] := by
    simp only [recipeEntries, h.engine, h.ready.setting, Option.bind_some, hv]
    rfl
  simp only [entries, recipe?, hentries]
  exact ⟨_, rfl⟩

end Installation

-- ---------------------------------------------------------------------------
-- What is shown
-- ---------------------------------------------------------------------------

namespace Program

def Legible (texts : List String) : Prop := ∀ text ∈ texts, Text.hasSurrogate text = false

theorem Ending.ofFault_code (f : Fault) : (Ending.ofFault f).code = 1 := by
  cases f <;> rfl

theorem Finish.showing_code_iff {ok : Bool} {page : List String} :
    (Finish.showing ok page).ending.code = 0 ↔ ok = true ∧ Legible page := by
  have hlegible : (Terminal.objection.taken page).2 = none ↔ Legible page := by
    rw [Objection.refused_eq_none_iff]
    exact forall₂_congr fun _ _ => Terminal.objection_eq_none_iff
  rw [← hlegible]
  unfold Finish.showing Terminal.written
  obtain ⟨taken, refused⟩ := Terminal.objection.taken page
  cases refused with
  | some f => simp [Ending.ofFault_code]
  | none => cases ok <;> simp [Ending.code]

theorem Finish.of_code_iff {color asData ok : Bool} {entries : Entries} {page : List String} :
    (Finish.of color asData ok (.ok entries) page).ending.code = 0 ↔
      ok = true ∧ (asData = true ∨ Legible page) := by
  cases asData with
  | false => simp [Finish.of, showing_code_iff]
  | true =>
    have hdata : Legible [Terminal.plainLine color (Json.write .lines (.dict entries))] := by
      simp [Legible, Terminal.plainLine_write_hasSurrogate]
    simp [Finish.of, showing_code_iff, hdata]

-- ---------------------------------------------------------------------------
-- The program
-- ---------------------------------------------------------------------------

variable {s : Start} {m : Manner} {asData : Bool}

def heard (s : Start) (m : Manner) (asData : Bool) (stage : Stage σ) : Stage σ :=
  { stage with objection := fun e => Terminal.objection (eventText s m asData e) }

theorem heard_foreign (stage : Stage σ) (records : List Record) :
    (Installation.noted (heard s m asData stage) records).Foreign := by
  intro event c detail problems hobj
  simp [Installation.noted, heard, Terminal.objection] at hobj

theorem heard_data (stage : Stage σ) (records : List Record) (event : Event) :
    (Installation.noted (heard s m true stage) records).objection event = none := by
  have hempty : eventText s m true event = "" := rfl
  show Terminal.objection (eventText s m true event) = none
  rw [hempty]
  rfl

def endingOf (s : Start) (asData dryRun : Bool) (now : Moment) : Except Fault Installation → Ending
  | .ok i => (Finish.of s.color asData i.ok (i.entries s.epoch now)
      (Page.installation s.color now dryRun i)).ending
  | .error f => .ofFault f

theorem install_run {runner : Project → Runner σ} {w : Recipe.Reference} {choices : Choices}
    {run : RunChoices} {stage s' : Stage σ} {answer : Except Fault Installation}
    {console : Console}
    (h : (Installation.run s.files w runner choices run (prompter? s asData) s.console).run
      (heard s m asData stage) = ((answer, console), s')) :
    ((install s m runner w choices run asData).run stage).2 = s' ∧
      ((install s m runner w choices run asData).run stage).1.ending =
        endingOf s asData run.dryRun s'.now answer := by
  have hm : (modify fun stage : Stage σ =>
      { stage with objection := fun e => Terminal.objection (eventText s m asData e) } :
        Play σ Unit).run stage = ((), heard s m asData stage) := rfl
  unfold install
  dsimp only
  rw [Play.run_bind, Play.run_bind, hm, h]
  cases answer <;> exact ⟨rfl, rfl⟩

/-- The terminal takes what there is to show. There is nothing to show of a run that was broken
off. -/
def Presentable (s : Start) (dryRun : Bool) : Except Fault Installation × Stage σ → Prop
  | (.ok i, stage) => Legible (Page.installation s.color stage.now dryRun i)
  | (.error _, _) => False

structure Started (s : Start) (w : Recipe.Reference) (runner : Project → Runner σ)
    (choices : Choices) (run : RunChoices) (asData : Bool) (project : Project) (r : Recipe)
    (records : List Record) (c : Recipe.Compiled Console) (e : Engine) : Prop where
  loaded : (Recipe.load s.files w).outcome = (.ok (project, r), records)
  available : run.dryRun = true ∨ (runner project).available = true
  compiled : r.compile (prompter? s asData) choices s.console = c
  result : c.result = .ok e

/-- How a run of the program accounts for what was attempted. The execution of the recipe began
at the stage `s₁`. -/
structure Accounts (s : Start) (m : Manner) (runner : Project → Runner σ) (w : Recipe.Reference)
    (choices : Choices) (run : RunChoices) (asData : Bool) (project : Project)
    (c : Recipe.Compiled Console) (terms : Terms) (tree : Tree) (stage s₁ : Stage σ)
    (as : List Attempt) : Prop where
  reported : Recipe.Reported (runner project) terms tree s₁
    ((install s m runner w choices run asData).run stage).2 as
    ((c.recipe.execute (runner project) s.files run).run s₁).1
  code_iff : ((install s m runner w choices run asData).run stage).1.ending.code = 0 ↔
    AllWell tree as ∧ (asData = true ∨ Presentable s run.dryRun
      ((Installation.execute c.recipe (runner project) s.files run).run s₁))

/-- The program ends well exactly when every task was attempted and ended well, and the terminal
takes what there is to show of it. Data it always takes. -/
theorem install_accounts {runner : Project → Runner σ} (hp : ∀ project, (runner project).Plain)
    {w : Recipe.Reference} {choices : Choices} {run : RunChoices} {project : Project}
    {records : List Record} {c : Recipe.Compiled Console}
    (h : Started s w runner choices run asData project r records c e) (m : Manner)
    (stage : Stage σ) :
    ∃ tree st t as, e.Ready tree st t c.recipe.document ∧
      Accounts s m runner w choices run asData project c (e.terms st t s.files run) tree stage
        (Installation.noted (heard s m asData stage) (records ++ c.records)) as := by
  obtain ⟨hload, hav, rfl, hres⟩ := h
  obtain ⟨tree, st, t, hready⟩ := Recipe.compile_ready hres
  have hrun := Installation.run_started hload hav hres (heard s m asData stage)
  have hforeign := @heard_foreign _ s m asData stage
    (records ++ (r.compile (prompter? s asData) choices s.console).records)
  have hdata := @heard_data _ s m stage
    (records ++ (r.compile (prompter? s asData) choices s.console).records)
  generalize hs₁ : Installation.noted (heard s m asData stage) _ = s₁ at hrun hforeign ⊢
  obtain ⟨as, hrep⟩ := Recipe.execute_reported (hp project) hready s.files run s₁
  obtain ⟨hstage, hanswer⟩ := Installation.execute_answer hforeign hrep
  obtain ⟨hend, hending⟩ := install_run hrun
  refine ⟨tree, st, t, as, hready.ready, ?_, ?_⟩
  · rw [hend, hstage]
    exact hrep
  · rw [hending]
    generalize (Installation.execute _ (runner project) s.files run).run s₁ = executed at hanswer
    obtain ⟨answer, s₂⟩ := executed
    cases answer with
    | ok i =>
      obtain ⟨entries, hentries⟩ := Installation.entries_ok hready hanswer s.epoch s₂.now
      rw [endingOf, hentries, Finish.of_code_iff, hanswer.ok_iff hrep]
      rfl
    | error f =>
      have hcode : (endingOf s asData run.dryRun s₂.now (.error f)).code = 1 :=
        Ending.ofFault_code f
      simp only [hcode, Presentable, or_false]
      refine iff_of_false (by decide) ?_
      rintro ⟨-, rfl⟩
      -- Without a listener there is no one to break the run off.
      cases hanswer with
      | brokenOff hf =>
        obtain ⟨event, hobj, -⟩ := hrep.brokenOff f hf
        rw [← hs₁, hdata event] at hobj
        cases hobj

end Program

/-- No failed step is reported as a success. The outcomes of a run are truthful, and an
installation is in order exactly when every task was attempted and ended well. The program then
ends well too, unless the terminal refuses what there is to show. -/
theorem no_failure_hidden :
    (∀ r : Rehearsal, (∀ f ∈ r.faults, ∃ fault, f.2 = .fault fault) → r.toRunner.Plain) ∧
    (∀ t : Tool, (∀ line f, t.launch line = .refused f → ∃ fault, f = .fault fault) →
      t.toRunner.Plain) ∧
    (∀ (runner : Runner σ) (r : Recipe) (p : Option (Prompter π)) (choices : Choices) (asked : π)
      (c : Recipe.Compiled π) (e : Engine) (files : Files) (run : RunChoices) (s : Stage σ),
      runner.Plain → r.compile p choices asked = c → c.result = .ok e →
      ∃ tree st t as, e.Ready tree st t c.recipe.document ∧
        Recipe.Reported runner (e.terms st t files run) tree s
          ((c.recipe.execute runner files run).run s).2 as
          ((c.recipe.execute runner files run).run s).1 ∧
        (s.Foreign → ∀ i, ((Installation.execute c.recipe runner files run).run s).1 = .ok i →
          (i.ok = true ↔ AllWell tree as))) ∧
    ∀ (s : Program.Start) (m : Program.Manner) (runner : Project → Runner σ) (w : Recipe.Reference)
      (choices : Choices) (run : RunChoices) (asData : Bool) (project : Project) (r : Recipe)
      (records : List Record) (c : Recipe.Compiled Console) (e : Engine) (stage : Stage σ),
      (∀ project, (runner project).Plain) →
      Program.Started s w runner choices run asData project r records c e →
      ∃ tree st t as, e.Ready tree st t c.recipe.document ∧
        Program.Accounts s m runner w choices run asData project c (e.terms st t s.files run) tree
          stage (Installation.noted (Program.heard s m asData stage) (records ++ c.records)) as := by
  refine ⟨Rehearsal.toRunner_plain, Tool.toRunner_plain, ?_,
    fun s m runner w choices run asData project r records c e stage hp h =>
      Program.install_accounts hp h m stage⟩
  rintro runner r p choices asked _ e files run s hp rfl hres
  obtain ⟨tree, st, t, hready⟩ := Recipe.compile_ready hres
  obtain ⟨as, hrep⟩ := Recipe.execute_reported hp hready files run s
  refine ⟨tree, st, t, as, hready.ready, hrep, fun hs i hi => ?_⟩
  have hanswer := (Installation.execute_answer hs hrep).2
  rw [hi] at hanswer
  exact hanswer.ok_iff hrep

-- ---------------------------------------------------------------------------
-- A success that cannot be shown
-- ---------------------------------------------------------------------------

def bareRecipe : List String := [
  "\x7b\"recipeName\": \"Bare\",", "\"description\": \"\",", "\"recipeType\":",
  "\"appx:demo-recipe\",", "\"recipeVersion\": \"\",", "\"schemaVersion\": \"\",",
  "\"options\": \x7b", "\"haltOnError\": true,", "\"skipGroups\": [],", "\"skipActions\": [],",
  "\"targetOrgs\": [\x7b", "\"orgName\": \"o\",", "\"alias\": \"bare\",",
  "\"description\": \"d\",", "\"isScratchOrg\": true,", "\"scratchDefJson\": \"j\"", "\x7d]\x7d,",
  "\"recipeStepGroups\": [],", "\"handlers\": []\x7d"]

def bareFiles : Files where
  entries := [(["bare.json"], .file (bareRecipe.flatMap fun line => line.toUTF8.data.toList))]
  cwd := ⟨.slash, []⟩

def bareStart : Program.Start where
  files := bareFiles
  env := []
  interactive := false
  console := { color := true, echo := false, lines := [] }
  epoch := 0
  times := ⟨"", ""⟩

def absentOrg : Tool where
  launch _ := .ended
    "\x7b\"status\": 1, \"message\": \"NoOrgFound \\ud800\"\x7d".toUTF8.data.toList [] 1 0.0

def bareChoices : Choices :=
  { assumeYes := true, devHub := some "Hub", skipActions := some ["create-scratch-org"] }

def bareLoad : Except Fault (Project × Recipe) × List Record :=
  (Recipe.load bareFiles ⟨some "bare.json", none⟩).outcome

def bareCompiled (r : Recipe) : Recipe.Compiled Console :=
  r.compile (Program.prompter? bareStart false) bareChoices bareStart.console

/-- The stage on which the recipe is executed, for someone who wants no announcements. -/
def bareStage (r : Recipe) (records : List Record) : Stage (List ShellEvent) :=
  Installation.noted (Program.heard bareStart { quiet := true } false (.opened [] .zero))
    (records ++ (bareCompiled r).records)

def bareEnded (r : Recipe) (records : List Record) : Bool :=
  match (Installation.execute (bareCompiled r).recipe absentOrg.toRunner bareStart.files {}).run
      (bareStage r records) with
  | (.ok i, stage) =>
    i.ok && ((Program.Page.installation true stage.now false i).drop 14).any Text.hasSurrogate
  | (.error _, _) => false

abbrev BareStarted (project : Project) (r : Recipe) (records : List Record) (e : Engine) : Prop :=
  Program.Started bareStart ⟨some "bare.json", none⟩ (fun _ => absentOrg.toRunner) bareChoices {}
    false project r records (bareCompiled r) e

theorem bare_checked : (match bareLoad with
    | (.ok (_, r), records) => (bareCompiled r).result.toBool && bareEnded r records
    | (.error _, _) => false) = true := by
  decide +kernel

theorem bare_started : ∃ project r records e, BareStarted project r records e ∧
    bareEnded r records = true := by
  have h := bare_checked
  cases hl : bareLoad with
  | mk loaded records =>
    rw [hl] at h
    cases loaded with
    | error f => cases h
    | ok found =>
      obtain ⟨project, r⟩ := found
      obtain ⟨hc, hended⟩ := Bool.and_eq_true_iff.1 h
      cases hr : (bareCompiled r).result with
      | error f => simp [hr, Except.toBool] at hc
      | ok e => exact ⟨project, r, records, e, ⟨hl, .inr rfl, rfl, hr⟩, hended⟩

theorem bare_accounted : ∃ project r records e, BareStarted project r records e ∧
    Runner.Plain (Rehearsal.toRunner {}) ∧
    (∃ tree st t as, e.Ready tree st t (bareCompiled r).recipe.document ∧
      Recipe.Reported absentOrg.toRunner (e.terms st t bareFiles {}) tree (.opened [] .zero)
        (((bareCompiled r).recipe.execute absentOrg.toRunner bareFiles {}).run
          (.opened [] .zero)).2 as
        (((bareCompiled r).recipe.execute absentOrg.toRunner bareFiles {}).run
          (.opened [] .zero)).1 ∧
      ∀ i, ((Installation.execute (bareCompiled r).recipe absentOrg.toRunner bareFiles {}).run
        (.opened [] .zero)).1 = .ok i → (i.ok = true ↔ AllWell tree as)) ∧
    ∃ tree st t as, e.Ready tree st t (bareCompiled r).recipe.document ∧
      Program.Accounts bareStart { quiet := true } (fun _ => absentOrg.toRunner)
        ⟨some "bare.json", none⟩ bareChoices {} false project (bareCompiled r)
        (e.terms st t bareFiles {}) tree (.opened [] .zero) (bareStage r records) as := by
  obtain ⟨rehearsals, tools, recipes, program⟩ := @no_failure_hidden (List ShellEvent) Console
  obtain ⟨project, r, records, e, h, -⟩ := bare_started
  have hp : absentOrg.toRunner.Plain := tools absentOrg (by simp [absentOrg])
  have hs : (Stage.opened [] .zero : Stage (List ShellEvent)).Foreign := by
    rintro _ _ _ _ ⟨⟩
  obtain ⟨tree, st, t, as, hready, hrep, hinstalled⟩ :=
    recipes _ r _ _ _ _ e bareFiles {} (.opened [] .zero) hp h.compiled h.result
  refine ⟨project, r, records, e, h, rehearsals {} (by simp),
    ⟨tree, st, t, as, hready, hrep, hinstalled hs⟩, ?_⟩
  exact program _ { quiet := true } _ _ _ _ _ _ _ _ _ _ (.opened [] .zero) (fun _ => hp) h

/-- A run in which every task ended well and the program does not. -/
theorem bare_success_hidden : ∃ project r records e tree st t as,
    BareStarted project r records e ∧ e.Ready tree st t (bareCompiled r).recipe.document ∧
    Recipe.Reported absentOrg.toRunner (e.terms st t bareFiles {}) tree (bareStage r records)
      ((Program.install bareStart { quiet := true } (fun _ => absentOrg.toRunner)
        ⟨some "bare.json", none⟩ bareChoices {} false).run (.opened [] .zero)).2 as
      (((bareCompiled r).recipe.execute absentOrg.toRunner bareFiles {}).run
        (bareStage r records)).1 ∧
    AllWell tree as ∧
    ((Program.install bareStart { quiet := true } (fun _ => absentOrg.toRunner)
      ⟨some "bare.json", none⟩ bareChoices {} false).run (.opened [] .zero)).1.ending.code ≠ 0 := by
  obtain ⟨project, r, records, e, h, hended⟩ := bare_started
  have hp : absentOrg.toRunner.Plain := Tool.toRunner_plain absentOrg (by simp [absentOrg])
  obtain ⟨tree, st, t, as, hready, hrep, hcode⟩ :=
    Program.install_accounts (fun _ => hp) h { quiet := true } (.opened [] .zero)
  refine ⟨project, r, records, e, tree, st, t, as, h, hready, hrep, ?_⟩
  have hanswer := (Installation.execute_answer (Program.heard_foreign _ _) hrep).2
  unfold bareEnded bareStage at hended
  generalize (Installation.execute (bareCompiled r).recipe absentOrg.toRunner bareStart.files _).run
    _ = ended at hended hanswer hcode
  obtain ⟨answer, stage⟩ := ended
  cases answer with
  | error f => cases hended
  | ok i =>
    obtain ⟨hok, hany⟩ := Bool.and_eq_true_iff.1 hended
    refine ⟨(hanswer.ok_iff hrep).1 hok, fun hzero => ?_⟩
    obtain ⟨-, ⟨⟨⟩⟩ | hshown⟩ := hcode.1 hzero
    obtain ⟨text, ht, hsurrogate⟩ := List.any_eq_true.1 hany
    rw [hshown text (List.mem_of_mem_drop ht)] at hsurrogate
    cases hsurrogate

end Provision
