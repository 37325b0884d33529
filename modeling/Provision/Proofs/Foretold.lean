import Provision.Preview
import Provision.Proofs.Program.Ending
import Provision.Proofs.Recipe.Compiling
import Provision.Proofs.Recipe.LoadingLaws

/-!
# A preview shows what an installation does

A preview comes to nothing exactly when the recipe cannot be loaded or compiled. Then an
installation comes to nothing either, and says the same. From a preview that shows a plan,
an installation executes the recipe with that plan: what it attempts is a start of the
tasks that were shown (`preview_foretells`).
-/

namespace Provision

open Stage Plan Interview

variable {σ π : Type} {files : Files} {w : Recipe.Reference} {choices : Choices}
  {p : Option (Prompter π)} {asked : π} {runner : Project → Runner σ} {run : RunChoices}
  {s : Stage σ} {f : Fault}

-- ---------------------------------------------------------------------------
-- Coming to nothing
-- ---------------------------------------------------------------------------

def prepared (files : Files) (w : Recipe.Reference) (choices : Choices) (p : Option (Prompter π))
    (asked : π) : Except Fault Engine := do
  let (_, r) ← (Recipe.load files w).outcome.1
  (r.compile p choices asked).result

theorem prepared_unloaded {records : List Record}
    (hl : (Recipe.load files w).outcome = (.error f, records)) :
    prepared files w choices p asked = .error f := by
  rw [prepared, hl]
  rfl

theorem prepared_loaded {project : Project} {r : Recipe} {records : List Record}
    (hl : (Recipe.load files w).outcome = (.ok (project, r), records)) :
    prepared files w choices p asked = (r.compile p choices asked).result := by
  rw [prepared, hl]
  rfl

/-- A preview and an installation that come to nothing for this reason say the same. -/
inductive Agree (p : Option (Prompter π)) :
    Fault → Except Fault Preview → Except Fault Installation → Prop
  | refused {f : Fault} {i : Installation} {cancelled : Bool} (ho : i.outcome? = none)
      (he : i.error? = some f.text) (hc : i.cancelled = cancelled) :
      Agree p f (.ok (.refused cancelled f.text)) (.ok i)
  | raised (f : Fault) : Agree p f (.error f) (.error f)
  /-- An installation does not expect whoever is asked to find fault with the project file. -/
  | intruded {q : Prompter π} {text : String} {problems : List Schema.Problem} (hp : p = some q)
      (hf : q.Fails (.config text problems)) :
      Agree p (.config text problems) (.ok (.refused false text)) (.error (.config text problems))

theorem Unloadable.agree (h : Unloadable f) :
    Agree p f (Preview.ofFault f).1 (Installation.ofLoading f) := by
  cases h with
  | invalid => exact .refused rfl rfl rfl
  | config => exact .refused rfl rfl rfl
  | mishap => exact .raised _

theorem Installation.ofFault_agree (r : Recipe) (s : Stage σ)
    (hf : ∀ text problems, f = .config text problems → ∃ q, p = some q ∧ q.Fails f) :
    Agree p f (Preview.ofFault f).1 ((ofFault r f).run s).1 := by
  cases f with
  | condition c detail problems => cases c <;> exact .refused rfl rfl rfl
  | config text problems =>
    obtain ⟨q, hp, hf⟩ := hf text problems rfl
    exact .intruded hp hf
  | _ => exact .raised _

theorem Preview.ofFault_ne_planned (f : Fault) (r : Recipe) (e : Engine) :
    (ofFault f).1 ≠ .ok (.planned r e) := by
  cases f with
  | condition c detail problems => cases c <;> nofun
  | _ => nofun

-- ---------------------------------------------------------------------------
-- Compiling
-- ---------------------------------------------------------------------------

theorem Recipe.compile_error {r : Recipe} (h : (r.compile p choices asked).result = .error f) :
    f.isCondition = true ∨ Plan.Demo.Stopped p r.document choices f := by
  unfold compile at h
  dsimp only at h
  split at h
  · cases h
    exact .inl rfl
  split at h
  · cases h
    exact .inl rfl
  split at h
  · cases h
  · next hf =>
    cases h
    exact Plan.Demo.compile_error hf

theorem Recipe.compile_config {r : Recipe} {text : String} {problems : List Schema.Problem}
    (h : (r.compile p choices asked).result = .error (.config text problems)) :
    ∃ q, p = some q ∧ q.Fails (.config text problems) := by
  obtain ⟨⟨⟩⟩ | hs := Recipe.compile_error h
  cases hs with
  | failed hp hf => exact ⟨_, hp, hf⟩

-- ---------------------------------------------------------------------------
-- Executing what was planned
-- ---------------------------------------------------------------------------

structure Followed (files : Files) (runner : Runner σ) (run : RunChoices) (s : Stage σ)
    (r : Recipe) (e : Engine) (tree : Tree) (answer : Except Fault Installation) (s' : Stage σ)
    (as : List Attempt) : Prop where
  compiled : r.engine = some e
  shown : e.tree = some tree
  recipe : ∀ i, answer = .ok i → i.recipe? = some r
  attempted : ∃ st t, e.Ready tree st t r.document ∧ Attempts runner (e.terms st t files run) s as s'
  order : as.map (·.task) <+: tree.tasks
  whole : (∀ t ∈ tree.tasks, ∃ a, e.registry.resolve t.action = .ok a) →
    (∀ a ∈ as, ∀ o, a.outcome = some o → o.status ≠ .error) →
    as.map (·.task) = tree.tasks ∨
      -- The listener broke the run off.
      (∀ i, answer = .ok i → i.outcome? = none) ∧
        ∃ f event, s.objection event = some f ∧ Announced (Tree.names tree) as event

theorem Installation.execute_followed {r : Recipe} {e : Engine} {tree : Tree} {st : Setting}
    {t : Recipe.Target} (h : r.Ready e tree st t) (runner : Runner σ) (files : Files)
    (run : RunChoices) {s₀ s : Stage σ} (hq : Quiet s₀ s) :
    ∃ as, Followed files runner run s₀ r e tree ((execute r runner files run).run s).1
      ((execute r runner files run).run s).2 as := by
  obtain ⟨hafter, hanswer⟩ := execute_after r runner files run s
  rw [Recipe.execute_run h.compiled h.engine] at hafter hanswer
  obtain ⟨as, htrace⟩ := Engine.execute_trace h.ready runner files run s
  refine ⟨as, h.engine, h.ready.tree, fun i hi => (hanswer i hi).1, ⟨st, t, h.ready, ?_⟩,
    htrace.start.isPrefix, fun hknown hgood => ?_⟩
  · exact (htrace.thread.quiet_left hq).quiet_right hafter
  · obtain hall | ⟨f, event, hresult, hobj, hann⟩ := htrace.whole hknown hgood
    · exact .inl hall
    · refine .inr ⟨fun i hi => (hanswer i hi).2 f ?_, f, event, hq.objection ▸ hobj, hann⟩
      rw [hresult]
      rfl

-- ---------------------------------------------------------------------------
-- Previews
-- ---------------------------------------------------------------------------

/-- What a preview has to do with an installation that finds whoever is asked in the same state. -/
structure Foretold (files : Files) (w : Recipe.Reference) (runner : Project → Runner σ)
    (choices : Choices) (run : RunChoices) (p : Option (Prompter π)) (asked : π) (s : Stage σ)
    (preview : Preview.Report π) (installed : (Except Fault Installation × π) × Stage σ) :
    Prop where
  answers : installed.1.2 = preview.asked
  unplanned_iff : (∀ r e, preview.result ≠ .ok (.planned r e)) ↔
    ∃ f, prepared files w choices p asked = .error f
  agree : ∀ f, prepared files w choices p asked = .error f →
    Agree p f preview.result installed.1.1 ∧ Quiet s installed.2
  followed : ∀ r e, preview.result = .ok (.planned r e) →
    ∃ project tree as,
      Followed files (runner project) run s r e tree installed.1.1 installed.2 as

theorem Foretold.of_error {installed : (Except Fault Installation × π) × Stage σ} {asked' : π}
    {records : List Record} (h : prepared files w choices p asked = .error f)
    (ha : installed.1.2 = asked') (hagree : Agree p f (Preview.ofFault f).1 installed.1.1)
    (hq : Quiet s installed.2) :
    Foretold files w runner choices run p asked s (Preview.faulty f asked' records) installed where
  answers := ha
  unplanned_iff := ⟨fun _ => ⟨f, h⟩, fun _ r e => Preview.ofFault_ne_planned f r e⟩
  agree f' h' := by
    cases h.symm.trans h'
    exact ⟨hagree, hq⟩
  followed r e hplanned := absurd hplanned (Preview.ofFault_ne_planned f r e)

/-- Whatever the files, the choices and the answers, a preview shows what an installation does. -/
theorem preview_foretells (files : Files) (w : Recipe.Reference) (runner : Project → Runner σ)
    (choices : Choices) (run : RunChoices) (p : Option (Prompter π)) (asked : π) (s : Stage σ)
    (ha : ∀ project, run.dryRun = true ∨ (runner project).available = true) :
    Foretold files w runner choices run p asked s (Preview.run files w choices p asked)
      ((Installation.run files w runner choices run p asked).run s) := by
  unfold Preview.run
  cases hl : (Recipe.load files w).outcome with
  | mk loaded records =>
    cases loaded with
    | error f =>
      rw [Installation.run_unloaded hl]
      refine .of_error (prepared_unloaded hl) rfl ?_ (Installation.quiet_noted s records)
      exact ((Recipe.ends_load w).error hl).agree
    | ok found =>
      obtain ⟨project, r⟩ := found
      have hprepared := @prepared_loaded _ _ _ choices p asked _ _ _ hl
      have hquiet := Installation.quiet_noted s (records ++ (r.compile p choices asked).records)
      cases hc : (r.compile p choices asked).result with
      | error f =>
        rw [Installation.run_uncompiled hl (ha project) hc]
        dsimp only
        rw [hc]
        refine .of_error (hprepared.trans hc) rfl ?_ ?_
        · refine Installation.ofFault_agree _ _ ?_
          rintro text problems rfl
          exact Recipe.compile_config hc
        · exact hquiet.trans (Installation.ofFault_keeps lasting_quiet _ _ _)
      | ok e =>
        rw [Installation.run_started hl (ha project) hc]
        dsimp only
        rw [hc]
        obtain ⟨tree, st, t, hready⟩ := Recipe.compile_ready hc
        have hgo : ∀ f, prepared files w choices p asked ≠ .error f := by
          rw [hprepared, hc]
          nofun
        refine ⟨rfl, ?_, fun f hf => absurd hf (hgo f), ?_⟩
        · exact ⟨fun hno => absurd rfl (hno _ e), fun ⟨f, hf⟩ => absurd hf (hgo f)⟩
        · rintro _ _ ⟨⟩
          exact ⟨project, tree, Installation.execute_followed hready _ files run hquiet⟩

def bareReference : Recipe.Reference := ⟨some "bare.json", none⟩

def barePreview : Preview.Report Console :=
  Preview.run bareFiles bareReference bareChoices (Program.prompter? bareStart false)
    bareStart.console

def bareInstalled : (Except Fault Installation × Console) × Stage (List ShellEvent) :=
  (Installation.run bareFiles bareReference (fun _ => absentOrg.toRunner) bareChoices {}
    (Program.prompter? bareStart false) bareStart.console).run (.opened [] .zero)

theorem bare_foretold :
    (∃ r e, barePreview.result = .ok (.planned r e)) ∧ absentOrg.toRunner.available = true ∧
      Foretold bareFiles bareReference (fun _ => absentOrg.toRunner) bareChoices {}
        (Program.prompter? bareStart false) bareStart.console (.opened [] .zero) barePreview
        bareInstalled := by
  refine ⟨?_, rfl, preview_foretells _ _ _ _ _ _ _ _ fun _ => .inr rfl⟩
  obtain ⟨project, r, records, e, h, -⟩ := bare_started
  have hl : (Recipe.load bareFiles bareReference).outcome = (.ok (project, r), records) := h.loaded
  have hc : (r.compile (Program.prompter? bareStart false) bareChoices bareStart.console).result =
      .ok e := h.result
  refine ⟨(bareCompiled r).recipe, e, ?_⟩
  rw [barePreview, Preview.run, hl]
  dsimp only
  rw [hc]
  rfl

end Provision
