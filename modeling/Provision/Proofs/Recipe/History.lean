import Provision.Proofs.Plan.History
import Provision.Proofs.Plan.HookCourse
import Provision.Proofs.Recipe.Execution

/-!
# Recipes with a history

A recipe may be compiled and executed over and over. Compiling that fails leaves it as it
was, and so does executing (`Use.on_attached`). So at any time it holds the engine of the
most recent compile that succeeded, or none if there was no such, and that is what an
execution goes by (`compiling_is_atomic`).
-/

namespace Provision

open Plan (Engine Tree Trace)
open Interview (Prompter)

variable {π σ : Type} {p : Option (Prompter π)} {choices : Choices} {asked : π}

theorem Plan.Demo.hooks_rested {src : Engine.Source} {b : Plan.Build π}
    (h : (Plan.runHooks (make p) src.document Plan.Phase.all).run.run
      (Engine.slate (make p).type src choices asked) = (.ok (), b)) :
    b.setting.isExecuting = .bool false := by
  obtain ⟨question, hq⟩ := selectTarget_inquires p src.document choices
  rw [hooks_run p src choices asked hq] at h
  split at h
  · cases h
  · split at h
    · cases h
    · split at h
      · cases h
      · cases h
        rfl

namespace Recipe

variable {r : Recipe} {e : Engine}

-- ---------------------------------------------------------------------------
-- Compiling
-- ---------------------------------------------------------------------------

/-- The engine that compiles a recipe, from scratch every time. -/
def compiling (r : Recipe) (p : Option (Prompter π)) (choices : Choices) (asked : π) :
    Engine.Report π :=
  (Engine.fresh demoType Plan.Demo.label).compile (Plan.Demo.make p) r.toSource choices asked

/-- Compiling that fails leaves a recipe as it was. Otherwise the recipe has a new engine. -/
theorem compile_cases (r : Recipe) (p : Option (Prompter π)) (choices : Choices) (asked : π) :
    (∃ f, (r.compile p choices asked).result = .error f ∧
        (r.compile p choices asked).recipe = r) ∨
      (r.compiling p choices asked).result = .ok () ∧
        (r.compile p choices asked).result = .ok (r.compiling p choices asked).engine ∧
        (r.compile p choices asked).recipe =
          { r with engine := some (r.compiling p choices asked).engine, compiled := true } := by
  unfold compile
  dsimp only
  split
  · exact .inl ⟨_, rfl, rfl⟩
  · split
    · exact .inl ⟨_, rfl, rfl⟩
    · split
      · next hr => exact .inr ⟨hr, rfl, rfl⟩
      · exact .inl ⟨_, rfl, rfl⟩

theorem compile_of_error {f : Fault} (h : (r.compile p choices asked).result = .error f) :
    (r.compile p choices asked).recipe = r := by
  obtain ⟨-, -, hr⟩ | ⟨-, hok, -⟩ := r.compile_cases p choices asked
  · exact hr
  · cases h.symm.trans hok

theorem compile_of_ok (h : (r.compile p choices asked).result = .ok e) :
    e = (r.compiling p choices asked).engine ∧ ∃ b groups sk,
      Engine.Compiled (Plan.Demo.make p) (Engine.fresh demoType Plan.Demo.label) r.toSource choices
        asked b groups sk := by
  obtain ⟨f, hf, -⟩ | ⟨hr, hok, -⟩ := r.compile_cases p choices asked
  · cases h.symm.trans hf
  · exact ⟨Except.ok.inj (h.symm.trans hok), Engine.compile_ok hr⟩

-- ---------------------------------------------------------------------------
-- What a recipe holds
-- ---------------------------------------------------------------------------

/-- A recipe holds this engine, which is ready and at rest, or no engine at all. -/
inductive Attached (r : Recipe) : Option Engine → Prop
  | none (hc : r.compiled = false) (he : r.engine = none) : Attached r none
  | some {e : Engine} {tree : Tree} {st : Setting} {t : Target} (h : r.Ready e tree st t)
      (hrest : st.isExecuting = .bool false) : Attached r (some e)

theorem compile_attached (h : (r.compile p choices asked).result = .ok e) :
    Attached (r.compile p choices asked).recipe (some e) := by
  obtain ⟨tree, st, t, hready⟩ := compile_ready h
  obtain ⟨rfl, b, groups, sk, hc⟩ := compile_of_ok h
  refine .some hready ?_
  have hst := hready.ready.setting
  rw [compiling, hc.engine] at hst
  cases hst
  exact Plan.Demo.hooks_rested hc.hooks

theorem Attached.executed {e? : Option Engine} (h : Attached r e?) (runner : Runner σ)
    (files : Files) (choices : RunChoices) (s : Stage σ) :
    r.executed runner files choices s = r := by
  cases h with
  | none hc he => simp [Recipe.executed, hc]
  | @some e tree st t h hrest =>
    have hsame : e.rested st = e := by
      have hst : ({ st with isExecuting := .bool false } : Setting) = st := by rw [← hrest]
      rw [Engine.rested, hst, ← h.ready.setting]
    simp only [Recipe.executed, h.compiled, h.engine, Engine.execute_engine h.ready, hsame]
    rw [← h.engine, ← h.compiled]

-- ---------------------------------------------------------------------------
-- Histories
-- ---------------------------------------------------------------------------

inductive Use : Type 1 where
  | compile {π : Type} (p : Option (Prompter π)) (choices : Choices) (asked : π)
  | execute {σ : Type} (runner : Runner σ) (files : Files) (choices : RunChoices) (s : Stage σ)

def Use.on (r : Recipe) : Use → Recipe
  | .compile p choices asked => (r.compile p choices asked).recipe
  | .execute runner files choices s => r.executed runner files choices s

def Use.engine? (r : Recipe) : Use → Option Engine
  | .compile p choices asked => (r.compile p choices asked).result.toOption
  | .execute .. => none

def through (r : Recipe) : List Use → Recipe
  | [] => r
  | u :: rest => (u.on r).through rest

/-- The engine of the most recent compile that succeeded. -/
def latest? (r : Recipe) : List Use → Option Engine
  | [] => none
  | u :: rest => ((u.on r).latest? rest).or (u.engine? r)

theorem Use.on_attached {e? : Option Engine} (h : Attached r e?) (u : Use) :
    Attached (u.on r) ((u.engine? r).or e?) := by
  cases u with
  | compile p choices asked =>
    cases hr : (r.compile p choices asked).result with
    | error f => simpa [Use.on, Use.engine?, hr, Except.toOption, compile_of_error hr] using h
    | ok e => simpa [Use.on, Use.engine?, hr, Except.toOption] using compile_attached hr
  | execute runner files choices s =>
    simpa [Use.on, Use.engine?, h.executed runner files choices s] using h

theorem through_attached {e? : Option Engine} (h : Attached r e?) (uses : List Use) :
    Attached (r.through uses) ((r.latest? uses).or e?) := by
  induction uses generalizing r e? with
  | nil => simpa [through, latest?] using h
  | cons u rest ih => simpa [through, latest?, Option.or_assoc] using ih (u.on_attached h)

/-- A recipe that has not been compiled yet holds what was compiled last. -/
theorem attached_latest (hc : r.compiled = false) (he : r.engine = none) (uses : List Use) :
    Attached (r.through uses) (r.latest? uses) := by
  simpa using through_attached (.none hc he) uses

-- ---------------------------------------------------------------------------
-- Executing
-- ---------------------------------------------------------------------------

/-- An execution that runs the tree of this engine. What it attempts is taken from there, and its
answer is what the run of that tree has come to. -/
structure Runs (r : Recipe) (e : Engine) (runner : Runner σ) (files : Files) (choices : RunChoices)
    (s : Stage σ) : Prop where
  engine : r.engine = some e
  ran : ∃ tree st t s' result as, e.Ready tree st t r.document ∧
    Trace runner (e.terms st t files choices) tree s s' result as ∧
    (r.execute runner files choices).run s = (concluded (r.begun s.now) s'.now result, s')

theorem Ready.runs {tree : Tree} {st : Setting} {t : Target} (h : r.Ready e tree st t)
    (runner : Runner σ) (files : Files) (choices : RunChoices) (s : Stage σ) :
    r.Runs e runner files choices s := by
  obtain ⟨as, htrace⟩ := Engine.execute_trace h.ready runner files choices s
  exact ⟨h.engine, tree, st, t, _, _, as, h.ready, htrace,
    execute_run h.compiled h.engine files choices s⟩

theorem execute_of_uncompiled (hc : r.compiled = false) (runner : Runner σ) (files : Files)
    (choices : RunChoices) (s : Stage σ) :
    (r.execute runner files choices).run s = (.error (.fault r.uncompiled), s) := by
  unfold execute
  rw [hc]
  rfl

def IsNotCompiled (f : Fault) : Prop :=
  ∃ detail problems, f = .condition .recipeNotCompiled detail problems

theorem concluded_fault {o : Outcome} (ho : o.finalized = false) {now : Moment}
    {result : Except Raised Outcome} {f : Fault} (h : concluded o now result = .error (.fault f)) :
    result = .error (.fault f) := by
  have hconclude (engine : Outcome) : conclude o engine now ≠ .error (.fault f) := by
    obtain ⟨reply, hreply, heq⟩ := conclude_eq ho engine now
    rw [heq, hreply.raised]
    split <;> simp
  cases result with
  | ok engine => exact absurd h (hconclude engine)
  | error raised =>
    cases raised with
    | bubbled engine => exact absurd h (hconclude engine)
    | fault f' => exact h

/-- Where a tree is run, only a listener could say that nothing has been compiled. -/
theorem Runs.not_refused {runner : Runner σ} {files : Files} {choices : RunChoices} {s : Stage σ}
    (h : r.Runs e runner files choices s)
    (hs : ∀ event f, s.objection event = some f → ¬IsNotCompiled f) {f : Fault}
    (hf : IsNotCompiled f) : ((r.execute runner files choices).run s).1 ≠ .error (.fault f) := by
  obtain ⟨tree, st, t, s', result, as, -, htrace, hrun⟩ := h.ran
  rw [hrun]
  intro hresult
  obtain ⟨event, hobj, -⟩ :=
    htrace.brokenOff f (concluded_fault (begun_gathered r s.now).opened hresult)
  exact hs event f hobj hf

/-- Whatever has been done with a recipe since it was read: compiling it leaves it as it is when
that fails, executing it leaves it as it is in any case. An execution runs the tree that was
compiled last, or, where none was, refuses and does nothing. -/
theorem compiling_is_atomic (hc : r.compiled = false) (he : r.engine = none) (uses : List Use) :
    (∀ (π : Type) (p : Option (Prompter π)) (choices : Choices) (asked : π) (f : Fault),
      ((r.through uses).compile p choices asked).result = .error f →
        ((r.through uses).compile p choices asked).recipe = r.through uses) ∧
    ∀ (σ : Type) (runner : Runner σ) (files : Files) (choices : RunChoices) (s : Stage σ),
      (r.through uses).executed runner files choices s = r.through uses ∧
      (∀ e, r.latest? uses = some e → (r.through uses).Runs e runner files choices s) ∧
      (r.latest? uses = none → ((r.through uses).execute runner files choices).run s =
        (.error (.fault (r.through uses).uncompiled), s)) ∧
      ((∀ event f, s.objection event = some f → ¬IsNotCompiled f) →
        ((∃ f, IsNotCompiled f ∧
          (((r.through uses).execute runner files choices).run s).1 = .error (.fault f)) ↔
            r.latest? uses = none)) := by
  refine ⟨fun π p choices asked f hf => compile_of_error hf, fun σ runner files choices s => ?_⟩
  have hattached := attached_latest hc he uses
  refine ⟨hattached.executed runner files choices s, ?_⟩
  cases hl : r.latest? uses with
  | none =>
    rw [hl] at hattached
    cases hattached with
    | none hc' he' =>
      have hrefused := execute_of_uncompiled hc' runner files choices s
      refine ⟨(fun e he => nomatch he), fun _ => hrefused, fun _ => ⟨fun _ => rfl, fun _ => ?_⟩⟩
      exact ⟨_, ⟨_, _, rfl⟩, congrArg Prod.fst hrefused⟩
  | some e =>
    rw [hl] at hattached
    cases hattached with
    | some hready hrest =>
      have hruns := hready.runs runner files choices s
      refine ⟨?_, (fun hnone => nomatch hnone), fun hs => ⟨?_, fun hnone => nomatch hnone⟩⟩
      · rintro _ ⟨⟩
        exact hruns
      · rintro ⟨f, hf, hresult⟩
        exact absurd hresult (hruns.not_refused hs hf)

def trialUses : List Use :=
  [.compile none { target := some "sandbox" } (), .compile none {} (),
    .execute ({} : Rehearsal).toRunner default {} (.opened [] .zero)]

theorem trial_keeps_plan :
    ∃ r e, Plan.Demo.trial = .ok r ∧ r.compiled = false ∧ r.engine = none ∧
      r.latest? trialUses = some e ∧ (r.through trialUses).Runs e ({} : Rehearsal).toRunner default
        {} (.opened [] .zero) := by
  have h : Plan.Demo.trial.toOption.any (fun r => !r.compiled && r.engine.isNone &&
      (r.compile none { target := some "sandbox" } ()).result.toBool &&
      !((r.compile none { target := some "sandbox" } ()).recipe.compile none {} ()).result.toBool) =
        true := by
    decide +kernel
  cases hr : Plan.Demo.trial with
  | error f => simp [hr, Except.toOption] at h
  | ok r =>
    simp only [hr, Except.toOption, Option.any_some, Bool.and_eq_true, Bool.not_eq_true',
      Option.isNone_iff_eq_none] at h
    obtain ⟨⟨⟨hc, he⟩, hfirst⟩, hsecond⟩ := h
    obtain ⟨e, hok⟩ : ∃ e, (r.compile none { target := some "sandbox" } ()).result = .ok e := by
      cases hres : (r.compile none { target := some "sandbox" } ()).result with
      | error f => simp [hres, Except.toBool] at hfirst
      | ok e => exact ⟨e, rfl⟩
    have hlatest : r.latest? trialUses = some e := by
      cases hres : ((r.compile none { target := some "sandbox" } ()).recipe.compile none {}
          ()).result with
      | ok e => simp [hres, Except.toBool] at hsecond
      | error f => simp [trialUses, latest?, Use.engine?, Use.on, hok, hres, Except.toOption]
    obtain ⟨-, hexecute⟩ := compiling_is_atomic hc he trialUses
    exact ⟨r, e, rfl, hc, he, hlatest, (hexecute _ _ _ _ _).2.1 e hlatest⟩

end Recipe

end Provision
