import Provision.Proofs.Plan.Execution
import Provision.Proofs.Recipe.Compiling

/-!
# Engines with a history

An engine may be used over and over: recipes are compiled, plans are run, fields of its
setting are assigned. Between two recipes a use changes nothing but the setting
(`Use.frame`), and once that is complete nothing but the mark that a run is going on
(`Use.marks`). So what compiling has left behind, a plan that passed the check or none at
all, is still there until the next recipe (`no_stale_plan`). Of what went before,
compiling takes no notice (`compile_regardless`).
-/

namespace Provision.Plan

open Recipe (Document Group Target)
open Engine (Source)

inductive Use : Type 1 where
  | compile {π : Type} (m : Make π) (src : Source) (choices : Choices) (asked : π)
  | execute {σ : Type} (r : Runner σ) (files : Files) (choices : RunChoices) (s : Stage σ)
  /-- Assigns a field of the setting. -/
  | assign (a : Assignment)

def Use.on (e : Engine) : Use → Engine
  | .compile m src choices asked => (e.compile m src choices asked).engine
  | .execute r files choices s => ((e.execute r files choices).run s).1.2
  | .assign a =>
    match e.setting with
    | none => e
    | some st =>
      match st.assign a with
      | .ok setting => { e with setting := some setting }
      | .error _ => e

/-- Whether it has a recipe compiled. One that was not validated is turned away. -/
def Use.recompiles : Use → Bool
  | .compile _ src _ _ => src.validated.truthy
  | _ => false

def Engine.through (e : Engine) : List Use → Engine
  | [] => e
  | u :: rest => (u.on e).through rest

variable {π σ : Type} {e e' : Engine} {m : Make π} {src : Source} {choices : Choices} {asked : π}
  {st : Setting} {u : Use} {uses : List Use}

-- ---------------------------------------------------------------------------
-- Between two recipes
-- ---------------------------------------------------------------------------

theorem Engine.execute_of_no_tree (h : e.tree = none) (r : Runner σ) (files : Files)
    (choices : RunChoices) (s : Stage σ) :
    (e.execute r files choices).run s = ((.error (.fault e.uncompiled), e), s) := by
  refine execute_unready ?_ r files choices s
  rintro ⟨groups, st, t, d, hready⟩
  cases h.symm.trans hready.tree

theorem Engine.execute_rests (e : Engine) (r : Runner σ) (files : Files) (choices : RunChoices)
    (s : Stage σ) :
    ((e.execute r files choices).run s).1.2 = e ∨
      ∃ st, e.setting = some st ∧ ((e.execute r files choices).run s).1.2 = e.rested st := by
  by_cases h : ∃ groups st t d, e.Ready groups st t d
  · obtain ⟨groups, st, t, d, hready⟩ := h
    exact .inr ⟨st, hready.setting, execute_engine hready r files choices s⟩
  · rw [execute_unready h]
    exact .inl rfl

theorem Use.frame (h : u.recompiles = false) (e : Engine) :
    ∃ setting, u.on e = { e with setting } := by
  cases u with
  | compile m src choices asked =>
    refine ⟨e.setting, ?_⟩
    simp only [on, Engine.compile_unvalidated h]
  | execute r files choices s =>
    obtain hsame | ⟨st, -, hrested⟩ := e.execute_rests r files choices s
    · exact ⟨e.setting, hsame⟩
    · exact ⟨_, hrested⟩
  | assign a =>
    simp only [on]
    split
    · exact ⟨e.setting, rfl⟩
    · split
      · exact ⟨_, rfl⟩
      · exact ⟨e.setting, rfl⟩

theorem Use.marks (h : u.recompiles = false) (hs : e.setting = some st) (hf : st.frozen = true) :
    ∃ v, u.on e = { e with setting := some { st with isExecuting := v } } := by
  have hsame : e = { e with setting := some { st with isExecuting := st.isExecuting } } := by
    rw [← hs]
  cases u with
  | compile m src choices asked =>
    refine ⟨st.isExecuting, ?_⟩
    simp only [on, Engine.compile_unvalidated h]
    exact hsame
  | execute r files choices s =>
    obtain hon | ⟨st', hs', hrested⟩ := e.execute_rests r files choices s
    · exact ⟨st.isExecuting, hon.trans hsame⟩
    · obtain rfl : st = st' := Option.some.inj (hs.symm.trans hs')
      exact ⟨_, hrested⟩
  | assign a =>
    simp only [on, hs]
    cases ha : st.assign a with
    | error f => exact ⟨st.isExecuting, hsame⟩
    | ok st' =>
      obtain ⟨hopen | hmark, rfl⟩ := Setting.assign_ok_iff.1 ha
      · simp [hopen] at hf
      · cases a with
        | isExecuting v => exact ⟨v, rfl⟩
        | _ => cases hmark

theorem Engine.through_uncompiled (he : e.tree = none) (h : ∀ u ∈ uses, u.recompiles = false) :
    (e.through uses).tree = none := by
  induction uses generalizing e with
  | nil => exact he
  | cons u rest ih =>
    obtain ⟨hu, hrest⟩ := List.forall_mem_cons.1 h
    obtain ⟨setting, hon⟩ := u.frame hu e
    refine ih ?_ hrest
    rw [hon]
    exact he

-- ---------------------------------------------------------------------------
-- Plans that passed the check
-- ---------------------------------------------------------------------------

/-- An engine that holds a plan for a document, with all that the check asks of it. The setting
is complete, and the plan is what the skips in it leave of all groups. -/
structure Engine.Vetted (e : Engine) (d : Document) (before after : List Group) (st : Setting)
    (t : Target) (sk : Skips) : Prop where
  document : e.document = some d
  actions : e.registry.size ≠ 0
  supplyBefore : e.before = .groups before
  supplyAfter : e.after = .groups after
  distinct : (Recipe.groupAliases (allGroups before d after)).Nodup
  setting : e.setting = some st
  target : st.target = some t
  named : t.aliasName ≠ ""
  skipActions : isList st.skipActions = true
  skipGroups : isList st.skipGroups = true
  complete : st.frozen = true
  skips : skips st = .ok sk
  tree : e.tree = some (Tree.ofGroups sk (allGroups before d after))

variable {d : Document} {before after : List Group} {t : Target} {sk : Skips}

theorem Build.groups_ok {b : Build π} {groups : List Group} (h : b.groups d = .ok groups) :
    ∃ before after, b.before = .groups before ∧ b.after = .groups after ∧
      groups = allGroups before d after ∧ (Recipe.groupAliases groups).Nodup := by
  unfold Build.groups at h
  split at h
  · next before after hb ha =>
    dsimp only at h
    split at h
    · next hnil =>
      cases h
      exact ⟨before, after, hb, ha, rfl, Recipe.duplicates_eq_nil_iff.1 hnil⟩
    · cases h
  · cases h
  · cases h

theorem Engine.Compiled.vetted {b : Build π} {groups : List Group}
    (h : Compiled m e src choices asked b groups sk) :
    ∃ before after st t,
      (e.compile m src choices asked).engine.Vetted src.document before after st t sk := by
  obtain ⟨before, after, hb, ha, rfl, hnodup⟩ := Build.groups_ok h.sound.groups
  obtain ⟨t, ht, hname⟩ := h.sound.target
  rw [h.engine]
  exact ⟨before, after, _, t, rfl, h.sound.actions, hb, ha, hnodup, rfl, ht, hname,
    h.sound.skipActions, h.sound.skipGroups, rfl, h.skips, rfl⟩

theorem Engine.Vetted.on (he : e.Vetted d before after st t sk) (h : u.recompiles = false) :
    ∃ v, (u.on e).Vetted d before after { st with isExecuting := v } t sk := by
  obtain ⟨v, hon⟩ := Use.marks h he.setting he.complete
  rw [hon]
  exact ⟨v, he.document, he.actions, he.supplyBefore, he.supplyAfter, he.distinct, rfl, he.target,
    he.named, he.skipActions, he.skipGroups, he.complete, he.skips, he.tree⟩

theorem Engine.Vetted.through (he : e.Vetted d before after st t sk)
    (h : ∀ u ∈ uses, u.recompiles = false) :
    ∃ v, (e.through uses).Vetted d before after { st with isExecuting := v } t sk := by
  induction uses generalizing e st with
  | nil => exact ⟨st.isExecuting, he⟩
  | cons u rest ih =>
    obtain ⟨hu, hrest⟩ := List.forall_mem_cons.1 h
    obtain ⟨v, hon⟩ := he.on hu
    have hthrough := ih hon hrest
    exact hthrough

-- ---------------------------------------------------------------------------
-- What compiling goes by
-- ---------------------------------------------------------------------------

theorem Use.on_identity (u : Use) (e : Engine) :
    (u.on e).type = e.type ∧ (u.on e).label = e.label := by
  cases hu : u.recompiles with
  | false =>
    obtain ⟨setting, hon⟩ := u.frame hu e
    rw [hon]
    exact ⟨rfl, rfl⟩
  | true =>
    cases u with
    | compile m src choices asked =>
      obtain ⟨f, b, setting, -, -, hleft⟩ | ⟨-, b, groups, sk, hc⟩ :=
        Engine.compile_cases m e choices asked hu
      · simp only [on, hleft]
        exact ⟨rfl, rfl⟩
      · simp only [on, hc.engine]
        exact ⟨rfl, rfl⟩
    | _ => cases hu

theorem Engine.through_identity (e : Engine) (uses : List Use) :
    (e.through uses).type = e.type ∧ (e.through uses).label = e.label := by
  induction uses generalizing e with
  | nil => exact ⟨rfl, rfl⟩
  | cons u rest ih =>
    obtain ⟨htype, hlabel⟩ := u.on_identity e
    obtain ⟨htype', hlabel'⟩ := ih (u.on e)
    exact ⟨htype'.trans htype, hlabel'.trans hlabel⟩

theorem Engine.compile_congr (htype : e.type = e'.type) (hlabel : e.label = e'.label)
    (m : Make π) (choices : Choices) (asked : π) (hv : src.validated.truthy = true) :
    e.compile m src choices asked = e'.compile m src choices asked := by
  have hholding : e.holding (π := π) = e'.holding := by
    funext d b setting tree
    simp [holding, htype, hlabel]
  simp only [compile, hv, hholding, Bool.not_true, Bool.false_eq_true, if_false]

/-- Of two engines that differ in their history alone, compiling makes the same. -/
theorem Engine.compile_regardless (e : Engine) (uses : List Use) (m : Make π) (choices : Choices)
    (asked : π) (hv : src.validated.truthy = true) :
    (e.through uses).compile m src choices asked = e.compile m src choices asked :=
  compile_congr (e.through_identity uses).1 (e.through_identity uses).2 m choices asked hv

-- ---------------------------------------------------------------------------
-- No plan, or the plan that was compiled last
-- ---------------------------------------------------------------------------

/-- An engine that does not run. The stage on which it is to run is as it was. -/
structure Engine.Idle (e : Engine) : Prop where
  uncompiled : e.compiled = false
  refuses : ∀ (σ : Type) (r : Runner σ) (files : Files) (choices : RunChoices) (s : Stage σ),
    (e.execute r files choices).run s = ((.error (.fault e.uncompiled), e), s)

theorem Engine.idle_of_no_tree (h : e.tree = none) : e.Idle where
  uncompiled := by simp [compiled, h]
  refuses _ := execute_of_no_tree h

/-- An engine whose setting takes no assignment but that of the mark that a run is going on. -/
def Engine.Locked (e : Engine) (st : Setting) : Prop :=
  ∀ a, Setting.isRunMark a = false →
    st.assign a = .error (Setting.readOnly a) ∧ (Use.assign a).on e = e

theorem Engine.Vetted.locked (he : e.Vetted d before after st t sk) : e.Locked st := by
  intro a ha
  have hrefused := Setting.assign_of_frozen he.complete ha
  refine ⟨hrefused, ?_⟩
  simp only [Use.on, he.setting, hrefused]

/-- Whatever an engine has been used for, and whatever its hooks do: when a recipe cannot be
compiled there is no plan until the next recipe, and nothing runs. When it can, there is the
plan of that recipe, which has passed the check, in a setting that nothing changes until the
next recipe. -/
theorem Engine.no_stale_plan (e : Engine) (earlier later : List Use) (m : Make π)
    (choices : Choices) (asked : π) (hv : src.validated.truthy = true)
    (hl : ∀ u ∈ later, u.recompiles = false) :
    (∃ f, ((e.through earlier).compile m src choices asked).result = .error f ∧
        (((e.through earlier).compile m src choices asked).engine.through later).Idle) ∨
      ((e.through earlier).compile m src choices asked).result = .ok () ∧
        ∃ before after st t sk,
          (((e.through earlier).compile m src choices asked).engine.through later).Vetted
              src.document before after st t sk ∧
            (((e.through earlier).compile m src choices asked).engine.through later).Locked st := by
  obtain ⟨f, b, setting, hf, -, hleft⟩ | ⟨hok, b, groups, sk, hc⟩ :=
    compile_cases m (e.through earlier) choices asked hv
  · refine .inl ⟨f, hf, idle_of_no_tree (through_uncompiled ?_ hl)⟩
    rw [hleft]
    rfl
  · obtain ⟨before, after, st, t, hvetted⟩ := hc.vetted
    obtain ⟨v, hready⟩ := hvetted.through hl
    exact .inr ⟨hok, before, after, _, t, sk, hready, hready.locked⟩

namespace Demo

open Interview

/-- A demo engine that has been used, whatever for and however that ended, compiles a recipe as
one that has not: it makes the same report, with the same fault or with the same tree, setting
and registry. Whoever is asked has only so many answers left (`Prompter.ask_lt`). -/
theorem compiles_afresh (uses : List Use) (p : Option (Prompter π)) (choices : Choices)
    (asked : π) (hv : src.validated.truthy = true) :
    ((Engine.fresh Recipe.demoType label).through uses).compile (make p) src choices asked =
      (Engine.fresh Recipe.demoType label).compile (make p) src choices asked :=
  Engine.compile_regardless _ uses (make p) choices asked hv

def trialUses (r : Recipe) : List Use :=
  [.compile (make none) r.toSource { target := some "sandbox" } (),
    .execute ({} : Rehearsal).toRunner default {} (.opened [] .zero),
    .compile (make none) r.toSource {} ()]

theorem trial_validated {r : Recipe} (h : trial = .ok r)
    (ht : r.document.type = Recipe.demoType) : r.toSource.validated.truthy = true := by
  obtain ⟨-, hvalidated⟩ := Recipe.sound_of_ofData (Prod.ext h rfl) ht
  rw [Recipe.toSource, hvalidated]
  rfl

theorem trial_compiles_afresh :
    ∃ r, trial = .ok r ∧ r.toSource.validated.truthy = true ∧ (trialReport r).result = .ok () ∧
      ((Engine.fresh Recipe.demoType label).through (trialUses r)).compile (make none) r.toSource
        { target := some "sandbox", skipGroups := some ["deploy"] } () = trialReport r := by
  obtain ⟨r, hr, ht, hok⟩ := trial_accepted
  have hv := trial_validated hr ht
  exact ⟨r, hr, hv, hok, compiles_afresh (trialUses r) none _ () hv⟩

theorem trial_undecided :
    ∃ r f, trial = .ok r ∧ r.document.type = Recipe.demoType ∧
      ((Engine.fresh Recipe.demoType label).compile (make none) r.toSource {} ()).result =
        .error f := by
  have h : trial.toOption.any (fun r => r.document.type = Recipe.demoType &&
      !((Engine.fresh Recipe.demoType label).compile (make none) r.toSource {} ()).result.toBool) =
        true := by
    decide +kernel
  cases hr : trial with
  | error f => simp [hr, Except.toOption] at h
  | ok r =>
    simp only [hr, Except.toOption, Option.any_some, Bool.and_eq_true, decide_eq_true_eq] at h
    obtain ⟨ht, hres⟩ := h
    cases hf : ((Engine.fresh Recipe.demoType label).compile (make none) r.toSource {} ()).result with
    | ok _ => simp [hf, Except.toBool] at hres
    | error f => exact ⟨r, f, rfl, ht, hf⟩

def trialLater : List Use :=
  [.execute ({} : Rehearsal).toRunner default {} (.opened [] .zero),
    .assign (.haltOnError (.bool false))]

/-- Compiled at first, the trial does not run any more when it could not be compiled again. -/
theorem trial_not_stale :
    ∃ r, trial = .ok r ∧ r.toSource.validated.truthy = true ∧
      (∀ u ∈ trialLater, u.recompiles = false) ∧
      ((((Engine.fresh Recipe.demoType label).through (trialUses r)).compile (make none) r.toSource
        {} ()).engine.through trialLater).Idle := by
  obtain ⟨r, f, hr, ht, hf⟩ := trial_undecided
  have hv := trial_validated hr ht
  have hlater : ∀ u ∈ trialLater, u.recompiles = false := by simp [trialLater, Use.recompiles]
  refine ⟨r, hr, hv, hlater, ?_⟩
  have hplan := Engine.no_stale_plan (Engine.fresh Recipe.demoType label) (trialUses r) trialLater
    (make none) {} () hv hlater
  obtain ⟨g, -, hidle⟩ | ⟨hok, -⟩ := hplan
  · exact hidle
  · rw [Engine.compile_regardless _ _ _ _ _ hv, hf] at hok
    cases hok

end Demo

end Provision.Plan
