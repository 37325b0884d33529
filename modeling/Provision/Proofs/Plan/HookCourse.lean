import Provision.Proofs.Recipe.Compiling

/-!
# The course of the hooks

What the hooks of a demo leave behind is said here exactly, also when one of them stops
(`hooks_run`). Only two of them ask: the target is a question to whoever is there, and so
are the groups that are left out. Everything else is a matter of the recipe and of the
choices of the caller, so two compiles that got the same answers agree
(`compile_agrees`).
-/

namespace Provision.Plan

variable {π σ α β : Type}

def Build.facing (b : Build Unit) (s : π) : Build π where
  setting := b.setting
  before := b.before
  after := b.after
  registry := b.registry
  asked := s
  records := b.records
  begun := b.begun

-- ---------------------------------------------------------------------------
-- Hooks that ask
-- ---------------------------------------------------------------------------

/-- A hook that comes to a question to whoever is asked, and to nothing else. -/
def Hook.Inquires (x : Hook π α) (question : π → Except Fault α × π) : Prop :=
  ∀ b, x.run.run b = ((question b.asked).1, { b with asked := (question b.asked).2 })

theorem Hook.get_run (b : Build π) : (get : Hook π (Build π)).run.run b = (.ok b, b) := rfl

theorem Hook.modify_run (g : Build π → Build π) (b : Build π) :
    (modify g : Hook π Unit).run.run b = (.ok (), g b) := rfl

theorem Hook.note_run (r : Record) (b : Build π) :
    (note r).run.run b = (.ok (), { b with records := b.records ++ [r] }) := rfl

theorem Hook.register_run {b : Build π} {a : Action}
    (h : (b.registry.register a).raised = none) :
    (register a).run.run b = (.ok (), { b with
      registry := (b.registry.register a).registry
      records := b.records ++ (b.registry.register a).records }) := by
  simp only [register, run_bind, get_run, modify_run, h]
  rfl

theorem Hook.assign_run {b : Build π} (ho : b.setting.frozen = false) (a : Assignment) :
    (assign a).run.run b = (.ok (), { b with setting := b.setting.write a }) := by
  have ha : b.setting.assign a = .ok (b.setting.write a) :=
    Setting.assign_ok_iff.2 ⟨.inl ho, rfl⟩
  simp only [assign, run_bind, Hook.get_run, ha]
  rfl

namespace Hook.Inquires

variable {x : Hook π α} {question : π → Except Fault α × π}

theorem pure (a : α) : Inquires (pure a : Hook π α) fun s => (.ok a, s) := fun _ => rfl

theorem throw (f : Fault) : Inquires (throw f : Hook π α) fun s => (.error f, s) := fun _ => rfl

theorem ask (question : π → Except Fault α × π) : Inquires (ask question) question :=
  fun _ => ask_run question

theorem map (hx : Inquires x question) (f : α → β) :
    Inquires (x >>= fun a => Pure.pure (f a)) fun s =>
      ((question s).1.map f, (question s).2) := by
  intro b
  rw [run_bind, hx]
  dsimp only
  cases (question b.asked).1 <;> rfl

end Hook.Inquires

/-- Two reports that say the same, whoever was asked. -/
structure Engine.Report.Agrees (x : Report π) (y : Report σ) : Prop where
  engine : x.engine = y.engine
  result : x.result = y.result
  records : x.records = y.records
  begun : x.begun = y.begun

namespace Demo

open Recipe (Document Group Target)
open Interview

variable {p : Option (Prompter π)} {d : Document} {src : Engine.Source} {c : Choices} {s : π}
  {b : Build π} {t : Target}

-- ---------------------------------------------------------------------------
-- One hook after the other
-- ---------------------------------------------------------------------------

theorem selectTarget_inquires (p : Option (Prompter π)) (d : Document) (c : Choices) :
    ∃ question, Hook.Inquires (selectTarget p d c) question := by
  have hconsent (t : Target) : ∃ question, Hook.Inquires (consent p c t) question := by
    unfold consent
    split
    · cases p with
      | none => exact ⟨_, .throw _⟩
      | some q => exact ⟨_, .ask _⟩
    · exact ⟨_, .pure ()⟩
  unfold selectTarget
  dsimp only
  split
  · split
    · exact ⟨_, .pure _⟩
    · exact ⟨_, .throw _⟩
  · split
    · exact ⟨_, .throw _⟩
    · next t _ =>
      obtain ⟨question, h⟩ := hconsent t
      exact ⟨_, h.map fun _ => t⟩
    · exact ⟨_, .throw _⟩
    · exact ⟨_, .ask _⟩

theorem setTarget_run {question : π → Except Fault Target × π}
    (hq : Hook.Inquires (selectTarget p d b.setting.choices) question)
    (ho : b.setting.frozen = false) :
    (setTarget p d).run.run b = match question b.asked with
      | (.error f, s) => (.error f, { b with asked := s })
      | (.ok t, s) => (.ok (), { b with
          setting := { b.setting with target := some t }
          asked := s
          records := b.records ++ [.debug .engine s!"Target org: {t.aliasName}"] }) := by
  simp only [setTarget, run_bind, Hook.get_run, hq b]
  cases hs : question b.asked with
  | mk r s =>
    cases r with
    | error f => rfl
    | ok t =>
      simp only [Hook.note_run]
      exact Hook.assign_run (by exact ho) _

def supplied (c : Choices) (t : Target) : Except Fault (List Group) :=
  if refreshes c t then (formed (refreshGroup t)).map ([·]) else .ok []

theorem supplyRefresh_run (ht : b.setting.target = some t) :
    supplyRefresh.run.run b = match supplied b.setting.choices t with
      | .error f => (.error f, b)
      | .ok gs => (.ok (), { b with before := .groups gs }) := by
  simp only [supplyRefresh, run_bind, Hook.get_run, ht, supplied]
  cases hr : refreshes b.setting.choices t with
  | false =>
    simp only [Option.filter_some, hr, Bool.false_eq_true, if_false]
    rfl
  | true =>
    simp only [Option.filter_some, hr, if_true]
    cases formed (refreshGroup t) <;> rfl

theorem setSkipActions_run (ho : b.setting.frozen = false) :
    (setSkipActions d).run.run b = (.ok (), { b with setting := { b.setting with
      skipActions :=
        .ofStrings (b.setting.choices.skipActions.getD d.options.skipActions) } }) := by
  simp only [setSkipActions, run_bind, Hook.get_run]
  exact Hook.assign_run ho _

def chooses (d : Document) (c : Choices) : Bool :=
  c.skipGroups.isNone && c.customInstall && !d.options.noCustomInstall

/-- Which groups are left out, as a question to whoever is asked. -/
def skipping (p : Option (Prompter π)) (d : Document) (c : Choices) (aliases : List String)
    (s : π) : Except Fault (List String) × π :=
  match p with
  | some q =>
    if chooses d c then askSkips q aliases d.options.skipGroups s
    else (.ok (c.skipGroups.getD d.options.skipGroups), s)
  | none => (.ok (c.skipGroups.getD d.options.skipGroups), s)

def remarks (p : Option (Prompter π)) (d : Document) (c : Choices) : List Record :=
  if p.isNone && chooses d c then [.warning .engine
    "Custom install requested but no prompt is available; using recipe defaults"]
  else []

theorem setSkipGroups_run (ho : b.setting.frozen = false) {aliases : List String}
    (ha : Recipe.groupAliases (allGroups (b.before.groups?.getD []) d (b.after.groups?.getD [])) =
      aliases) :
    (setSkipGroups p d).run.run b = match skipping p d b.setting.choices aliases b.asked with
      | (.error f, s) => (.error f, { b with asked := s })
      | (.ok skipped, s) => (.ok (), { b with
          setting := { b.setting with skipGroups := .ofStrings skipped }
          asked := s
          records := b.records ++ remarks p d b.setting.choices }) := by
  simp only [setSkipGroups, run_bind, Hook.get_run, ha]
  cases hs : b.setting.choices.skipGroups with
  | some skipped =>
    have hc : chooses d b.setting.choices = false := by simp [chooses, hs]
    have hskip : skipping p d b.setting.choices aliases b.asked = (.ok skipped, b.asked) := by
      cases p <;> simp [skipping, hc, hs]
    simp only [hskip, remarks, hc, Bool.and_false, Bool.false_eq_true, if_false, List.append_nil]
    exact Hook.assign_run ho _
  | none =>
    cases hc : chooses d b.setting.choices with
    | false =>
      have hw : (!b.setting.choices.customInstall || d.options.noCustomInstall) = true := by
        simpa [chooses, hs, imp_iff_not_or] using hc
      have hskip : skipping p d b.setting.choices aliases b.asked =
          (.ok d.options.skipGroups, b.asked) := by cases p <;> simp [skipping, hc, hs]
      simp only [hw, if_true, hskip, remarks, hc, Bool.and_false, Bool.false_eq_true, if_false,
        List.append_nil]
      exact Hook.assign_run ho _
    | true =>
      have hw : (!b.setting.choices.customInstall || d.options.noCustomInstall) = false := by
        simpa [chooses, hs] using hc
      simp only [hw, Bool.false_eq_true, if_false]
      cases p with
      | none =>
        simp only [run_bind, Hook.note_run, skipping, remarks, hc, hs]
        exact Hook.assign_run (by exact ho) _
      | some q =>
        simp only [run_bind, Hook.ask_run, skipping, hc, if_true]
        cases askSkips q aliases d.options.skipGroups b.asked with
        | mk r s =>
          cases r with
          | error f => rfl
          | ok skipped =>
            simp only [remarks, Option.isNone_some, Bool.false_and, Bool.false_eq_true, if_false,
              List.append_nil]
            exact Hook.assign_run (by exact ho) _

def enrolled : List ActionName → Registry → Registry × List Record
  | [], r => (r, [])
  | name :: rest, r =>
    let reply := r.register (.ofName name)
    ((enrolled rest reply.registry).1, reply.records ++ (enrolled rest reply.registry).2)

theorem registerAll_run (names : List ActionName) (b : Build π) :
    (registerAll names).run.run b = (.ok (), { b with
      registry := (enrolled names b.registry).1
      records := b.records ++ (enrolled names b.registry).2 }) := by
  induction names generalizing b with
  | nil =>
    simp only [enrolled, List.append_nil]
    rfl
  | cons name rest ih =>
    have hr : (b.registry.register (.ofName name)).raised = none := by
      obtain ⟨records, h⟩ := register_ofName b.registry name
      rw [h]
    simp only [registerAll, run_bind, Hook.register_run hr, ih, enrolled, List.append_assoc]

-- ---------------------------------------------------------------------------
-- All hooks
-- ---------------------------------------------------------------------------

theorem runHooks_of_ok {phase : Phase} {rest : List Phase} {b' : Build π}
    {r : Except Fault Unit × Build π}
    (h : (hook p phase d).run.run { b with begun := b.begun ++ [phase] } = (.ok (), b'))
    (hr : (runHooks (make p) d rest).run.run b' = r) :
    (runHooks (make p) d (phase :: rest)).run.run b = r := by
  simp only [runHooks, run_bind, Hook.modify_run]
  rw [show (make p).hook phase d = hook p phase d from rfl, h]
  exact hr

theorem runHooks_of_error {phase : Phase} {rest : List Phase} {b' : Build π} {f : Fault}
    (h : (hook p phase d).run.run { b with begun := b.begun ++ [phase] } = (.error f, b')) :
    (runHooks (make p) d (phase :: rest)).run.run b = (.error f, b') := by
  simp only [runHooks, run_bind, Hook.modify_run]
  rw [show (make p).hook phase d = hook p phase d from rfl, h]

variable (src c) in
def opened : Build Unit :=
  let b := Engine.slate Recipe.demoType src c ()
  { b with
    setting := { b.setting with
      isExecuting := .bool false
      devHub := .ofOption (orElse c.devHub src.project.config.devHubAlias)
      haltOnError := .bool (c.haltOnError.getD src.document.options.haltOnError)
      logLevel := c.logLevel.getD (.ofSetting src.project.config.logLevel) }
    begun := [.context, .target] }

variable (src c) in
def aimed (t : Target) : Build Unit :=
  let b := opened src c
  { b with
    setting := { b.setting with target := some t }
    records := b.records ++ [.debug .engine s!"Target org: {t.aliasName}"]
    begun := b.begun ++ [.before] }

variable (src c) in
def grouped (t : Target) (gs : List Group) : Build Unit :=
  let b := aimed src c t
  { b with
    before := .groups gs
    after := .groups []
    setting := { b.setting with
      skipActions := .ofStrings (c.skipActions.getD src.document.options.skipActions) }
    begun := Phase.all.dropLast }

variable (src c) in
def filled (t : Target) (gs : List Group) (skipped : List String) (remarks : List Record) :
    Build Unit :=
  let b := grouped src c t gs
  { b with
    setting := { b.setting with skipGroups := .ofStrings skipped }
    registry := (enrolled actions b.registry).1
    records := b.records ++ remarks ++ (enrolled actions b.registry).2
    begun := Phase.all }

theorem hooks_run (p : Option (Prompter π)) (src : Engine.Source) (c : Choices) (s : π)
    {question : π → Except Fault Target × π}
    (hq : Hook.Inquires (selectTarget p src.document c) question) :
    (runHooks (make p) src.document Phase.all).run.run (Engine.slate (make p).type src c s) =
      match question s with
      | (.error f, s) => (.error f, (opened src c).facing s)
      | (.ok t, s) => match supplied c t with
        | .error f => (.error f, (aimed src c t).facing s)
        | .ok gs => match skipping p src.document c
            (Recipe.groupAliases (gs ++ src.document.groups)) s with
          | (.error f, s) => (.error f, (grouped src c t gs).facing s)
          | (.ok skipped, s) =>
            (.ok (), (filled src c t gs skipped (remarks p src.document c)).facing s) := by
  have hcontext : (hook p .context src.document).run.run
      { Engine.slate (make p).type src c s with begun := [] ++ [.context] } =
        (.ok (), { (opened src c).facing s with begun := [.context] }) := rfl
  have htarget := setTarget_run (b := (opened src c).facing s) hq rfl
  refine runHooks_of_ok hcontext ?_
  cases hs : question s with
  | mk r s₁ =>
    rw [show ((opened src c).facing s).asked = s from rfl, hs] at htarget
    cases r with
    | error f => exact runHooks_of_error htarget
    | ok t =>
      refine runHooks_of_ok htarget ?_
      have hsupply := supplyRefresh_run (b := (aimed src c t).facing s₁) (t := t) rfl
      rw [show ((aimed src c t).facing s₁).setting.choices = c from rfl] at hsupply
      dsimp only
      cases hg : supplied c t with
      | error f =>
        rw [hg] at hsupply
        exact runHooks_of_error hsupply
      | ok gs =>
        rw [hg] at hsupply
        refine runHooks_of_ok hsupply ?_
        dsimp only
        refine runHooks_of_ok rfl ?_
        refine runHooks_of_ok ((setSkipActions_run rfl)) ?_
        have haliases : Recipe.groupAliases (allGroups gs src.document []) =
            Recipe.groupAliases (gs ++ src.document.groups) := congrArg _ (List.append_nil _)
        have hskips := setSkipGroups_run (p := p) (b := (grouped src c t gs).facing s₁) rfl haliases
        rw [show ((grouped src c t gs).facing s₁).setting.choices = c from rfl,
          show ((grouped src c t gs).facing s₁).asked = s₁ from rfl] at hskips
        cases hk : skipping p src.document c
            (Recipe.groupAliases (gs ++ src.document.groups)) s₁ with
        | mk r s₂ =>
          rw [hk] at hskips
          cases r with
          | error f => exact runHooks_of_error hskips
          | ok skipped =>
            refine runHooks_of_ok hskips ?_
            exact runHooks_of_ok (registerAll_run _ _) rfl

-- ---------------------------------------------------------------------------
-- Compiling
-- ---------------------------------------------------------------------------

variable {e : Engine} {p' : Option (Prompter σ)} {u u₁ : σ} {s₁ : π} {r : Except Fault Unit}

/-- The engine holds on to what was built, whatever comes of it. -/
theorem compile_holding {b : Build π}
    (h : (runHooks (make p) src.document Phase.all).run.run (Engine.slate (make p).type src c s) =
      (r, b)) (hv : src.validated.truthy = true) :
    (e.compile (make p) src c s).asked = b.asked ∧ ∃ st tree, st.target = b.setting.target ∧
      (e.compile (make p) src c s).engine = e.holding src.document b st tree := by
  cases r with
  | error f =>
    exact ⟨by simp [Engine.compile, hv, h], b.setting, none, rfl, by simp [Engine.compile, hv, h]⟩
  | ok _ =>
    cases hc : b.checked src.document with
    | error f =>
      exact ⟨by simp [Engine.compile, hv, h, hc], b.setting, none, rfl,
        by simp [Engine.compile, hv, h, hc]⟩
    | ok checked =>
      obtain ⟨groups, st⟩ := checked
      obtain ⟨-, rfl⟩ := Build.checked_sound hc
      simp only [Engine.compile, hv, h, hc]
      cases Plan.skips { b.setting with initialized := .bool true } with
      | error f => exact ⟨rfl, { b.setting with initialized := .bool true }, none, rfl, rfl⟩
      | ok sk =>
        exact ⟨rfl, { b.setting with initialized := .bool true }, some (Tree.ofGroups sk groups),
          rfl, rfl⟩

theorem compile_target {b : Build π}
    (h : (runHooks (make p) src.document Phase.all).run.run (Engine.slate (make p).type src c s) =
      (r, b)) (hv : src.validated.truthy = true) :
    (e.compile (make p) src c s).engine.setting.bind (·.target) = b.setting.target := by
  obtain ⟨-, st, tree, ht, he⟩ := compile_holding (e := e) h hv
  rw [he]
  exact ht

theorem compile_agrees {b : Build Unit}
    (h : (runHooks (make p) src.document Phase.all).run.run (Engine.slate (make p).type src c s) =
      (r, b.facing s₁))
    (h' : (runHooks (make p') src.document Phase.all).run.run
      (Engine.slate (make p').type src c u) = (r, b.facing u₁)) :
    (e.compile (make p) src c s).Agrees (e.compile (make p') src c u) := by
  cases hv : src.validated.truthy with
  | false =>
    rw [Engine.compile_unvalidated hv, Engine.compile_unvalidated hv]
    exact ⟨rfl, rfl, rfl, rfl⟩
  | true =>
    cases r with
    | error f =>
      simp only [Engine.compile, hv, h, h']
      exact ⟨rfl, rfl, rfl, rfl⟩
    | ok _ =>
      have hchecked : (b.facing s₁).checked src.document = b.checked src.document := rfl
      have hchecked' : (b.facing u₁).checked src.document = b.checked src.document := rfl
      simp only [Engine.compile, hv, h, h', hchecked, hchecked']
      cases b.checked src.document with
      | error f => exact ⟨rfl, rfl, rfl, rfl⟩
      | ok checked =>
        obtain ⟨groups, st⟩ := checked
        dsimp only
        cases Plan.skips st <;> exact ⟨rfl, rfl, rfl, rfl⟩

end Demo

end Provision.Plan
