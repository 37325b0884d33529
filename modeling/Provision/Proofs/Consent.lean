import Provision.Proofs.InstallationLaws
import Provision.Proofs.Recipe.Compiling
import Provision.Rehearsal.Runner

/-!
# Nothing is made anew without consent

A compiled plan refreshes only the target that was selected, and only with consent:
the caller's, given with the name of the target or beforehand, or that of whoever was
asked. An installation that does not get so far, or that has no runner, hands no
command over.

The choice of a prompter is taken as it comes. So the target is one of the recipe's as far as
a prompter keeps to what it is offered (`Prompter.Faithful`), and consent is whatever counts as
true (`stray_refreshed`).
-/

namespace Provision

open Stage Plan.Demo Interview

variable {σ π : Type} {runner : Runner σ}

/-- The refresh of a target has come about in a compilation by consent: of what was said, only
checklists came after. -/
structure Consented (p : Option (Prompter π)) (src : Plan.Engine.Source) (choices : Choices)
    (asked asked' : π) (t : Recipe.Target) : Prop where
  scratch : refreshes choices t = true
  consent : ∃ log more, Asked p asked (log ++ more) asked' ∧
    Consent src.document choices t log ∧ ∀ x ∈ more, x.question.kind = .checkbox

section
variable {p : Option (Prompter π)} {e : Plan.Engine} {src : Plan.Engine.Source}
  {choices : Choices} {asked : π}

theorem compile_consented {gs : List Recipe.Group} {g : Recipe.Group}
    (hok : (e.compile (make p) src choices asked).result = .ok ())
    (hgs : (e.compile (make p) src choices asked).engine.before = .groups gs) (hg : g ∈ gs) :
    ∃ t, g = refreshGroup t ∧
      (e.compile (make p) src choices asked).engine.setting.bind (·.target) = some t ∧
        Consented p src choices asked (e.compile (make p) src choices asked).asked t := by
  obtain ⟨b, groups, sk, hb⟩ := Plan.Engine.compile_ok hok
  obtain ⟨t, hbuilt, -, -⟩ := built_of_compiled hb
  obtain ⟨log, more, s, hsel, hmore, hout⟩ := hbuilt.interview
  rw [hb.engine] at hgs ⊢
  rw [hb.asked]
  have hgroups : refreshGroups choices t = gs := by
    simpa [Plan.Engine.holding, hbuilt.before] using hgs
  rw [← hgroups, refreshGroups] at hg
  split at hg
  · next hr =>
    exact ⟨t, List.mem_singleton.1 hg, hbuilt.target, hr, log, more, hsel.asked.append hmore,
      hsel.consent hr, hout.kind⟩
  · cases hg

theorem compile_declared (hp : ∀ q, p = some q → q.Faithful)
    (hok : (e.compile (make p) src choices asked).result = .ok ()) :
    ∃ t ∈ src.document.options.targets,
      (e.compile (make p) src choices asked).engine.setting.bind (·.target) = some t := by
  obtain ⟨b, groups, sk, hb⟩ := Plan.Engine.compile_ok hok
  obtain ⟨t, hbuilt, -, -⟩ := built_of_compiled hb
  obtain ⟨log, more, s, hsel, -, -⟩ := hbuilt.interview
  rw [hb.engine]
  exact ⟨t, hsel.declared hp, hbuilt.target⟩

end

/-- A plan has been compiled that refreshes a target. -/
def Refreshing (report : Plan.Engine.Report π) (t : Recipe.Target) : Prop :=
  report.result = .ok () ∧ ∃ gs, report.engine.before = .groups gs ∧ refreshGroup t ∈ gs

/-- Whether one has been compiled, told by its target and by there being anything to refresh. -/
def renews (report : Plan.Engine.Report π) (t : Recipe.Target) : Bool :=
  report.result.toBool && report.engine.before.groups?.any (!·.isEmpty) &&
    report.engine.setting.bind (·.target) = some t

theorem refreshing_of_renews {report : Plan.Engine.Report π} {p : Option (Prompter π)}
    {e : Plan.Engine} {src : Plan.Engine.Source} {choices : Choices} {asked : π}
    {t : Recipe.Target} (hr : report = e.compile (make p) src choices asked)
    (h : renews report t = true) : Refreshing report t := by
  simp only [renews, Bool.and_eq_true, decide_eq_true_eq] at h
  obtain ⟨⟨hok, hbefore⟩, ht⟩ := h
  have hres : report.result = .ok () := by
    cases h : report.result with
    | error f =>
      rw [h] at hok
      cases hok
    | ok _ => rfl
  cases hgs : report.engine.before with
  | other v =>
    rw [hgs] at hbefore
    cases hbefore
  | groups gs =>
    cases gs with
    | nil =>
      rw [hgs] at hbefore
      cases hbefore
    | cons g rest =>
      subst hr
      obtain ⟨t', rfl, ht', -⟩ := compile_consented hres hgs List.mem_cons_self
      obtain rfl := Option.some_inj.1 (ht.symm.trans ht')
      exact ⟨hres, _, hgs, List.mem_cons_self⟩

/-- A scratch org is refreshed by no plan without consent, whoever is asked. If to a list a
prompter answers with nothing but one of the choices, then the target of a plan is one that the
recipe declares. An installation that is not compiled or finds no runner runs no command. -/
theorem no_refresh_without_consent (p : Option (Prompter π)) (choices : Choices) (asked : π) :
    (∀ (e : Plan.Engine) (src : Plan.Engine.Source) (gs : List Recipe.Group) (g : Recipe.Group),
      (e.compile (make p) src choices asked).result = .ok () →
      (e.compile (make p) src choices asked).engine.before = .groups gs → g ∈ gs →
      ∃ t, g = refreshGroup t ∧
        (e.compile (make p) src choices asked).engine.setting.bind (·.target) = some t ∧
          Consented p src choices asked (e.compile (make p) src choices asked).asked t) ∧
    ((∀ q, p = some q → q.Faithful) → ∀ (e : Plan.Engine) (src : Plan.Engine.Source),
      (e.compile (make p) src choices asked).result = .ok () →
      ∃ t ∈ src.document.options.targets,
        (e.compile (make p) src choices asked).engine.setting.bind (·.target) = some t) ∧
    ∀ (files : Files) (w : Recipe.Reference) (runner : Project → Runner σ) (run : RunChoices)
      (s : Stage σ),
      (∀ project r, (Recipe.load files w).outcome.1 = .ok (project, r) →
        (∃ f, (r.compile p choices asked).result = .error f) ∨ (runner project).available = false) →
      ((Installation.run files w runner choices run p asked).run s).2.calls = s.calls ∧
        ((Installation.run files w runner choices run p asked).run s).2.state = s.state := by
  refine ⟨fun e src gs g hok hgs hg => compile_consented hok hgs hg,
    fun hp e src hok => compile_declared hp hok, ?_⟩
  intro files w runner run s h
  exact Installation.run_keeps lasting_untouched files w runner choices run p asked h s

def sandbox : Recipe.Target := ⟨"Sandbox", "sandbox", "For trying out", true, some "def.json", none⟩

def sandboxSource : Plan.Engine.Source where
  document := { (default : Recipe.Document) with
    options := { (default : Recipe.Options) with targets := [sandbox] } }
  project := default
  validated := .bool true

def sandboxReport : Plan.Engine.Report Script :=
  (Plan.Engine.fresh "demo" "Demo").compile (make (some Script.prompter)) sandboxSource {}
    ⟨[.bool true], []⟩

def missingRunner : Runner (List Command) := { available := false : Rehearsal }.toRunner

def unrun : Stage (List Command) :=
  ((Installation.run default {} (fun _ => missingRunner) {} {} (some Script.prompter)
    ⟨[.bool true], []⟩).run (.opened [] .zero)).2

theorem sandbox_refreshed :
    (∃ gs, sandboxReport.result = .ok () ∧ sandboxReport.engine.before = .groups gs ∧
      refreshGroup sandbox ∈ gs ∧ sandbox ∈ sandboxSource.document.options.targets ∧
      Consented (some Script.prompter) sandboxSource {} ⟨[.bool true], []⟩ sandboxReport.asked
        sandbox) ∧ unrun.calls = [] := by
  have htarget : sandboxReport.engine.setting.bind (·.target) = some sandbox := by decide +kernel
  have hrefreshing : Refreshing sandboxReport sandbox :=
    refreshing_of_renews rfl (by decide +kernel)
  unfold sandboxReport at htarget hrefreshing ⊢
  obtain ⟨hok, gs, hgs, hg⟩ := hrefreshing
  obtain ⟨consented, declared, installed⟩ := no_refresh_without_consent (σ := List Command)
    (some Script.prompter) {} ⟨[.bool true], []⟩
  have hfaithful : ∀ q, some Script.prompter = some q → q.Faithful := by
    rintro _ ⟨⟩
    exact Script.prompter_faithful
  obtain ⟨t, -, ht, hconsented⟩ := consented _ sandboxSource gs _ hok hgs hg
  obtain ⟨t', hdeclared, ht'⟩ := declared hfaithful _ sandboxSource hok
  obtain rfl := Option.some_inj.1 (htarget.symm.trans ht)
  obtain rfl := Option.some_inj.1 (htarget.symm.trans ht')
  exact ⟨⟨gs, hok, hgs, hg, hdeclared, hconsented⟩,
    (installed _ _ (fun _ => missingRunner) _ _ fun _ _ _ => .inr rfl).1⟩

def stray : Recipe.Target := ⟨"Stray", "stray", "Declared nowhere", true, some "def.json", none⟩

/-- It picks an org that it was not offered and agrees to all else, as many times as its state
says. -/
def intruder : Prompter Nat where
  ask q _ left :=
    match left with
    | 0 => (.error cancelled, 0)
    | left + 1 => (.ok (if q.kind = .list then .target stray else .value (.bool true)), left)
  size left := left
  ask_lt {q m left a} h := by
    cases left with
    | zero => cases h
    | succ left => exact Nat.lt_succ_self left

def intruded (r : Recipe) : Plan.Engine.Report Nat :=
  (Plan.Engine.fresh Recipe.demoType label).compile (make (some intruder)) r.toSource {} 2

/-- The first target is picked, and what its deletion is answered with is the text of a no. -/
def reluctant : Script := ⟨[.int 0, .str "no"], []⟩

def overruled (r : Recipe) : Plan.Engine.Report Script :=
  (Plan.Engine.fresh Recipe.demoType label).compile (make (some Script.prompter)) r.toSource {}
    reluctant

/-- A recipe that was accepted is compiled to refresh an org that it does not declare, and to
refresh one of its own upon a no. -/
theorem stray_refreshed :
    ∃ r, trial = .ok r ∧ r.document.type = Recipe.demoType ∧
      (Refreshing (intruded r) stray ∧ stray ∉ r.document.options.targets) ∧
      Refreshing (overruled r) sandbox ∧ sandbox ∈ r.document.options.targets ∧
        (overruled r).asked.asked.getLast? = some (deletionMessage sandbox) ∧
        reluctant.queue.getLast? = some (.str "no") := by
  have h : trial.toOption.any (fun r => r.document.type = Recipe.demoType &&
      (renews (intruded r) stray && stray ∉ r.document.options.targets) &&
      (renews (overruled r) sandbox && sandbox ∈ r.document.options.targets &&
        (overruled r).asked.asked.getLast? = some (deletionMessage sandbox))) = true := by
    decide +kernel
  cases hr : trial with
  | error f =>
    rw [hr] at h
    cases h
  | ok r =>
    simp only [hr, Except.toOption, Option.any_some, Bool.and_eq_true, decide_eq_true_eq] at h
    obtain ⟨⟨htype, hintruded, hstray⟩, ⟨hoverruled, hsandbox⟩, hasked⟩ := h
    exact ⟨r, rfl, htype, ⟨refreshing_of_renews rfl hintruded, hstray⟩,
      refreshing_of_renews rfl hoverruled, hsandbox, hasked, rfl⟩

end Provision
