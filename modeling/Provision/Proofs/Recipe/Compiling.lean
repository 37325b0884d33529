import Provision.Proofs.Plan.DemoLaws
import Provision.Proofs.Plan.TreeLaws
import Provision.Proofs.Recipe.Accepted

/-!
# Compiling an accepted recipe

What the hooks of a demo build from a sound document passes the check, so once they are
done nothing can go wrong any more (`Built.checked`). On the way there a prompter that
keeps to the choices is no cause for complaint either. The tree that comes of it is cut
from the groups there are for the target, and from nothing else (`Exact`).
-/

namespace Provision.Plan.Demo

open Recipe (Document Group Target)
open Interview

variable {π : Type} {p : Option (Prompter π)} {d : Document} {src : Engine.Source}
  {choices : Choices} {asked : π} {e : Engine} {t : Target} {skipped : List String}
  {b : Build π}

-- ---------------------------------------------------------------------------
-- The check
-- ---------------------------------------------------------------------------

theorem groupsFor_nodup (hd : d.aliases.Nodup) (hfree : refreshAlias ∉ d.aliases) :
    (Recipe.groupAliases (groupsFor d choices t)).Nodup := by
  unfold groupsFor refreshGroups
  split
  · exact List.nodup_cons.2 ⟨hfree, hd⟩
  · exact hd

theorem Built.groups (h : Built p src choices asked t skipped b) (hd : src.document.Sound) :
    b.groups src.document = .ok (groupsFor src.document choices t) := by
  have hall : allGroups (refreshGroups choices t) src.document [] =
      groupsFor src.document choices t := List.append_nil _
  have hnodup : Recipe.duplicateAliases (groupsFor src.document choices t) = [] :=
    Recipe.duplicates_eq_nil_iff.2 (groupsFor_nodup hd.distinct hd.unreserved)
  simp only [Build.groups, h.before, h.after, hall, hnodup]

theorem Built.checked (h : Built p src choices asked t skipped b) (hd : src.document.Sound)
    (ht : t.Named) :
    b.checked src.document = .ok (groupsFor src.document choices t,
      { b.setting with initialized := .bool true }) := by
  have hsize : b.registry.size ≠ 0 := by
    rw [Registry.size, h.actions]
    decide
  have hlist (ss : List String) : isList (.ofStrings ss) = true := rfl
  have halias : t.aliasName ≠ "" := ht.1
  have hassign : b.setting.assign (.initialized (.bool true)) =
      .ok { b.setting with initialized := .bool true } :=
    Setting.assign_ok_iff.2 ⟨.inl h.incomplete, rfl⟩
  simp [Build.checked, hsize, h.groups hd, h.target, halias, h.skipActions, h.skipGroups, hlist,
    hassign, bind, Except.bind, pure, Except.pure]

theorem Built.readable (h : Built p src choices asked t skipped b) {groups : List Group}
    {st : Setting} {f : Fault} (hc : b.checked src.document = .ok (groups, st))
    (hs : Plan.skips st = .error f) : False := by
  obtain ⟨-, rfl⟩ := Build.checked_sound hc
  simp only [Plan.skips, h.skipGroups, h.skipActions, names_ofStrings] at hs
  cases hs

-- ---------------------------------------------------------------------------
-- Stopping before that
-- ---------------------------------------------------------------------------

/-- The faults with which the making of a demo may be refused. -/
inductive Refusal (p : Option (Prompter π)) : Fault → Prop
  | cancelled (text : String) : Refusal p (.of .installationCancelled text)
  | missingTarget (text : String) : Refusal p (.of .missingTargetOrg text)
  | failed {q : Prompter π} {f : Fault} (hp : p = some q) (hf : q.Fails f) : Refusal p f

theorem groupsQuestion_hashable {aliases skipped : List String} {c : Choice} {v : Value}
    (hc : c ∈ (groupsQuestion aliases skipped).choices) (hv : .value v = c.value) :
    hashable v = true := by
  obtain ⟨a, -, rfl⟩ := List.mem_map.1 hc
  cases hv
  rfl

theorem Stopped.refusal {f : Fault} (h : Stopped p d choices f) (hd : d.Sound)
    (hp : ∀ q, p = some q → q.Obedient) : Refusal p f := by
  cases h with
  | unknown => exact .missingTarget _
  | undeclared => exact .missingTarget _
  | undecided => exact .missingTarget _
  | unconfirmed => exact .cancelled _
  | declined => exact .cancelled _
  | failed hq hf => exact .failed hq hf
  | unlistable hq ha hi hv =>
    obtain ⟨items, heq, hitems⟩ := (hp _ hq).checkbox rfl ha
    cases heq
    obtain ⟨c, hc, hval⟩ := hitems _ hi
    rw [groupsQuestion_hashable hc hval] at hv
    cases hv
  | @malformed t ht hs =>
    have hnamed := hd.named t (ht fun q hq => (hp q hq).faithful)
    rw [hnamed.2] at hs
    cases hs

theorem compile_of_sound (hv : src.validated.truthy = true) (hd : src.document.Sound)
    (hp : ∀ q, p = some q → q.Obedient) :
    (e.compile (make p) src choices asked).result = .ok () ∨
      ∃ f, (e.compile (make p) src choices asked).result = .error f ∧ Refusal p f := by
  have hhooks := hooks_built p src choices asked
  cases hres : (e.compile (make p) src choices asked).result with
  | ok _ => exact .inl rfl
  | error f =>
    refine .inr ⟨f, rfl, ?_⟩
    cases Engine.compile_error hres with
    | unvalidated hno => simp [hv] at hno
    | hooks hr => exact (hhooks.error hr).refusal hd hp
    | unchecked hr hc =>
      obtain ⟨t, skipped, hb⟩ := hhooks.ok hr
      obtain ⟨log, more, s, hsel, -, -⟩ := hb.interview
      have ht := hd.named t (hsel.declared fun q hq => (hp q hq).faithful)
      rw [hb.checked hd ht] at hc
      cases hc
    | unreadable hr hc hs =>
      obtain ⟨t, skipped, hb⟩ := hhooks.ok hr
      exact (hb.readable hc hs).elim

/-- Of whatever recipe, compiling fails with a condition or stops in the hooks. -/
theorem compile_error {f : Fault} (h : (e.compile (make p) src choices asked).result = .error f) :
    f.isCondition = true ∨ Stopped p src.document choices f := by
  have hhooks := hooks_built p src choices asked
  cases Engine.compile_error h with
  | unvalidated => exact .inl rfl
  | hooks hr => exact .inr (hhooks.error hr)
  | unchecked _ hc => exact .inl (Build.checked_error hc)
  | unreadable hr hc hs =>
    obtain ⟨t, skipped, hb⟩ := hhooks.ok hr
    exact (hb.readable hc hs).elim

/-- A demo recipe that was accepted compiles, or there is no target for it, or it is called
off, unless the prompter fails. A prompter has only so many answers left (`Prompter.ask_lt`), so
asking comes to an end. -/
theorem accepted_compiles {data : Value} {project : Project} {source : Option Files.Path}
    {records : List Record} {r : Recipe}
    (h : (Recipe.ofData data project source).outcome = (.ok r, records))
    (ht : r.document.type = Recipe.demoType) {p : Option (Prompter π)}
    (hp : ∀ q, p = some q → q.Obedient) (e : Engine) (choices : Choices) (asked : π) :
    (e.compile (make p) r.toSource choices asked).result = .ok () ∨
      ∃ f, (e.compile (make p) r.toSource choices asked).result = .error f ∧ Refusal p f := by
  obtain ⟨hd, hvalidated⟩ := Recipe.sound_of_ofData h ht
  have hv : r.toSource.validated.truthy = true := by
    rw [Recipe.toSource, hvalidated]
    rfl
  exact compile_of_sound hv hd hp

/-- A recipe with two targets and a group. -/
def trialData : Value :=
  .dict [("recipeName", .str "Trial"), ("description", .str ""),
    ("recipeType", .str Recipe.demoType), ("recipeVersion", .str "1"),
    ("schemaVersion", .str "1"),
    ("options", .dict [("haltOnError", .bool true), ("skipGroups", .list []),
      ("skipActions", .list []),
      ("targetOrgs", .list [
        .dict [("orgName", .str "Sandbox"), ("alias", .str "sandbox"),
          ("description", .str "For trying out"), ("isScratchOrg", .bool true),
          ("scratchDefJson", .str "def.json")],
        .dict [("orgName", .str "Hub"), ("alias", .str "hub"), ("description", .str "For show"),
          ("isScratchOrg", .bool false), ("orgReqsJson", .str "reqs.json")]])]),
    ("recipeStepGroups", .list [
      .dict [("stepGroupName", .str "Deploy"), ("alias", .str "deploy"),
        ("description", .str "Brings it there"),
        ("recipeSteps", .list [
          .dict [("stepName", .str "Deploy"), ("action", .str "deploy-metadata")]])]]),
    ("handlers", .list [])]

def trial : Except Fault Recipe := (Recipe.ofData trialData default none).outcome.1

def trialReport (r : Recipe) : Engine.Report Unit :=
  (Engine.fresh Recipe.demoType label).compile (make none) r.toSource
    { target := some "sandbox", skipGroups := some ["deploy"] } ()

theorem trial_accepted :
    ∃ r, trial = .ok r ∧ r.document.type = Recipe.demoType ∧ (trialReport r).result = .ok () := by
  have h : trial.toOption.any (fun r =>
      r.document.type = Recipe.demoType && (trialReport r).result.toBool) = true := by
    decide +kernel
  cases hr : trial with
  | error f => simp [hr, Except.toOption] at h
  | ok r =>
    obtain ⟨ht, hres⟩ : r.document.type = Recipe.demoType ∧ (trialReport r).result.toBool = true := by
      simpa [hr, Except.toOption] using h
    cases hok : (trialReport r).result with
    | error f => simp [hok, Except.toBool] at hres
    | ok _ => exact ⟨r, rfl, ht, hok⟩

theorem trial_compiles :
    ∃ r, trial = .ok r ∧ r.document.type = Recipe.demoType ∧
      (∀ q, some Console.prompter = some q → q.Obedient) ∧
      ∀ (e : Engine) (choices : Choices) (c : Console),
        (e.compile (make (some Console.prompter)) r.toSource choices c).result = .ok () ∨
          ∃ f, (e.compile (make (some Console.prompter)) r.toSource choices c).result = .error f ∧
            Refusal (some Console.prompter) f := by
  have hp : ∀ q, some Console.prompter = some q → q.Obedient := by
    rintro _ ⟨⟩
    exact Console.prompter_obedient
  obtain ⟨r, hr, ht, -⟩ := trial_accepted
  exact ⟨r, hr, ht, hp, accepted_compiles (Prod.ext hr rfl) ht hp⟩

-- ---------------------------------------------------------------------------
-- The tree
-- ---------------------------------------------------------------------------

end Provision.Plan.Demo
