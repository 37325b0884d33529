import Provision.Plan.Demo
import Provision.Proofs.Interview.Exchange
import Provision.Proofs.Plan.Compiled
import Provision.Proofs.Recipe.RecordLaws
import Provision.Proofs.Text.Ascii

/-!
# What the hooks of a demo build

The hooks say one by one what they fill in, or why they stop (`Stopped`). Put together
they leave a build that says which target was selected, with consent if it is to be made
anew, and which groups and actions are to be left out (`hooks_built`).
-/

namespace Provision.Plan.Demo

open Recipe (Document Group Target)
open Interview
open Hook (Triple)

variable {π : Type} {b : Build π} {d : Document} {p : Option (Prompter π)} {c : Choices}

/-- Why a target may be made anew, with what was said about it. -/
inductive Consent (d : Document) (c : Choices) (t : Target) : List Exchange → Prop
  /-- The caller named the target. -/
  | named (ht : t ∈ d.options.targets) (hn : c.target = some t.aliasName) : Consent d c t []
  /-- There is no other target, and the caller said yes beforehand. -/
  | beforehand (ht : d.options.targets = [t]) (hy : c.assumeYes = true) : Consent d c t []
  /-- There is no other target, and its deletion was confirmed. -/
  | only {yes : Answer} (ht : d.options.targets = [t]) (hy : yes.truthy = true) :
      Consent d c t [consents t yes]
  /-- In the last round the target was picked and its deletion confirmed. All rounds before
  ended with a no. -/
  | picked {rounds : List Exchange} {yes : Answer} (hd : Declined d.options.targets rounds)
      (hy : yes.truthy = true) :
      Consent d c t (rounds ++ [picks d.options.targets t, confirms t yes])

/-- Why compiling stops. The last two want a prompter that answers with something it was not
offered, or a target that no recipe can declare. -/
inductive Stopped (p : Option (Prompter π)) (d : Document) (c : Choices) : Fault → Prop
  | unknown {name : String} (hn : c.target = some name) (ht : d.target? name = none)
      (text : String) : Stopped p d c (missingTarget text)
  | undeclared (ht : d.options.targets = []) (text : String) : Stopped p d c (missingTarget text)
  | undecided (hp : p = none) (ht : 2 ≤ d.options.targets.length) (text : String) :
      Stopped p d c (missingTarget text)
  | unconfirmed {t : Target} (hp : p = none) (ht : d.options.targets = [t]) :
      Stopped p d c (noConsent t)
  | declined (hp : p.isSome = true) : Stopped p d c cancelled
  | failed {q : Prompter π} {f : Fault} (hp : p = some q) (hf : q.Fails f) : Stopped p d c f
  | unlistable {q : Prompter π} {aliases skipped : List String} {message : String} {s s' : π}
      {items : List Answer} {v : Value} (hp : p = some q)
      (ha : q.ask (groupsQuestion aliases skipped) message s = (.ok (.several items), s'))
      (hi : .value v ∈ items) (hv : hashable v = false) (text : String) :
      Stopped p d c (.mishap .wrongKind text)
  | malformed {t : Target} (ht : (∀ q, p = some q → q.Faithful) → t ∈ d.options.targets)
      (hs : Text.hasSurrogate t.aliasName = true) (problems : List Schema.Problem) :
      Stopped p d c (.shape problems)

-- ---------------------------------------------------------------------------
-- Selecting the target
-- ---------------------------------------------------------------------------

/-- A target has been selected in some exchanges, with consent if it is to be made anew. -/
structure Selected (p : Option (Prompter π)) (d : Document) (c : Choices) (s : π) (t : Target)
    (log : List Exchange) (s' : π) : Prop where
  asked : Asked p s log s'
  declared : (∀ q, p = some q → q.Faithful) → t ∈ d.options.targets
  consent : refreshes c t = true → Consent d c t log

theorem triple_consent {t : Target} (ht : d.options.targets = [t]) :
    Triple (consent p c t) b
      (fun _ b' => ∃ s log, b' = { b with asked := s } ∧ Selected p d c b.asked t log s)
      (Stopped p d c) := by
  have hd : (∀ q, p = some q → q.Faithful) → t ∈ d.options.targets := by simp [ht]
  unfold consent
  split
  · cases p with
    | none => exact .throw (.unconfirmed rfl ht)
    | some q =>
      refine (Hook.triple_ask fun f s hf => ?_).imp ?_
      · rcases confirmRefresh_fails hf with rfl | hf
        · exact .declined rfl
        · exact .failed rfl hf
      · rintro _ _ ⟨s, hs, rfl⟩
        obtain ⟨yes, hasked, hy⟩ := confirmRefresh_asked hs
        exact ⟨s, _, rfl, hasked, hd, fun _ => .only ht hy⟩
  · next hneed =>
    refine .pure ⟨b.asked, [], rfl, .none, hd, fun hr => .beforehand ht ?_⟩
    simp only [refreshes, Bool.and_eq_true, Bool.not_eq_true'] at hr
    simpa [hr] using hneed

theorem triple_selectTarget :
    Triple (selectTarget p d c) b
      (fun t b' => ∃ s log, b' = { b with asked := s } ∧ Selected p d c b.asked t log s)
      (Stopped p d c) := by
  unfold selectTarget
  dsimp only
  split
  · next hn =>
    obtain ⟨name, hname⟩ : ∃ name, c.target = some name := by
      cases hc : c.target with
      | none => simp [hc] at hn
      | some name => exact ⟨name, rfl⟩
    rw [hname, Option.getD_some]
    cases ht : d.target? name with
    | none => exact .throw (.unknown hname ht _)
    | some t =>
      have hmem : t ∈ d.options.targets := List.mem_of_find?_eq_some ht
      have ha : t.aliasName = name := by simpa using List.find?_some ht
      exact .pure ⟨b.asked, [], rfl, .none, fun _ => hmem, fun _ => .named hmem (ha ▸ hname)⟩
  · split
    · next ht => exact .throw (.undeclared ht _)
    · next t ht => exact .bind (triple_consent ht) fun _ b' h => .pure h
    · next ts hnil hone =>
      refine .throw (.undecided rfl ?_ _)
      match hts : d.options.targets with
      | [] => exact (hnil hts).elim
      | [t] => exact (hone t hts).elim
      | _ :: _ :: _ => simp
    · next ts q _ _ =>
      refine (Hook.triple_ask fun f s hf => ?_).imp ?_
      · rcases chooseTarget_fails hf with rfl | hf
        · exact .declined rfl
        · exact .failed rfl hf
      · rintro t _ ⟨s, hs, rfl⟩
        obtain ⟨rounds, yes, hasked, hdecl, hy⟩ := chooseTarget_asked hs
        exact ⟨s, _, rfl, hasked, hasked.mem_targets, fun _ => .picked hdecl hy⟩

theorem triple_setTarget (ho : b.setting.frozen = false) :
    Triple (setTarget p d) b
      (fun _ b' => ∃ t s log records,
        b' = { b with setting := { b.setting with target := some t }, asked := s, records } ∧
          Selected p d b.setting.choices b.asked t log s)
      (Stopped p d b.setting.choices) := by
  refine .get (.bind triple_selectTarget fun t b₁ h₁ => ?_)
  obtain ⟨s, log, rfl, hs⟩ := h₁
  refine .bind (Hook.triple_note _) fun _ b₂ h₂ => ?_
  subst h₂
  refine (Hook.triple_assign (by exact ho) _).imp ?_
  rintro _ _ rfl
  exact ⟨t, s, log, _, rfl, hs⟩

-- ---------------------------------------------------------------------------
-- Making it anew
-- ---------------------------------------------------------------------------

def refreshGroups (c : Choices) (t : Target) : List Group :=
  if refreshes c t then [refreshGroup t] else []

theorem refreshGroup_sound {t : Target} (h : Text.hasSurrogate t.aliasName = false) :
    (refreshGroup t).Sound where
  name := (by decide : Schema.Worded "Refresh Scratch Org")
  aliasName := (by decide : Schema.Worded refreshAlias)
  description := by
    show Schema.Worded ("Delete and recreate the scratch org '" ++ t.aliasName ++ "'")
    refine ⟨by simp, ?_⟩
    rw [Text.hasSurrogate_append_ascii (by decide), Text.hasSurrogate_ascii_append (by decide), h]
  steps := by
    intro s hs
    simp only [refreshGroup, List.mem_cons, List.not_mem_nil, or_false] at hs
    have hnames : Schema.Worded "Delete Scratch Org" ∧ Schema.Worded "Create Scratch Org" := by decide
    have hactions (name : ActionName) : Schema.Worded name.text := by cases name <;> decide
    rcases hs with rfl | rfl
    · exact ⟨hnames.1, hactions .deleteScratchOrg⟩
    · exact ⟨hnames.2, hactions .createScratchOrg⟩

theorem formed_ok {g g' : Group} (h : formed g = .ok g') : g' = g := by
  unfold formed at h
  cases hr : Group.read (g.record .snake) with
  | error ps =>
    rw [hr] at h
    cases h
  | ok g₁ =>
    obtain ⟨rfl, -⟩ := Group.read_record.1 hr
    rw [hr] at h
    exact (Except.ok.inj h).symm

theorem formed_error {g : Group} {f : Fault} (h : formed g = .error f) :
    ¬g.Sound ∧ ∃ problems, f = .shape problems := by
  unfold formed at h
  cases hr : Group.read (g.record .snake) with
  | error ps =>
    rw [hr] at h
    refine ⟨fun hs => ?_, ps, (Except.error.inj h).symm⟩
    rw [Group.read_record.2 ⟨rfl, hs⟩] at hr
    cases hr
  | ok g₁ =>
    rw [hr] at h
    cases h

theorem triple_supplyRefresh {t : Target} (ht : b.setting.target = some t)
    (hd : (∀ q, p = some q → q.Faithful) → t ∈ d.options.targets) :
    Triple supplyRefresh b
      (fun _ b' => b' = { b with before := .groups (refreshGroups b.setting.choices t) })
      (Stopped p d b.setting.choices) := by
  refine .get ?_
  dsimp only
  rw [ht, refreshGroups]
  cases hr : refreshes b.setting.choices t with
  | false =>
    simp only [Option.filter_some, hr, Bool.false_eq_true, if_false]
    exact Hook.triple_modify _
  | true =>
    simp only [Option.filter_some, hr, if_true]
    split
    · next g hg => exact formed_ok hg ▸ Hook.triple_modify _
    · next f hf =>
      obtain ⟨hn, problems, rfl⟩ := formed_error hf
      refine .throw (.malformed hd ?_ problems)
      exact eq_true_of_ne_false fun hs => hn (refreshGroup_sound hs)

-- ---------------------------------------------------------------------------
-- What to leave out
-- ---------------------------------------------------------------------------

def ticks (aliases skipped : List String) (a : Answer) : Exchange :=
  ⟨groupsQuestion aliases skipped, "Select the step groups to install", a⟩

/-- Which groups are left out, and what was said about it. -/
inductive LeavesOut (p : Option (Prompter π)) (d : Document) (c : Choices)
    (aliases : List String) : List Exchange → List String → Prop
  | named {skipped : List String} (h : c.skipGroups = some skipped) :
      LeavesOut p d c aliases [] skipped
  | declared (h : c.skipGroups = none)
      (hw : c.customInstall = false ∨ d.options.noCustomInstall = true ∨ p = none) :
      LeavesOut p d c aliases [] d.options.skipGroups
  | unchecked {a : Answer} {skipped : List String} (h : c.skipGroups = none)
      (hw : c.customInstall = true ∧ d.options.noCustomInstall = false ∧ p.isSome = true)
      (ha : unchecked aliases [("installGroups", a)] = .ok skipped) :
      LeavesOut p d c aliases [ticks aliases d.options.skipGroups a] skipped

theorem LeavesOut.kind {aliases skipped : List String} {log : List Exchange}
    (h : LeavesOut p d c aliases log skipped) : ∀ x ∈ log, x.question.kind = .checkbox := by
  cases h with
  | unchecked => simp [ticks, groupsQuestion]
  | _ => simp

theorem groupsQuestion_sound (aliases skipped : List String) :
    (groupsQuestion aliases skipped).Sound := ⟨fun _ => ⟨_, rfl⟩, fun _ h => by cases h⟩

theorem askSkips_ok {q : Prompter π} {aliases skipped out : List String} {s s' : π}
    (h : askSkips q aliases skipped s = (.ok out, s')) :
    ∃ a, Asked (some q) s [ticks aliases skipped a] s' ∧
      unchecked aliases [("installGroups", a)] = .ok out := by
  unfold askSkips at h
  split at h
  · cases h
  · next answers s₁ hi =>
    obtain ⟨log, hlog, hans⟩ := interview_asked hi
    obtain ⟨message, a, rest, rfl, hm, h₁⟩ := hans.of_visible rfl
    cases hm
    cases h₁
    obtain ⟨hout, rfl⟩ := Prod.mk.inj h
    exact ⟨a, hlog, hout⟩

theorem unchecked_error {aliases : List String} {answers : Answers} {f : Fault}
    (h : unchecked aliases answers = .error f) :
    ∃ items v text, answers.lookup "installGroups" = some (.several items) ∧ .value v ∈ items ∧
      hashable v = false ∧ f = .mishap .wrongKind text := by
  unfold unchecked at h
  split at h
  · next items hitems =>
    split at h
    · next g hg =>
      cases h
      obtain ⟨i, hi, hs⟩ := List.exists_of_findSome?_eq_some hg
      unfold unchecked.stranger? at hs
      split at hs
      · next v =>
        split at hs
        · cases hs
        · next hv =>
          cases hs
          exact ⟨items, v, _, hitems, hi, Bool.eq_false_iff.2 hv, rfl⟩
      · cases hs
    · cases h
  · cases h

theorem askSkips_error {q : Prompter π} {aliases : List String} {s s' : π} {f : Fault}
    (h : askSkips q aliases d.options.skipGroups s = (.error f, s')) :
    Stopped (some q) d c f := by
  unfold askSkips at h
  split at h
  · next g s₁ hi =>
    cases h
    refine .failed rfl (askAll_fails (fun x hx => ?_) hi)
    exact List.mem_singleton.1 hx ▸ groupsQuestion_sound ..
  · next answers s₁ hi =>
    obtain ⟨log, hlog, hans⟩ := interview_asked hi
    obtain ⟨message, a, rest, rfl, hm, h₁⟩ := hans.of_visible rfl
    cases hm
    cases h₁
    obtain ⟨items, v, text, ha, hv, hh, rfl⟩ := unchecked_error (congrArg Prod.fst h)
    cases ha
    cases hlog with
    | answered hp ha _ =>
      exact .unlistable hp ha hv hh text

theorem triple_setSkipGroups (ho : b.setting.frozen = false) {aliases : List String}
    (ha : Recipe.groupAliases (allGroups (b.before.groups?.getD []) d (b.after.groups?.getD [])) =
      aliases) :
    Triple (setSkipGroups p d) b
      (fun _ b' => ∃ skipped s records log,
        b' = { b with
          setting := { b.setting with skipGroups := .ofStrings skipped }, asked := s, records } ∧
        Asked p b.asked log s ∧ LeavesOut p d b.setting.choices aliases log skipped)
      (Stopped p d b.setting.choices) := by
  -- However the groups are found, the last thing done is to fill them in.
  have hfill : ∀ (b₁ : Build π) (skipped : List String) (s : π) (records : List Record)
      (log : List Exchange), b₁ = { b with asked := s, records } → Asked p b.asked log s →
      LeavesOut p d b.setting.choices aliases log skipped →
      Triple (Hook.assign (.skipGroups (.ofStrings skipped))) b₁
        (fun _ b' => ∃ skipped s records log,
          b' = { b with
            setting := { b.setting with skipGroups := .ofStrings skipped }, asked := s, records } ∧
          Asked p b.asked log s ∧ LeavesOut p d b.setting.choices aliases log skipped)
        (Stopped p d b.setting.choices) := by
    rintro b₁ skipped s records log rfl hlog hl
    refine (Hook.triple_assign (by exact ho) _).imp ?_
    rintro _ _ rfl
    exact ⟨skipped, s, records, log, rfl, hlog, hl⟩
  refine .get ?_
  dsimp only
  rw [ha]
  split
  · next skipped hs => exact hfill b _ _ _ [] rfl .none (.named hs)
  · next hs =>
    split
    · next hw =>
      refine hfill b _ _ _ [] rfl .none (.declared hs ?_)
      rcases Bool.or_eq_true_iff.1 hw with hw | hw
      · exact .inl (by simpa using hw)
      · exact .inr (.inl hw)
    · next hw =>
      split
      · refine .bind (Hook.triple_note _) fun _ b₁ h₁ => ?_
        exact hfill b₁ _ _ _ [] h₁ .none (.declared hs (.inr (.inr rfl)))
      · next q =>
        refine .bind (Hook.triple_ask fun f s hf => askSkips_error hf) fun skipped b₁ h₁ => ?_
        obtain ⟨s, hq, rfl⟩ := h₁
        obtain ⟨a, hasked, hun⟩ := askSkips_ok hq
        refine hfill _ _ _ _ _ rfl hasked (.unchecked hs ?_ hun)
        simpa using hw

-- ---------------------------------------------------------------------------
-- The other hooks
-- ---------------------------------------------------------------------------

theorem triple_setContext {E : Fault → Prop} (ho : b.setting.frozen = false) :
    Triple (setContext d) b
      (fun _ b' => ∃ devHub logLevel,
        b' = { b with setting := { b.setting with
          isExecuting := .bool false
          devHub
          haltOnError := .bool (b.setting.choices.haltOnError.getD d.options.haltOnError)
          logLevel } }) E := by
  refine .get ?_
  refine .bind (Hook.triple_assign (by exact ho) _) fun _ b₁ h₁ => ?_
  subst h₁
  refine .bind (Hook.triple_assign (by exact ho) _) fun _ b₂ h₂ => ?_
  subst h₂
  refine .bind (Hook.triple_assign (by exact ho) _) fun _ b₃ h₃ => ?_
  subst h₃
  refine (Hook.triple_assign (by exact ho) _).imp ?_
  rintro _ _ rfl
  exact ⟨_, _, rfl⟩

theorem triple_setSkipActions {E : Fault → Prop} (ho : b.setting.frozen = false) :
    Triple (setSkipActions d) b
      (fun _ b' => b' = { b with setting := { b.setting with
        skipActions := .ofStrings (b.setting.choices.skipActions.getD d.options.skipActions) } })
      E := by
  refine .get ?_
  exact Hook.triple_assign (by exact ho) _

theorem register_ofName (r : Registry) (name : ActionName) :
    ∃ records, r.register (.ofName name) =
      ⟨{ r with actions := Registry.put name (.ofName name) r.actions }, none, records⟩ := by
  have hname : ActionName.lookup? (Action.ofName name).name = some name :=
    ActionName.lookup?_eq_some_iff.2 rfl
  rw [Registry.register, hname]
  exact ⟨_, rfl⟩

def registered (names : List ActionName) (actions : List (ActionName × Action)) :
    List (ActionName × Action) :=
  names.foldl (fun actions name => Registry.put name (.ofName name) actions) actions

theorem triple_registerAll {E : Fault → Prop} (names : List ActionName) :
    Triple (registerAll names) b
      (fun _ b' => ∃ records, b' = { b with
        registry := { b.registry with actions := registered names b.registry.actions }, records })
      E := by
  induction names generalizing b with
  | nil => exact .pure ⟨b.records, rfl⟩
  | cons name rest ih =>
    obtain ⟨records, hr⟩ := register_ofName b.registry name
    refine .bind (Hook.triple_register hr) fun _ b₁ h₁ => ?_
    subst h₁
    exact ih

theorem registered_all :
    registered ActionName.all [] = ActionName.all.map fun name => (name, .ofName name) := rfl

-- ---------------------------------------------------------------------------
-- All hooks
-- ---------------------------------------------------------------------------

/-- All groups there are for a target, in the order in which they would run. -/
def groupsFor (d : Document) (c : Choices) (t : Target) : List Group :=
  refreshGroups c t ++ d.groups

structure Built (p : Option (Prompter π)) (src : Engine.Source) (choices : Choices) (asked : π)
    (t : Target) (skipped : List String) (b : Build π) : Prop where
  interview : ∃ log more s, Selected p src.document choices asked t log s ∧
    Asked p s more b.asked ∧ LeavesOut p src.document choices
      (Recipe.groupAliases (groupsFor src.document choices t)) more skipped
  target : b.setting.target = some t
  incomplete : b.setting.frozen = false
  project : b.setting.project = src.project
  before : b.before = .groups (refreshGroups choices t)
  after : b.after = .groups []
  halt : b.setting.haltOnError =
    .bool (choices.haltOnError.getD src.document.options.haltOnError)
  skipActions : b.setting.skipActions =
    .ofStrings (choices.skipActions.getD src.document.options.skipActions)
  skipGroups : b.setting.skipGroups = .ofStrings skipped
  actions : b.registry.actions = ActionName.all.map fun name => (name, .ofName name)

theorem triple_hook {phase : Phase} {rest : List Phase} {P Q : Unit → Build π → Prop}
    {E : Fault → Prop} (h : Triple (hook p phase d) { b with begun := b.begun ++ [phase] } P E)
    (hr : ∀ b', P () b' → Triple (runHooks (make p) d rest) b' Q E) :
    Triple (runHooks (make p) d (phase :: rest)) b Q E := by
  refine .bind (Hook.triple_modify _) fun _ b₁ h₁ => ?_
  subst h₁
  exact .bind h fun _ => hr

/-- The hooks build what there is for the target that was selected, or stop for a reason. -/
theorem hooks_built (p : Option (Prompter π)) (src : Engine.Source) (choices : Choices)
    (asked : π) :
    Triple (runHooks (make p) src.document Phase.all)
      (Engine.slate (make p).type src choices asked)
      (fun _ b => ∃ t skipped, Built p src choices asked t skipped b)
      (Stopped p src.document choices) := by
  refine triple_hook (triple_setContext rfl) fun b₁ h₁ => ?_
  obtain ⟨devHub, logLevel, rfl⟩ := h₁
  refine triple_hook (triple_setTarget rfl) fun b₂ h₂ => ?_
  obtain ⟨t, s, log, records, rfl, hsel⟩ := h₂
  refine triple_hook (triple_supplyRefresh rfl hsel.declared) fun b₃ h₃ => ?_
  subst h₃
  refine triple_hook (Hook.triple_modify _) fun b₄ h₄ => ?_
  subst h₄
  refine triple_hook (triple_setSkipActions rfl) fun b₅ h₅ => ?_
  subst h₅
  refine triple_hook (triple_setSkipGroups rfl rfl) fun b₆ h₆ => ?_
  obtain ⟨skipped, s', records', more, rfl, hmore, hout⟩ := h₆
  refine triple_hook (triple_registerAll _) fun b₇ h₇ => ?_
  obtain ⟨records'', rfl⟩ := h₇
  refine .pure ⟨t, skipped, ⟨log, more, s, hsel, hmore, ?_⟩, rfl, rfl, rfl, rfl, rfl, rfl, rfl,
    rfl, registered_all⟩
  simpa [Engine.slate, Supplied.groups?, allGroups, groupsFor] using hout

theorem built_of_compiled {e : Engine} {src : Engine.Source} {choices : Choices} {asked : π}
    {gs : List Group} {sk : Skips}
    (h : Engine.Compiled (make p) e src choices asked b gs sk) :
    ∃ t, Built p src choices asked t sk.groups b ∧ gs = groupsFor src.document choices t ∧
      sk.actions = choices.skipActions.getD src.document.options.skipActions := by
  obtain ⟨t, skipped, hb⟩ := (hooks_built p src choices asked).ok h.hooks
  have hgs := h.sound.groups
  have hsk := h.skips
  simp only [skips, hb.skipGroups, hb.skipActions, names_ofStrings] at hsk
  cases hsk
  refine ⟨t, hb, ?_, rfl⟩
  simp only [Build.groups, hb.before, hb.after] at hgs
  split at hgs
  · cases hgs
    simp [groupsFor, allGroups]
  · cases hgs

end Provision.Plan.Demo
