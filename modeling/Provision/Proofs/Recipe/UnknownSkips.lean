import Provision.Proofs.Plan.Checklist
import Provision.Proofs.Recipe.History
import Provision.Proofs.Recipe.LoadingLaws
import Provision.Validation

/-!
# Groups that a recipe skips without having them

A validation warns of each name in the list of skipped groups that is the alias of no group
of the recipe. What is skipped makes a difference to the groups that there are, and to
nothing else, so such a name is idle where it is none of those either that an engine
supplies (`compile_unskipping`). The engine supplies a group for scratch orgs, and of its
alias the validation knows nothing: there the warning is wrong (`unknown_skip_idle_iff`).
-/

namespace Provision

open Interview (Prompter)
open Plan (Engine Tree)

def Recipe.Document.unskipping (d : Recipe.Document) (a : String) : Recipe.Document :=
  { d with options := { d.options with skipGroups := d.options.skipGroups.filter (· ≠ a) } }

def Recipe.unskipping (r : Recipe) (a : String) : Recipe :=
  { r with document := r.document.unskipping a }

namespace Plan

variable {π : Type}

def Engine.Source.unskipping (src : Engine.Source) (a : String) : Engine.Source :=
  { src with document := src.document.unskipping a }

/-- Two compiles that came to the same tree or to the same fault, and asked for the same. -/
structure Engine.Report.Alike (x y : Engine.Report π) : Prop where
  result : x.result = y.result
  tree : x.engine.tree = y.engine.tree
  asked : x.asked = y.asked

namespace Demo

open Recipe (Document Group Target)

variable {p : Option (Prompter π)} {d : Document} {src : Engine.Source} {c : Choices} {s : π}
  {e : Engine} {a : String} {aliases : List String}

-- ---------------------------------------------------------------------------
-- What is skipped
-- ---------------------------------------------------------------------------

theorem groupsQuestion_filter (h : a ∉ aliases) (skipped : List String) :
    Interview.groupsQuestion aliases (skipped.filter (· ≠ a)) =
      Interview.groupsQuestion aliases skipped := by
  have hchoice : ∀ x ∈ aliases,
      Interview.Choice.of x (.value (.str x)) "" (!(skipped.filter (· ≠ a)).contains x) =
        Interview.Choice.of x (.value (.str x)) "" (!skipped.contains x) := by
    intro x hx
    have hne : x ≠ a := fun heq => h (heq ▸ hx)
    congr 2
    simp [hne]
  simp only [Interview.groupsQuestion, List.map_congr_left hchoice]

theorem skipping_unskipping (h : a ∉ aliases) (p : Option (Prompter π)) (d : Document)
    (c : Choices) (s : π) :
    (∃ f s', skipping p d c aliases s = (.error f, s') ∧
      skipping p (d.unskipping a) c aliases s = (.error f, s')) ∨
    ∃ sk sk' s', skipping p d c aliases s = (.ok sk, s') ∧
      skipping p (d.unskipping a) c aliases s = (.ok sk', s') ∧
      ∀ x ∈ aliases, x ∈ sk ↔ x ∈ sk' := by
  have husual : ∀ x ∈ aliases, x ∈ c.skipGroups.getD d.options.skipGroups ↔
      x ∈ c.skipGroups.getD (d.unskipping a).options.skipGroups := by
    intro x hx
    have hne : x ≠ a := fun heq => h (heq ▸ hx)
    cases c.skipGroups <;> simp [Document.unskipping, hne]
  have hchooses : chooses (d.unskipping a) c = chooses d c := rfl
  cases hc : chooses d c with
  | false =>
    rw [skipping_of_not_chooses hc, skipping_of_not_chooses (hchooses.trans hc)]
    exact .inr ⟨_, _, _, rfl, rfl, husual⟩
  | true =>
    cases p with
    | none => exact .inr ⟨_, _, _, rfl, rfl, husual⟩
    | some q =>
      have hask : askSkips q aliases (d.unskipping a).options.skipGroups s =
          askSkips q aliases d.options.skipGroups s := by
        simp only [askSkips, Document.unskipping, groupsQuestion_filter h]
      simp only [skipping, hchooses, hc, if_true, hask]
      cases askSkips q aliases d.options.skipGroups s with
      | mk r s' =>
        cases r with
        | error f => exact .inl ⟨f, s', rfl, rfl⟩
        | ok sk => exact .inr ⟨sk, sk, s', rfl, rfl, fun _ _ => Iff.rfl⟩

-- ---------------------------------------------------------------------------
-- What is compiled
-- ---------------------------------------------------------------------------

theorem alike_of_error {src' : Engine.Source} {b b' : Build Unit} {s₁ : π} {f : Fault}
    (hv : src.validated.truthy = true) (hv' : src'.validated.truthy = true)
    (h : (runHooks (make p) src.document Phase.all).run.run
      (Engine.slate (make p).type src c s) = (.error f, b.facing s₁))
    (h' : (runHooks (make p) src'.document Phase.all).run.run
      (Engine.slate (make p).type src' c s) = (.error f, b'.facing s₁)) :
    (e.compile (make p) src' c s).Alike (e.compile (make p) src c s) := by
  refine ⟨?_, ?_, (compile_holding h' hv').1.trans (compile_holding h hv).1.symm⟩
  · simp [Engine.compile, hv, hv', h, h']
  · simp [Engine.compile, hv, hv', h, h', Engine.holding]

theorem compile_unskipping {question : π → Except Fault Target × π}
    (hv : src.validated.truthy = true)
    (hq : Hook.Inquires (selectTarget p src.document c) question)
    (hidle : ∀ t gs s₁, question s = (.ok t, s₁) → supplied c t = .ok gs →
      a ∉ Recipe.groupAliases (gs ++ src.document.groups)) :
    (e.compile (make p) (src.unskipping a) c s).Alike (e.compile (make p) src c s) := by
  have hv' : (src.unskipping a).validated.truthy = true := hv
  have hq' : Hook.Inquires (selectTarget p (src.unskipping a).document c) question := hq
  have hrun := hooks_run p src c s hq
  have hrun' := hooks_run p (src.unskipping a) c s hq'
  cases hs : question s with
  | mk r s₁ =>
    rw [hs] at hrun hrun'
    cases r with
    | error f => exact alike_of_error hv hv' hrun hrun'
    | ok t =>
      dsimp only at hrun hrun'
      cases hg : supplied c t with
      | error f =>
        rw [hg] at hrun hrun'
        exact alike_of_error hv hv' hrun hrun'
      | ok gs =>
        have hskips := skipping_unskipping (hidle t gs s₁ hs hg) p src.document c s₁
        rw [show src.document.unskipping a = (src.unskipping a).document from rfl] at hskips
        rw [show (src.unskipping a).document.groups = src.document.groups from rfl] at hrun'
        obtain ⟨f, s₂, hk, hk'⟩ | ⟨sk, sk', s₂, hk, hk', hsame⟩ := hskips
        · simp only [hg, hk] at hrun
          simp only [hg, hk'] at hrun'
          exact alike_of_error hv hv' hrun hrun'
        · simp only [hg, hk] at hrun
          simp only [hg, hk'] at hrun'
          obtain ⟨hresult, htree⟩ := compile_filled (e := e) hv hrun
          obtain ⟨hresult', htree'⟩ := compile_filled (e := e) hv' hrun'
          have hvetted : vetted (src.unskipping a) t gs = vetted src t gs := rfl
          refine ⟨?_, ?_, (compile_holding hrun' hv').1.trans (compile_holding hrun hv).1.symm⟩
          · exact (hresult'.trans (congrArg _ hvetted)).trans hresult.symm
          refine htree'.trans (Eq.trans ?_ htree.symm)
          rw [hvetted]
          cases hgs : vetted src t gs with
          | error f => rfl
          | ok groups =>
            cases groups_of_vetted hgs
            refine congrArg some (Tree.ofGroups_congr fun g hg => ?_)
            exact (hsame g.aliasName (List.mem_map_of_mem hg)).symm

theorem notMem_supplied {t : Target} {gs : List Group} (ha : a ∉ d.aliases)
    (ht : a = refreshAlias → t.isScratchOrg = false) (hg : supplied c t = .ok gs) :
    a ∉ Recipe.groupAliases (gs ++ d.groups) := by
  intro hmem
  obtain ⟨g, hgroup, rfl⟩ := List.mem_map.1 hmem
  rcases List.mem_append.1 hgroup with hgroup | hgroup
  · have hno : refreshes c t = false := by
      simp [refreshes, ht (aliasName_of_supplied hg g hgroup)]
    simp only [supplied, hno, Bool.false_eq_true, if_false, Except.ok.injEq] at hg
    simp [← hg] at hgroup
  · exact ha (List.mem_map_of_mem hgroup)

theorem declared_of_inquires {question : π → Except Fault Target × π}
    (hq : Hook.Inquires (selectTarget p d c) question) (hp : ∀ q, p = some q → q.Faithful)
    {t : Target} {s₁ : π} (hs : question s = (.ok t, s₁)) : t ∈ d.options.targets := by
  let b : Build π := Engine.slate Recipe.demoType ⟨d, default, .null⟩ c s
  have hrun : (selectTarget p d c).run.run b = (.ok t, { b with asked := s₁ }) := by
    rw [hq b, show question b.asked = (.ok t, s₁) from hs]
  obtain ⟨_, _, -, hsel⟩ := triple_selectTarget.ok hrun
  exact hsel.declared hp

theorem compile_for_named (e : Engine) (src : Engine.Source) {t : Target}
    (hv : src.validated.truthy = true) (hd : src.document.Sound) (hc : c.target = some t.aliasName)
    (hfound : src.document.target? t.aliasName = some t) (ht : t.Named) :
    (e.compile (make (none : Option (Prompter Unit))) src c ()).result = .ok () ∧
      (e.compile (make (none : Option (Prompter Unit))) src c ()).engine.tree =
        some (Tree.ofGroups ⟨c.skipGroups.getD src.document.options.skipGroups,
            c.skipActions.getD src.document.options.skipActions⟩
          (refreshGroups c t ++ src.document.groups)) := by
  have hrun (c : Choices) (hc : c.target = some t.aliasName) :
      (runHooks (make (none : Option (Prompter Unit))) src.document Phase.all).run.run
          (Engine.slate (make (none : Option (Prompter Unit))).type src c ()) =
        (.ok (), (filled src c t (refreshGroups c t)
          (c.skipGroups.getD src.document.options.skipGroups)
          (remarks (none : Option (Prompter Unit)) src.document c)).facing ()) := by
    have hq : Hook.Inquires (selectTarget (none : Option (Prompter Unit)) src.document c)
        fun s => (.ok t, s) := by
      rw [selectTarget_of_found (by simpa [hc] using ht.1) (by simpa [hc] using hfound)]
      exact .pure t
    rw [hooks_run none src c () hq]
    simp only [supplied_named ht]
    rfl
  -- With the skips told the build is in order, and the skips make no difference to that.
  obtain ⟨groups, hgroups⟩ : ∃ groups, vetted src t (refreshGroups c t) = .ok groups := by
    have htold := hrun { c with skipGroups := some [] } hc
    have hok := told_compiles (e := e) hv hd rfl ht (compile_target htold hv)
    rw [(compile_filled hv htold).1] at hok
    cases hvetted : vetted src t (refreshGroups c t) with
    | ok groups => exact ⟨groups, rfl⟩
    | error f =>
      rw [show refreshGroups { c with skipGroups := some [] } t = refreshGroups c t from rfl,
        hvetted] at hok
      cases hok
  obtain ⟨hresult, htree⟩ := compile_filled (e := e) hv (hrun c hc)
  rw [hresult, htree, hgroups, groups_of_vetted hgroups]
  exact ⟨rfl, rfl⟩

end Demo

end Plan

namespace Recipe

variable {π : Type} {p : Option (Prompter π)} {choices : Choices} {asked : π} {r : Recipe}
  {a : String}

open Plan.Demo (refreshAlias)

theorem compile_eq (hv : r.validated.truthy = true) (ht : r.document.type = demoType)
    (p : Option (Prompter π)) (choices : Choices) (asked : π) :
    (r.compile p choices asked).result.map (·.tree) =
        (r.compiling p choices asked).result.map
          (fun _ => (r.compiling p choices asked).engine.tree) ∧
      (r.compile p choices asked).asked = (r.compiling p choices asked).asked := by
  have hengine : hasEngine r.document.type = true := by simp [hasEngine, ht]
  simp only [compile, compiling, hv, hengine, Bool.not_true, Bool.false_eq_true, if_false]
  split
  · next hr => exact ⟨by rw [hr]; rfl, rfl⟩
  · next f hr => exact ⟨by rw [hr]; rfl, rfl⟩

/-- Compiling comes to the same with a name among the skipped groups and without it: to the same
tree or the same fault, after the same questions. -/
def Idle (r : Recipe) (a : String) (p : Option (Prompter π)) (choices : Choices) (asked : π) :
    Prop :=
  ((r.unskipping a).compile p choices asked).result.map (·.tree) =
      (r.compile p choices asked).result.map (·.tree) ∧
    ((r.unskipping a).compile p choices asked).asked = (r.compile p choices asked).asked

theorem idle_of_alike (hv : r.validated.truthy = true) (ht : r.document.type = demoType)
    (h : ((r.unskipping a).compiling p choices asked).Alike (r.compiling p choices asked)) :
    r.Idle a p choices asked := by
  obtain ⟨hresult, hasked⟩ := compile_eq hv ht p choices asked
  obtain ⟨hresult', hasked'⟩ := compile_eq (r := r.unskipping a) hv ht p choices asked
  have hsame := congrArg₂ (fun result tree => Except.map (fun _ : Unit => tree) result) h.result
    h.tree
  exact ⟨hresult'.trans (hsame.trans hresult.symm), hasked'.trans (h.asked.trans hasked.symm)⟩

/-- A name that no group of a recipe goes by is idle, but for that of the group that its engine
supplies: that one is idle if no target is a scratch org, where only those are picked that are
offered. -/
theorem idle_of_unknown (hr : r.Accepted) (ht : r.document.type = demoType)
    (ha : a ∉ r.document.aliases)
    (hscratch : a = refreshAlias → ∀ t ∈ r.document.options.targets, t.isScratchOrg = false)
    (hp : a = refreshAlias → ∀ q, p = some q → q.Faithful) : r.Idle a p choices asked := by
  have hv := hr.truthy ht
  obtain ⟨question, hq⟩ := Plan.Demo.selectTarget_inquires p r.toSource.document choices
  refine idle_of_alike hv ht (Plan.Demo.compile_unskipping hv hq fun t gs s₁ hs hg => ?_)
  refine Plan.Demo.notMem_supplied ha (fun heq => ?_) hg
  exact hscratch heq t (Plan.Demo.declared_of_inquires hq (hp heq) hs)

theorem target?_of_mem (hr : r.Accepted) {t : Target} (ht : t ∈ r.document.options.targets) :
    r.document.target? t.aliasName = some t := by
  cases hfound : r.document.target? t.aliasName with
  | none => simpa using List.find?_eq_none.1 hfound t ht
  | some t' =>
    have hmem : t' ∈ r.document.options.targets := List.mem_of_find?_eq_some hfound
    have halias : t'.aliasName = t.aliasName := by simpa using List.find?_some hfound
    exact congrArg some (List.inj_on_of_nodup_map hr.targets_distinct hmem ht halias)

def refreshing (t : Target) : Choices := { target := some t.aliasName, skipActions := some [] }

theorem compile_refreshing (hv : r.validated.truthy = true) (hd : r.document.Sound)
    (ht : r.document.type = demoType) {t : Target}
    (hfound : r.document.target? t.aliasName = some t) (hs : t.isScratchOrg = true) :
    (r.compile (none : Option (Prompter Unit)) (refreshing t) ()).result.map (·.tree) =
      .ok (some (Tree.ofGroups ⟨r.document.options.skipGroups, []⟩
        (Plan.Demo.refreshGroup t :: r.document.groups))) := by
  have hnamed : t.Named := hd.named t (List.mem_of_find?_eq_some hfound)
  obtain ⟨hresult, htree⟩ := Plan.Demo.compile_for_named (c := refreshing t)
    (Engine.fresh demoType Plan.Demo.label) r.toSource hv hd rfl hfound hnamed
  have hgroups : Plan.Demo.refreshGroups (refreshing t) t = [Plan.Demo.refreshGroup t] :=
    if_pos (by simp [Plan.Demo.refreshes, refreshing, hs])
  rw [hgroups] at htree
  have hcompiled := congrArg₂ (fun result tree => Except.map (fun _ : Unit => tree) result) hresult
    htree
  exact (compile_eq hv ht none (refreshing t) ()).1.trans hcompiled

theorem mem_refreshed (skipped : List String) (t : Target) (groups : List Group) :
    refreshAlias ∈ (Tree.ofGroups ⟨skipped, []⟩ (Plan.Demo.refreshGroup t :: groups)).map
      (·.aliasName) ↔ refreshAlias ∉ skipped := by
  rw [Tree.ofGroups_eq, List.map_map, List.mem_map]
  constructor
  · rintro ⟨g, hg, halias⟩
    obtain ⟨-, hspares⟩ := List.mem_filter.1 hg
    have halias : g.aliasName = refreshAlias := halias
    exact halias ▸ (of_decide_eq_true hspares).1
  · intro hno
    refine ⟨Plan.Demo.refreshGroup t, List.mem_filter.2 ⟨List.mem_cons_self, ?_⟩, rfl⟩
    exact decide_eq_true ⟨hno, _, List.mem_cons_self, List.not_mem_nil⟩

/-- To skip the group that is supplied for a scratch org makes a difference. -/
theorem not_idle_of_scratch (hr : r.Accepted) (ht : r.document.type = demoType)
    (ha : refreshAlias ∈ r.document.options.skipGroups) {t : Target}
    (hmem : t ∈ r.document.options.targets) (hs : t.isScratchOrg = true) :
    ¬ r.Idle refreshAlias (none : Option (Prompter Unit)) (refreshing t) () := by
  rintro ⟨hsame, -⟩
  have hv := hr.truthy ht
  have hd := (hr.sound ht).1
  have hd' : (r.unskipping refreshAlias).document.Sound := ⟨hd.distinct, hd.unreserved, hd.named⟩
  have hfound := target?_of_mem hr hmem
  have hwithout := compile_refreshing (r := r.unskipping refreshAlias) hv hd' ht hfound hs
  have htrees := hwithout.symm.trans (hsame.trans (compile_refreshing hv hd ht hfound hs))
  have hleft : refreshAlias ∉ (r.unskipping refreshAlias).document.options.skipGroups := by
    simp [unskipping, Document.unskipping]
  have hin := (mem_refreshed _ t (r.unskipping refreshAlias).document.groups).2 hleft
  rw [Option.some.inj (Except.ok.inj htrees)] at hin
  exact (mem_refreshed _ t r.document.groups).1 hin ha

end Recipe

namespace Validation

open Recipe (Document Target)

variable {files : Files} {w : Recipe.Reference} {project : Project} {r : Recipe}
  {ws : List String} {records : List Record} {a : String}

-- ---------------------------------------------------------------------------
-- Warnings
-- ---------------------------------------------------------------------------

theorem run_valid (h : run files w = (.ok (.valid project r ws), records)) :
    r.Accepted ∧ warnings files project r.document = .ok ws := by
  unfold run at h
  split at h
  next loaded records' hl =>
  cases loaded with
  | error f =>
    dsimp only at h
    cases hf : errors? f <;> simp [hf] at h
  | ok found =>
    obtain ⟨project', r'⟩ := found
    simp only [Prod.mk.injEq] at h
    obtain ⟨hw, rfl⟩ := h
    cases hws : warnings files project' r'.document with
    | error f => simp [hws, Except.map] at hw
    | ok ws' =>
      simp only [hws, Except.map, Except.ok.injEq, valid.injEq] at hw
      obtain ⟨rfl, rfl, rfl⟩ := hw
      exact ⟨(Recipe.ends_load w).ok hl, hws⟩

theorem unknownGroup_inj {b : String} : unknownGroup a = unknownGroup b ↔ a = b := by
  unfold unknownGroup
  rw [String.append_left_inj, String.append_right_inj]
  rfl

theorem head_append {text rest : String} {c : Char} (h : text.toList.head? = some c) :
    (text ++ rest).toList.head? = some c := by
  rw [String.toList_append, List.head?_append, h]
  rfl

theorem unknownGroup_ne {text : String} {c : Char} (h : text.toList.head? = some c)
    (hc : c ≠ 's') : unknownGroup a ≠ text := by
  rintro rfl
  have hskip : "skipGroups names unknown group '".toList.head? = some 's' := by decide
  have hhead : (unknownGroup a).toList.head? = some 's' := head_append (head_append hskip)
  exact hc (Option.some.inj (h.symm.trans hhead))

theorem mem_missingDefinitions {directory : Files.Path} {targets : List Target}
    {missing : List String} (h : missingDefinitions files directory targets = .ok missing) :
    ∀ text ∈ missing, ∃ name aliasName, text = noDefinition directory name aliasName := by
  induction targets generalizing missing with
  | nil =>
    cases h
    simp
  | cons t rest ih =>
    -- The warnings of the target itself come first.
    have hjoin {here : List String}
        (hhere : ∀ text ∈ here, ∃ name aliasName, text = noDefinition directory name aliasName)
        (h : (missingDefinitions files directory rest >>= fun more => pure (here ++ more)) =
          .ok missing) :
        ∀ text ∈ missing, ∃ name aliasName, text = noDefinition directory name aliasName := by
      obtain ⟨more, hmore, h⟩ := bind_ok.1 h
      obtain rfl := Except.ok.inj h
      exact List.forall_mem_append.2 ⟨hhere, ih hmore⟩
    unfold missingDefinitions at h
    dsimp only at h
    cases hd : definition? t with
    | none =>
      rw [hd] at h
      exact hjoin (by simp) h
    | some name =>
      rw [hd] at h
      obtain ⟨found, -, h⟩ := bind_ok.1 h
      cases found with
      | true => exact hjoin (by simp) h
      | false => exact hjoin (List.forall_mem_singleton.2 ⟨name, t.aliasName, rfl⟩) h

theorem unknownGroup_mem_iff (h : warnings files project r.document = .ok ws) :
    unknownGroup a ∈ ws ↔ a ∈ r.document.options.skipGroups ∧ a ∉ r.document.aliases := by
  obtain ⟨missing, hm, h⟩ := bind_ok.1 h
  obtain rfl := Except.ok.inj h
  have hengine : unknownGroup a ∉
      if Recipe.hasEngine r.document.type then [] else [noEngine r.document.type] := by
    have hlit : "Recipe type '".toList.head? = some 'R' := by decide
    have hne : unknownGroup a ≠ noEngine r.document.type :=
      unknownGroup_ne (head_append (head_append hlit)) (by decide)
    split
    · exact List.not_mem_nil
    · exact fun hmem => hne (List.mem_singleton.1 hmem)
  have htargets : unknownGroup a ∉
      if r.document.options.targets.isEmpty then [noTargets] else [] := by
    have hlit : noTargets.toList.head? = some 'N' := by decide
    split
    · exact fun hmem => unknownGroup_ne hlit (by decide) (List.mem_singleton.1 hmem)
    · exact List.not_mem_nil
  have hmissing : unknownGroup a ∉ missing := by
    intro hmem
    obtain ⟨name, aliasName, heq⟩ := mem_missingDefinitions hm _ hmem
    have hlit : "Scratch definition '".toList.head? = some 'S' := by decide
    have hhead : (noDefinition project.configPath name aliasName).toList.head? = some 'S' :=
      head_append (head_append (head_append (head_append (head_append hlit))))
    exact unknownGroup_ne hhead (by decide) heq
  simp only [List.mem_append, hengine, htargets, hmissing, false_or]
  simp [unknownSkips, unknownGroup_inj]

/-- A warning of an unknown group is right, and the name may as well be taken off the list of
skipped groups, unless it is that of the group that the engine supplies for scratch orgs and the
recipe has one. Whoever is asked may answer anything, but is to pick one of the targets offered
where it comes to that group. -/
theorem unknown_skip_idle_iff (h : run files w = (.ok (.valid project r ws), records))
    (ht : r.document.type = Recipe.demoType) (ha : unknownGroup a ∈ ws) :
    (∀ (π : Type) (p : Option (Prompter π)) (choices : Choices) (asked : π),
      (a = Plan.Demo.refreshAlias → ∀ q, p = some q → q.Faithful) →
        r.Idle a p choices asked) ↔
      (a = Plan.Demo.refreshAlias →
        ∀ t ∈ r.document.options.targets, t.isScratchOrg = false) := by
  obtain ⟨hr, hws⟩ := run_valid h
  obtain ⟨hskipped, hunknown⟩ := (unknownGroup_mem_iff hws).1 ha
  constructor
  · rintro hidle rfl t hmem
    refine Bool.eq_false_iff.2 fun hs => ?_
    exact Recipe.not_idle_of_scratch hr ht hskipped hmem hs
      (hidle Unit none (Recipe.refreshing t) () fun _ _ hq => nomatch hq)
  · intro hscratch π p choices asked hp
    exact Recipe.idle_of_unknown hr ht hunknown hscratch hp

def skippingRecipe : List String := [
  "\x7b\"recipeName\": \"Skipping\",", "\"description\": \"\",", "\"recipeType\":",
  "\"appx:demo-recipe\",", "\"recipeVersion\": \"\",", "\"schemaVersion\": \"\",",
  "\"options\": \x7b", "\"haltOnError\": true,",
  "\"skipGroups\": [\"ghost\", \"refresh-scratch-org\"],", "\"skipActions\": [],",
  "\"targetOrgs\": [\x7b", "\"orgName\": \"o\",", "\"alias\": \"demo1\",",
  "\"description\": \"d\",", "\"isScratchOrg\": true,", "\"scratchDefJson\": \"j\"", "\x7d]\x7d,",
  "\"recipeStepGroups\": [],", "\"handlers\": []\x7d"]

def skippingFiles : Files where
  entries := [(["skipping.json"],
    .file (skippingRecipe.flatMap fun line => line.toUTF8.data.toList))]
  cwd := ⟨.slash, []⟩

def skippingVerdict : Except Fault Validation × List Record :=
  run skippingFiles ⟨some "skipping.json", none⟩

theorem skipping_checked : (match skippingVerdict.1 with
    | .ok (.valid _ r ws) => decide (r.document.type = Recipe.demoType) &&
        decide (unknownGroup "ghost" ∈ ws ∧ unknownGroup Plan.Demo.refreshAlias ∈ ws) &&
        r.document.options.targets.any (·.isScratchOrg)
    | _ => false) = true := by
  decide +kernel

theorem skipping_warned : ∃ project r ws records,
    skippingVerdict = (.ok (.valid project r ws), records) ∧ r.document.type = Recipe.demoType ∧
      unknownGroup "ghost" ∈ ws ∧ unknownGroup Plan.Demo.refreshAlias ∈ ws ∧
      ∃ t ∈ r.document.options.targets, t.isScratchOrg = true := by
  have h := skipping_checked
  cases hv : skippingVerdict with
  | mk verdict records =>
    rw [hv] at h
    match verdict with
    | .error _ => cases h
    | .ok (.invalid _) => cases h
    | .ok (.valid project r ws) =>
      simp only [Bool.and_eq_true, decide_eq_true_eq, List.any_eq_true] at h
      obtain ⟨⟨ht, hghost, hrefresh⟩, hscratch⟩ := h
      exact ⟨project, r, ws, records, rfl, ht, hghost, hrefresh, hscratch⟩

theorem ghost_skip_is_idle : ∃ project r ws records,
    skippingVerdict = (.ok (.valid project r ws), records) ∧ r.document.type = Recipe.demoType ∧
      unknownGroup "ghost" ∈ ws ∧
      ∀ (π : Type) (p : Option (Prompter π)) (choices : Choices) (asked : π),
        r.Idle "ghost" p choices asked := by
  obtain ⟨project, r, ws, records, hv, ht, hghost, -⟩ := skipping_warned
  have hne : "ghost" ≠ Plan.Demo.refreshAlias := by decide
  refine ⟨project, r, ws, records, hv, ht, hghost, fun π p choices asked => ?_⟩
  exact (unknown_skip_idle_iff hv ht hghost).2 (fun heq => absurd heq hne) π p choices asked
    fun heq => absurd heq hne

/-- The engine does know the group that it supplies. Without a word about it the scratch org
would be deleted and made anew. -/
theorem refresh_warning_is_wrong : ∃ project r ws records t,
    skippingVerdict = (.ok (.valid project r ws), records) ∧ r.document.type = Recipe.demoType ∧
      unknownGroup Plan.Demo.refreshAlias ∈ ws ∧
      ¬ r.Idle Plan.Demo.refreshAlias (none : Option (Prompter Unit)) (Recipe.refreshing t) () := by
  obtain ⟨project, r, ws, records, hv, ht, -, hrefresh, t, hmem, hs⟩ := skipping_warned
  obtain ⟨hr, hws⟩ := run_valid hv
  have hskipped := ((unknownGroup_mem_iff hws).1 hrefresh).1
  exact ⟨project, r, ws, records, t, hv, ht, hrefresh,
    Recipe.not_idle_of_scratch hr ht hskipped hmem hs⟩

end Validation

end Provision
