import Provision.Proofs.Interview.Defaults
import Provision.Proofs.Plan.Asking

/-!
# Choosing the groups

In a custom install the groups to install are checked on a list, and the others are
left out. What comes of it is the tree with nothing left out, cut down to the groups
that were checked, and a list that is accepted as it is changes nothing
(`custom_install`).
-/

namespace Provision.Plan

open Recipe (Document Group Target)

variable {π : Type} {d : Document} {c : Choices} {e : Engine}

-- ---------------------------------------------------------------------------
-- Trees
-- ---------------------------------------------------------------------------

theorem Tree.ofGroups_congr {sk sk' : List String} {actions : List String} {groups : List Group}
    (h : ∀ g ∈ groups, g.aliasName ∈ sk ↔ g.aliasName ∈ sk') :
    Tree.ofGroups ⟨sk, actions⟩ groups = Tree.ofGroups ⟨sk', actions⟩ groups := by
  rw [Tree.ofGroups_eq, Tree.ofGroups_eq]
  refine congrArg (List.map _) (List.filter_congr fun g hg => decide_eq_decide.2 ?_)
  simp only [Skips.Spares, h g hg]

/-- Leaving out all other groups is keeping some of the tree. -/
theorem Tree.ofGroups_others (S actions : List String) (groups : List Group) :
    Tree.ofGroups ⟨(Recipe.groupAliases groups).filter (· ∉ S), actions⟩ groups =
      (Tree.ofGroups ⟨[], actions⟩ groups).filter (·.aliasName ∈ S) := by
  rw [Tree.ofGroups_eq, Tree.ofGroups_eq, List.filter_map, List.filter_filter]
  refine congrArg (List.map _) (List.filter_congr fun g hg => ?_)
  have halias : g.aliasName ∈ Recipe.groupAliases groups := List.mem_map_of_mem hg
  have hcut : (Skips.cut ⟨[], actions⟩ g).aliasName = g.aliasName := rfl
  rw [Function.comp_apply, hcut, ← Bool.decide_and]
  refine decide_eq_decide.2 ?_
  simp [Skips.Spares, halias]

-- ---------------------------------------------------------------------------
-- What is checked on a list
-- ---------------------------------------------------------------------------

namespace Demo

open Interview

def checks (S : List String) : Answer := .several (S.map fun a => .value (.str a))

theorem unchecked_checks (aliases S : List String) :
    unchecked aliases [("installGroups", checks S)] = .ok (aliases.filter (· ∉ S)) := by
  have hstranger : (S.map fun a => Answer.value (.str a)).findSome? unchecked.stranger? = none := by
    simp [unchecked.stranger?, hashable]
  have htext (a : String) :
      (S.map fun a => Answer.value (.str a)).any (unchecked.isText a) = decide (a ∈ S) := by
    rw [Bool.eq_iff_iff]
    simp [List.any_map, unchecked.isText]
  simp [unchecked, checks, hstranger, htext]

theorem preset_checks (aliases skipped : List String) :
    .several (groupsQuestion aliases skipped).preset = checks (aliases.filter (· ∉ skipped)) := by
  simp [Question.preset, groupsQuestion, List.filter_map, Function.comp_def, Choice.of, checks]

theorem askSkips_of_ask {q : Prompter π} {aliases skipped : List String} {s s' : π} {a : Answer}
    (h : q.ask (groupsQuestion aliases skipped) "Select the step groups to install" s =
      (.ok a, s')) :
    askSkips q aliases skipped s = (unchecked aliases [("installGroups", a)], s') := by
  have hask : Interview.interview q [groupsQuestion aliases skipped] s =
      (.ok [("installGroups", a)], s') := by
    have hone : askOne q (groupsQuestion aliases skipped) [] s = (.ok a, s') := h
    have hv : (groupsQuestion aliases skipped).visible [] = true := rfl
    simp only [interview, askAll, hv, if_true, hone]
    rfl
  rw [askSkips, hask]

-- ---------------------------------------------------------------------------
-- Two compiles
-- ---------------------------------------------------------------------------

variable {p : Option (Prompter π)} {src : Engine.Source} {c' : Choices} {s s₁ : π} {t : Target}
  {gs : List Group} {skipped : List String} {notes : List Record}

variable (src t gs) in
/-- The groups of a build that lacks nothing, if the check lets it pass. -/
def vetted : Except Fault (List Group) :=
  ((filled src {} t gs [] []).checked src.document).map (·.1)

theorem filled_checked :
    (filled src c t gs skipped notes).checked src.document =
      (vetted src t gs).map fun groups => (groups,
        { (filled src c t gs skipped notes).setting with initialized := .bool true }) := by
  have hassign (c : Choices) (skipped : List String) (notes : List Record) :
      (filled src c t gs skipped notes).setting.assign (.initialized (.bool true)) =
        .ok { (filled src c t gs skipped notes).setting with initialized := .bool true } :=
    Setting.assign_ok_iff.2 ⟨.inl rfl, rfl⟩
  have hsame : (filled src c t gs skipped notes).registry = (filled src {} t gs [] []).registry ∧
      (filled src c t gs skipped notes).groups src.document =
        (filled src {} t gs [] []).groups src.document := ⟨rfl, rfl⟩
  have hset (c : Choices) (skipped : List String) (notes : List Record) :
      (filled src c t gs skipped notes).setting.target = some t ∧
        isList (filled src c t gs skipped notes).setting.skipActions = true ∧
        isList (filled src c t gs skipped notes).setting.skipGroups = true := ⟨rfl, rfl, rfl⟩
  simp only [vetted, Build.checked, hassign, hsame, hset, Option.any_some, Bool.not_true,
    Bool.false_eq_true, ↓reduceIte]
  by_cases hsize : (filled src {} t gs [] []).registry.size = 0
  · simp only [if_pos hsize]
    rfl
  · simp only [if_neg hsize]
    cases (filled src {} t gs [] []).groups src.document with
    | error f => rfl
    | ok groups =>
      cases decide (t.aliasName ≠ "") <;> rfl

theorem compile_filled (hv : src.validated.truthy = true)
    (h : (runHooks (make p) src.document Phase.all).run.run (Engine.slate (make p).type src c s) =
      (.ok (), (filled src c t gs skipped notes).facing s₁)) :
    (e.compile (make p) src c s).result = (vetted src t gs).map (fun _ => ()) ∧
      (e.compile (make p) src c s).engine.tree = (vetted src t gs).toOption.map
        (Tree.ofGroups ⟨skipped, c.skipActions.getD src.document.options.skipActions⟩) := by
  have hchecked : ((filled src c t gs skipped notes).facing s₁).checked src.document =
      (filled src c t gs skipped notes).checked src.document := rfl
  have hskips : Plan.skips { (filled src c t gs skipped notes).setting with
      initialized := .bool true } =
      .ok ⟨skipped, c.skipActions.getD src.document.options.skipActions⟩ := by
    simp only [Plan.skips, filled, grouped, names_ofStrings]
    rfl
  simp only [Engine.compile, hv, h, hchecked, filled_checked]
  cases vetted src t gs with
  | error f => exact ⟨rfl, rfl⟩
  | ok groups =>
    simp only [Except.map, hskips]
    exact ⟨rfl, rfl⟩

theorem groups_of_vetted {groups : List Group} (h : vetted src t gs = .ok groups) :
    groups = gs ++ src.document.groups := by
  unfold vetted at h
  cases hc : (filled src {} t gs [] []).checked src.document with
  | error f => simp [hc, Except.map] at h
  | ok checked =>
    obtain ⟨groups', st⟩ := checked
    obtain rfl : groups' = groups := by simpa [hc, Except.map] using h
    have hgroups : (filled src {} t gs [] []).groups src.document = .ok groups' :=
      (Build.checked_sound hc).1.groups
    simp only [Build.groups, filled, grouped] at hgroups
    split at hgroups
    · cases hgroups
      exact List.append_nil _
    · cases hgroups

/-- One compile has the tree of another, changed in some way, unless both fail alike. -/
structure Refashions (f : Tree → Tree) (x y : Engine.Report π) : Prop where
  result : x.result = y.result
  target : x.engine.setting.bind (·.target) = y.engine.setting.bind (·.target)
  tree : x.engine.tree = y.engine.tree.map f

/-- Two compiles that differ in what they leave out of the groups differ in no more than that. -/
theorem refashions_of_skips {f : Tree → Tree} {question : π → Except Fault Target × π}
    (hv : src.validated.truthy = true) (hq : Hook.Inquires (selectTarget p src.document c) question)
    (hselect : selectTarget p src.document c' = selectTarget p src.document c)
    (hsupply : supplied c' = supplied c) (hactions : c'.skipActions = c.skipActions)
    (hskips : ∀ t gs s₁, question s = (.ok t, s₁) → supplied c t = .ok gs →
      ∃ sk sk' s₂ s₂',
        skipping p src.document c (Recipe.groupAliases (gs ++ src.document.groups)) s₁ =
          (.ok sk, s₂) ∧
        skipping p src.document c' (Recipe.groupAliases (gs ++ src.document.groups)) s₁ =
          (.ok sk', s₂') ∧
        ∀ actions, Tree.ofGroups ⟨sk, actions⟩ (gs ++ src.document.groups) =
          f (Tree.ofGroups ⟨sk', actions⟩ (gs ++ src.document.groups))) :
    Refashions f (e.compile (make p) src c s) (e.compile (make p) src c' s) := by
  have hrun := hooks_run p src c s hq
  have hrun' := hooks_run p src c' s (hselect ▸ hq)
  rw [hsupply] at hrun'
  have hsame {f : Fault} {b b' : Build Unit} {s₁ : π}
      (h : (runHooks (make p) src.document Phase.all).run.run
        (Engine.slate (make p).type src c s) = (.error f, b.facing s₁))
      (h' : (runHooks (make p) src.document Phase.all).run.run
        (Engine.slate (make p).type src c' s) = (.error f, b'.facing s₁))
      (ht : b.setting.target = b'.setting.target) (g : Tree → Tree) :
      Refashions g (e.compile (make p) src c s) (e.compile (make p) src c' s) := by
    refine ⟨?_, (compile_target h hv).trans (ht.trans (compile_target h' hv).symm), ?_⟩
    · simp [Engine.compile, hv, h, h']
    · simp [Engine.compile, hv, h, h', Engine.holding]
  cases hs : question s with
  | mk r s₁ =>
    rw [hs] at hrun hrun'
    cases r with
    | error f => exact hsame hrun hrun' rfl _
    | ok t =>
      dsimp only at hrun hrun'
      cases hg : supplied c t with
      | error f =>
        rw [hg] at hrun hrun'
        exact hsame hrun hrun' rfl _
      | ok gs =>
        obtain ⟨sk, sk', s₂, s₂', hk, hk', htree⟩ := hskips t gs s₁ hs hg
        simp only [hg, hk] at hrun
        simp only [hg, hk'] at hrun'
        obtain ⟨hresult, htree₁⟩ := compile_filled (e := e) hv hrun
        obtain ⟨hresult', htree₂⟩ := compile_filled (e := e) hv hrun'
        refine ⟨hresult.trans hresult'.symm, ?_, ?_⟩
        · rw [compile_target hrun hv, compile_target hrun' hv]
          rfl
        · rw [htree₁, htree₂, hactions]
          cases hgroups : vetted src t gs with
          | error f => rfl
          | ok groups =>
            cases groups_of_vetted hgroups
            exact congrArg some (htree _)

theorem skipping_told {sk : List String} (h : c.skipGroups = some sk) (p : Option (Prompter π))
    (aliases : List String) (s : π) : skipping p d c aliases s = (.ok sk, s) := by
  have hc : chooses d c = false := by simp [chooses, h]
  simp [skipping_of_not_chooses hc, h]

theorem skipping_usual (h : c.skipGroups = none) (p : Option (Prompter π)) (aliases : List String)
    (s : π) : skipping p d { c with customInstall := false } aliases s =
      (.ok d.options.skipGroups, s) := by
  have hc : chooses d { c with customInstall := false } = false := by simp [chooses]
  rw [skipping_of_not_chooses hc]
  simp [h]

theorem compile_told {question : π → Except Fault Target × π} {sk : List String}
    (hv : src.validated.truthy = true) (hq : Hook.Inquires (selectTarget p src.document c) question)
    (hs : question s = (.ok t, s₁)) (hg : supplied c t = .ok gs) (hk : c.skipGroups = some sk) :
    (e.compile (make p) src c s).asked = s₁ ∧ (e.compile (make p) src c s).engine.aliases =
      .ok (Recipe.groupAliases (gs ++ src.document.groups)) := by
  have hrun := hooks_run p src c s hq
  simp only [hs, hg, skipping_told hk] at hrun
  obtain ⟨hasked, st, tree, -, hengine⟩ := compile_holding (e := e) hrun hv
  refine ⟨hasked, ?_⟩
  rw [hengine]
  exact congrArg (fun groups => Except.ok (Recipe.groupAliases groups)) (List.append_nil _)

/-- When the groups to leave out are told and there is a target with a name, a sound recipe
compiles. -/
theorem told_compiles (hv : src.validated.truthy = true) (hd : src.document.Sound)
    {sk : List String} (hk : c.skipGroups = some sk) (ht : t.Named)
    (htarget : (e.compile (make p) src c s).engine.setting.bind (·.target) = some t) :
    (e.compile (make p) src c s).result = .ok () := by
  obtain ⟨question, hq⟩ := selectTarget_inquires p src.document c
  have hrun := hooks_run p src c s hq
  cases hs : question s with
  | mk r s₁ =>
    cases r with
    | error f =>
      simp only [hs] at hrun
      rw [compile_target hrun hv] at htarget
      cases htarget
    | ok t' =>
      simp only [hs, skipping_told hk] at hrun
      obtain rfl : t' = t := by
        cases hg : supplied c t' with
        | error f =>
          simp only [hg] at hrun
          exact Option.some.inj ((compile_target hrun hv).symm.trans htarget)
        | ok gs =>
          simp only [hg] at hrun
          exact Option.some.inj ((compile_target hrun hv).symm.trans htarget)
      simp only [supplied_named ht] at hrun
      obtain ⟨t, skipped, hb⟩ := (hooks_built p src c s).ok hrun
      cases hb.target
      have hchecked := hb.checked hd ht
      cases hres : (e.compile (make p) src c s).result with
      | ok _ => rfl
      | error f =>
        cases Engine.compile_error hres with
        | unvalidated hno => simp [hv] at hno
        | hooks hr => cases hr.symm.trans hrun
        | unchecked hr hc =>
          cases hr.symm.trans hrun
          cases hc.symm.trans hchecked
        | unreadable hr hc hs =>
          cases hr.symm.trans hrun
          exact (hb.readable hc hs).elim

-- ---------------------------------------------------------------------------
-- The checklist
-- ---------------------------------------------------------------------------

theorem skipping_checks (h : chooses d c = true) {q : Prompter π} {aliases S : List String}
    {s s' : π} (hask : q.ask (groupsQuestion aliases d.options.skipGroups)
      "Select the step groups to install" s = (.ok (checks S), s')) :
    skipping (some q) d c aliases s = (.ok (aliases.filter (· ∉ S)), s') := by
  simp only [skipping, h, if_true, askSkips_of_ask hask, unchecked_checks]

theorem aliasName_of_supplied (h : supplied c t = .ok gs) :
    ∀ g ∈ gs, g.aliasName = refreshAlias := by
  unfold supplied at h
  split at h
  · cases hf : formed (refreshGroup t) with
    | error f => simp [hf, Except.map] at h
    | ok g =>
      cases formed_ok hf
      simp only [hf, Except.map, Except.ok.injEq] at h
      subst h
      simp [refreshGroup]
  · cases h
    simp

/-- What is checked on the list is the tree, of all groups that there are. -/
theorem checked_groups (hv : src.validated.truthy = true)
    (hc : chooses src.document c = true) {q : Prompter π} {aliases S : List String} {s' : π}
    (ha : (e.compile (make (some q)) src { c with skipGroups := some [] } s).engine.aliases =
      .ok aliases)
    (hask : q.ask (groupsQuestion aliases src.document.options.skipGroups)
      "Select the step groups to install"
      (e.compile (make (some q)) src { c with skipGroups := some [] } s).asked =
        (.ok (checks S), s')) :
    Refashions (·.filter (·.aliasName ∈ S)) (e.compile (make (some q)) src c s)
      (e.compile (make (some q)) src { c with skipGroups := some [] } s) := by
  obtain ⟨question, hq⟩ := selectTarget_inquires (some q) src.document c
  refine refashions_of_skips hv hq rfl rfl rfl fun t gs s₁ hs hg => ?_
  obtain ⟨hasked, haliases⟩ := compile_told (e := e) (c := { c with skipGroups := some [] })
    hv hq hs hg rfl
  cases haliases.symm.trans ha
  rw [hasked] at hask
  exact ⟨_, _, _, _, skipping_checks hc hask, skipping_told rfl _ _ _,
    fun actions => Tree.ofGroups_others S actions _⟩

theorem accepted_groups (hv : src.validated.truthy = true)
    (hc : chooses src.document c = true) {q : Prompter π}
    (hask : ∀ t gs, supplied c t = .ok gs → ∃ s',
      q.ask (groupsQuestion (Recipe.groupAliases (gs ++ src.document.groups))
        src.document.options.skipGroups) "Select the step groups to install"
        (e.compile (make (some q)) src { c with skipGroups := some [] } s).asked =
        (.ok (.several (groupsQuestion (Recipe.groupAliases (gs ++ src.document.groups))
          src.document.options.skipGroups).preset), s')) :
    Refashions id (e.compile (make (some q)) src c s)
      (e.compile (make (some q)) src { c with customInstall := false } s) := by
  have hnone : c.skipGroups = none := by
    simp only [chooses, Bool.and_eq_true, Option.isNone_iff_eq_none] at hc
    exact hc.1.1
  obtain ⟨question, hq⟩ := selectTarget_inquires (some q) src.document c
  refine refashions_of_skips hv hq rfl rfl rfl fun t gs s₁ hs hg => ?_
  obtain ⟨hasked, -⟩ := compile_told (e := e) (c := { c with skipGroups := some [] })
    hv hq hs hg rfl
  obtain ⟨s', hask⟩ := hask t gs hg
  rw [hasked, preset_checks] at hask
  refine ⟨_, _, _, _, skipping_checks hc hask, skipping_usual hnone _ _ _, fun actions => ?_⟩
  refine Tree.ofGroups_congr fun g hg => ?_
  have halias : g.aliasName ∈ Recipe.groupAliases (gs ++ src.document.groups) :=
    List.mem_map_of_mem hg
  simp [halias]

/-- A custom install installs the groups that are checked on the list, and no others. If the list
is accepted as it is, that is what would be installed anyway. -/
theorem custom_install {r r' : Recipe} (hv : r.validate = .ok r')
    (ht : r.document.type = Recipe.demoType) (hn : ∀ t ∈ r.document.options.targets, t.Named)
    (e : Engine) {c : Choices} (hc : chooses r.document c = true) :
    (∀ (π : Type) (q : Prompter π) (s : π),
      let bare := e.compile (make (some q)) r'.toSource { c with skipGroups := some [] } s
      (∀ t ∈ r.document.options.targets, bare.engine.setting.bind (·.target) = some t →
        bare.result = .ok ()) ∧
      ∀ (aliases S : List String) (s' : π), bare.engine.aliases = .ok aliases →
        q.ask (groupsQuestion aliases r.document.options.skipGroups)
          "Select the step groups to install" bare.asked = (.ok (checks S), s') →
        Refashions (·.filter (·.aliasName ∈ S)) (e.compile (make (some q)) r'.toSource c s) bare) ∧
    (∀ (s : Script) (rest : List Value),
      (e.compile (make (some Script.prompter)) r'.toSource { c with skipGroups := some [] }
        s).asked.queue = .null :: rest →
      Refashions id (e.compile (make (some Script.prompter)) r'.toSource c s)
        (e.compile (make (some Script.prompter)) r'.toSource { c with customInstall := false } s)) ∧
    ∀ (s : Console) (line : String) (rest : List String),
      (∀ a ∈ r.document.aliases, Text.Scalar a.toList) →
      (e.compile (make (some Console.prompter)) r'.toSource { c with skipGroups := some [] }
        s).asked.lines = line :: rest → Text.isBlankText line = true →
      Refashions id (e.compile (make (some Console.prompter)) r'.toSource c s)
        (e.compile (make (some Console.prompter)) r'.toSource
          { c with customInstall := false } s) := by
  obtain ⟨hdistinct, hfree⟩ := Recipe.validate_demo hv ht
  obtain ⟨-, rfl⟩ := Recipe.validate_ok hv
  have hvalid : ({ r with validated := .bool true } : Recipe).toSource.validated.truthy = true :=
    rfl
  refine ⟨?_, ?_, ?_⟩
  · intro π q s bare
    constructor
    · intro t hmem htarget
      exact told_compiles hvalid ⟨hdistinct, hfree, hn⟩ rfl (hn t hmem) htarget
    · intro aliases S s' ha hask
      exact checked_groups hvalid hc ha hask
  · intro s rest hrest
    exact accepted_groups hvalid hc fun t gs hg => ⟨_, Script.ask_null rfl hrest⟩
  · intro s line rest hscalar hline hblank
    refine accepted_groups hvalid hc fun t gs hg =>
      Console.ask_blank rfl (Text.scalar_of_ascii (by decide)) ?_ hline hblank
    intro choice hchoice
    obtain ⟨a, ha, rfl⟩ := List.mem_map.1 hchoice
    obtain ⟨g, hmem, rfl⟩ := List.mem_map.1 ha
    rcases List.mem_append.1 hmem with hmem | hmem
    · change Text.Scalar g.aliasName.toList
      rw [aliasName_of_supplied hg g hmem]
      exact Text.scalar_of_ascii (by decide)
    · exact hscalar _ (List.mem_map_of_mem hmem)

def trialChecks : List String := ["deploy", "other", "deploy"]

def trialBare (r : Recipe) : Engine.Report Script :=
  (Engine.fresh Recipe.demoType label).compile (make (some Script.prompter)) r.toSource
    { target := some "sandbox", customInstall := true, skipGroups := some [] }
    ⟨[.ofStrings trialChecks], []⟩

theorem trial_custom_install :
    ∃ r r' : Recipe, r.validate = .ok r' ∧ r.document.type = Recipe.demoType ∧
      (∀ t ∈ r.document.options.targets, t.Named) ∧
      chooses r.document { target := some "sandbox", customInstall := true } = true ∧
      Refashions (·.filter (·.aliasName ∈ trialChecks))
        ((Engine.fresh Recipe.demoType label).compile (make (some Script.prompter)) r'.toSource
          { target := some "sandbox", customInstall := true } ⟨[.ofStrings trialChecks], []⟩)
        (trialBare r') ∧
      (trialBare r').engine.tree.map (·.map (·.aliasName)) = some [refreshAlias, "deploy"] := by
  have h : trial.toOption.any (fun r =>
      chooses r.document { target := some "sandbox", customInstall := true } &&
        (r.document.target? "sandbox").isSome &&
        decide ((trialBare r).engine.tree.map (·.map (·.aliasName)) =
          some [refreshAlias, "deploy"])) = true := by
    decide +kernel
  obtain ⟨r', hr, ht, -⟩ := trial_accepted
  simp only [hr, Except.toOption, Option.any_some, Bool.and_eq_true, decide_eq_true_eq,
    Option.isSome_iff_exists] at h
  obtain ⟨⟨hc, t, hfound⟩, htree⟩ := h
  obtain ⟨d, hd, hv⟩ := Recipe.ofData_ends.ok (Prod.ext hr rfl)
  have hn : ∀ t ∈ d.options.targets, t.Named := Recipe.Document.parse_named hd
  have hdocument : (Recipe.ofDocument d default none).document = r'.document := by
    obtain ⟨-, rfl⟩ := Recipe.validate_ok hv
    rfl
  have hvalid : r'.toSource.validated.truthy = true := by
    obtain ⟨-, rfl⟩ := Recipe.validate_ok hv
    rfl
  rw [← hdocument] at ht hc
  refine ⟨_, r', hv, ht, hn, hc, ?_, htree⟩
  obtain ⟨asks, -, -⟩ := custom_install hv ht hn (Engine.fresh Recipe.demoType label) hc
  have hnamed : t.Named := hn t (List.mem_of_find?_eq_some (hdocument ▸ hfound))
  have hselect : Hook.Inquires (selectTarget (some Script.prompter) r'.toSource.document
      { target := some "sandbox", customInstall := true, skipGroups := some [] })
      fun s => (.ok t, s) := by
    rw [selectTarget_of_found (by decide) hfound]
    exact Hook.Inquires.pure t
  obtain ⟨hasked, haliases⟩ := compile_told (e := Engine.fresh Recipe.demoType label)
    (s := ⟨[.ofStrings trialChecks], []⟩) hvalid hselect rfl (supplied_named hnamed) rfl
  refine (asks _ _ _).2 _ _ ⟨[], ["Select the step groups to install"]⟩ haliases ?_
  rw [hasked]
  rfl

end Demo

end Provision.Plan
