import Provision.Proofs.Interview.Rounds
import Provision.Proofs.Plan.HookCourse

/-!
# When compiling asks

A compile puts a question on three occasions only: when the one target there is would be
deleted, when there are several targets, and when the groups are to be chosen
(`Occasion`). On any other it is the same compile for whoever could have been asked
(`compile_asks`).
-/

namespace Provision.Interview

open Recipe (Target)

variable {π α : Type} {p : Prompter π}

def Prompter.logged (p : Prompter π) : Prompter (π × List String) where
  ask q message s := ((p.ask q message s.1).1, (p.ask q message s.1).2, s.2 ++ [message])
  size s := p.size s.1
  ask_lt h := p.ask_lt h

/-- One question, or row of questions, is the other with a record of at least `n` messages. -/
def Logs (n : Nat) (x : π × List String → Except Fault α × (π × List String))
    (y : π → Except Fault α × π) : Prop :=
  ∀ s log, ∃ more : List String, n ≤ more.length ∧ x (s, log) = ((y s).1, (y s).2, log ++ more)

theorem askAll_logs (questions : List Question) (answers : Answers) :
    Logs 0 (askAll p.logged questions answers) (askAll p questions answers) := by
  induction questions generalizing answers with
  | nil => exact fun s log => ⟨[], Nat.le_refl _, by simp [askAll]⟩
  | cons q rest ih =>
    intro s log
    cases hv : q.visible answers with
    | false => simpa [askAll, hv] using ih answers s log
    | true =>
      have hone : ∃ more : List String, askOne p.logged q answers (s, log) =
          ((askOne p q answers s).1, (askOne p q answers s).2, log ++ more) := by
        unfold askOne
        split
        · exact ⟨[], by simp⟩
        · split
          · exact ⟨[], by simp⟩
          · exact ⟨_, rfl⟩
      obtain ⟨more, hone⟩ := hone
      simp only [askAll, hv, if_true, hone]
      cases askOne p q answers s with
      | mk r s₁ =>
        cases r with
        | error f => exact ⟨more, Nat.zero_le _, rfl⟩
        | ok a =>
          obtain ⟨rest, -, hrest⟩ := ih (put q.name a answers) s₁ (log ++ more)
          exact ⟨more ++ rest, Nat.zero_le _, by simp [hrest]⟩

theorem interview_logs {q : Question} (hq : q.Sound) (hv : q.visible [] = true)
    (rest : List Question) :
    Logs 1 (interview p.logged (q :: rest)) (interview p (q :: rest)) := by
  intro s log
  obtain ⟨message, hm⟩ := hq.1 []
  have hone (π : Type) (p : Prompter π) (s : π) : askOne p q [] s = p.ask q message s := by
    unfold askOne
    rw [hm]
    dsimp only
    split
    · next name hk => exact absurd hk (hq.2 name)
    · rfl
  simp only [interview, askAll, hv, if_true, hone, Prompter.logged]
  cases p.ask q message s with
  | mk r s₁ =>
    cases r with
    | error f => exact ⟨[message], Nat.le_refl _, rfl⟩
    | ok a =>
      obtain ⟨more, -, hmore⟩ := askAll_logs (p := p) rest (put q.name a []) s₁ (log ++ [message])
      exact ⟨message :: more, by simp, by simpa [Prompter.logged] using hmore⟩

theorem chooseTarget_logs (targets : List Target) :
    Logs 1 (chooseTarget p.logged targets) (chooseTarget p targets) := by
  intro s log
  have hsound : (pickQuestion targets).Sound := ⟨fun _ => ⟨_, rfl⟩, fun _ h => by cases h⟩
  have hround (s : π) (log : List String) := interview_logs (p := p) hsound rfl
    [confirmQuestion deletionMessage (·.isScratchOrg),
      confirmQuestion validationMessage (!·.isScratchOrg), retryQuestion] s log
  fun_induction chooseTarget p targets s generalizing log with
  | case1 s f s' hi =>
    obtain ⟨more, hn, hmore⟩ := hround s log
    refine ⟨more, hn, chooseTarget_of_error (hmore.trans ?_)⟩
    rw [← targetQuestions, hi]
  | case2 s answers s' hi hnone =>
    obtain ⟨more, hn, hmore⟩ := hround s log
    rw [← targetQuestions, hi] at hmore
    refine ⟨more, hn, ?_⟩
    rw [chooseTarget_of_ok hmore, hnone]
  | case3 s answers s' hi t ht ha =>
    obtain ⟨more, hn, hmore⟩ := hround s log
    rw [← targetQuestions, hi] at hmore
    refine ⟨more, hn, ?_⟩
    rw [chooseTarget_of_ok hmore, ht]
    simp [ha]
  | case4 s answers s' hi t ht hno ha ih =>
    obtain ⟨more, hn, hmore⟩ := hround s log
    rw [← targetQuestions, hi] at hmore
    obtain ⟨rest, -, hrest⟩ := ih (log ++ more)
    refine ⟨more ++ rest, by simp; omega, ?_⟩
    rw [chooseTarget_of_ok hmore, ht]
    simp [hno, ha, hrest]
  | case5 s answers s' hi t ht hno ha =>
    obtain ⟨more, hn, hmore⟩ := hround s log
    rw [← targetQuestions, hi] at hmore
    refine ⟨more, hn, ?_⟩
    rw [chooseTarget_of_ok hmore, ht]
    simp [hno, ha]

theorem confirmRefresh_logs (t : Target) :
    Logs 1 (confirmRefresh p.logged t) (confirmRefresh p t) := by
  intro s log
  have hq : (refreshQuestion t).Sound := ⟨fun _ => ⟨_, rfl⟩, fun _ h => by cases h⟩
  obtain ⟨more, hn, hmore⟩ := interview_logs (p := p) hq rfl [] s log
  refine ⟨more, hn, ?_⟩
  simp only [confirmRefresh, hmore]
  cases interview p [refreshQuestion t] s with
  | mk r s₁ =>
    cases r with
    | error f => rfl
    | ok answers =>
      dsimp only
      split <;> rfl

end Provision.Interview

namespace Provision.Plan.Demo

open Recipe (Document Group Target)
open Interview

variable {π σ : Type} {p : Prompter π} {d : Document} {src : Engine.Source} {c : Choices}
  {e : Engine}

theorem askSkips_logs (aliases skipped : List String) :
    Logs 1 (askSkips p.logged aliases skipped) (askSkips p aliases skipped) := by
  intro s log
  obtain ⟨more, hn, hmore⟩ :=
    interview_logs (p := p) (groupsQuestion_sound aliases skipped) rfl [] s log
  refine ⟨more, hn, ?_⟩
  simp only [askSkips, hmore]
  cases interview p [groupsQuestion aliases skipped] s with
  | mk r s₁ => cases r <;> rfl

-- ---------------------------------------------------------------------------
-- Selecting the target
-- ---------------------------------------------------------------------------

/-- An occasion to ask: to confirm that the one target there is may be deleted, to select one of
several targets, or to choose the groups, with a target selected. -/
inductive Occasion (d : Document) (c : Choices) (e : Engine) : Prop
  | consent {t : Target} (hn : c.target.getD "" = "") (ht : d.options.targets = [t])
      (hs : t.isScratchOrg = true) (hr : c.skipOrgRefresh = false) (hy : c.assumeYes = false)
  | target (hn : c.target.getD "" = "") (ht : 2 ≤ d.options.targets.length)
  | groups {t : Target} (ht : e.setting.bind (·.target) = some t) (hs : c.skipGroups = none)
      (hc : c.customInstall = true) (hw : d.options.noCustomInstall = false)

/-- The only occasion to ask is the choice of the groups. -/
def Settled (d : Document) (c : Choices) : Prop :=
  ∀ e, Occasion d c e → (e.setting.bind (·.target)).isSome = true ∧ chooses d c = true

/-- Selecting a target is no question, or it is the same question to whoever is asked. -/
inductive Selects (d : Document) (c : Choices) : Prop
  | told (r : Except Fault Target) (hn : Settled d c)
      (hr : ∀ t, r = .ok t → t ∈ d.options.targets)
      (h : ∀ (π : Type) (p : Option (Prompter π)),
        Hook.Inquires (selectTarget p d c) fun s => (r, s))
  | asked (ha : ∀ e, Occasion d c e)
      (h : ∀ (π : Type) (p : Prompter π), ∃ question question',
        Hook.Inquires (selectTarget (some p) d c) question ∧
        Hook.Inquires (selectTarget (some p.logged) d c) question' ∧ Logs 1 question' question)

theorem Occasion.isSome {t : Target} (ht : e.setting.bind (·.target) = some t)
    (hs : c.skipGroups = none) (hc : c.customInstall = true)
    (hw : d.options.noCustomInstall = false) :
    (e.setting.bind (·.target)).isSome = true ∧ chooses d c = true := by
  simp [ht, chooses, hs, hc, hw]

theorem settled_of_named (hn : c.target.getD "" ≠ "") : Settled d c := by
  intro e h
  cases h with
  | consent h => exact absurd h hn
  | target h => exact absurd h hn
  | groups ht hs hc hw => exact Occasion.isSome ht hs hc hw

theorem settled_of_nil (ht : d.options.targets = []) : Settled d c := by
  intro e h
  cases h with
  | consent _ h => simp [ht] at h
  | target _ h => simp [ht] at h
  | groups ht hs hc hw => exact Occasion.isSome ht hs hc hw

theorem settled_of_one {t : Target} (ht : d.options.targets = [t])
    (hneed : (t.isScratchOrg && !c.skipOrgRefresh && !c.assumeYes) = false) : Settled d c := by
  intro e h
  cases h with
  | consent _ h hs hr hy =>
    cases ht.symm.trans h
    simp [hs, hr, hy] at hneed
  | target _ h => simp [ht] at h
  | groups ht hs hc hw => exact Occasion.isSome ht hs hc hw

section

variable {p? : Option (Prompter π)} {t : Target}

theorem selectTarget_of_found (hn : c.target.getD "" ≠ "")
    (ht : d.target? (c.target.getD "") = some t) : selectTarget p? d c = pure t := by
  unfold selectTarget
  dsimp only
  rw [if_pos hn, ht]

theorem selectTarget_of_unknown (hn : c.target.getD "" ≠ "")
    (ht : d.target? (c.target.getD "") = none) :
    ∃ f, ∀ (π : Type) (p? : Option (Prompter π)), selectTarget p? d c = throw f := by
  refine ⟨?f, fun π p? => ?_⟩
  rotate_left
  · unfold selectTarget
    dsimp only
    rw [if_pos hn, ht]

theorem selectTarget_of_nil (hn : c.target.getD "" = "") (ht : d.options.targets = []) :
    ∃ f, ∀ (π : Type) (p? : Option (Prompter π)), selectTarget p? d c = throw f := by
  refine ⟨?f, fun π p? => ?_⟩
  rotate_left
  · unfold selectTarget
    rw [ht]
    exact if_neg (not_not.2 hn)

theorem selectTarget_of_one (hn : c.target.getD "" = "") (ht : d.options.targets = [t]) :
    selectTarget p? d c = consent p? c t >>= fun _ => pure t := by
  unfold selectTarget
  rw [ht]
  exact if_neg (not_not.2 hn)

theorem selectTarget_of_many {t₁ t₂ : Target} {rest : List Target} (hn : c.target.getD "" = "")
    (ht : d.options.targets = t₁ :: t₂ :: rest) :
    selectTarget (some p) d c = Hook.ask (chooseTarget p (t₁ :: t₂ :: rest)) := by
  unfold selectTarget
  rw [ht]
  exact if_neg (not_not.2 hn)

theorem inquires_of_one (hn : c.target.getD "" = "") (ht : d.options.targets = [t])
    (hneed : (t.isScratchOrg && !c.skipOrgRefresh && !c.assumeYes) = true) :
    Hook.Inquires (selectTarget (some p) d c) fun s =>
      ((confirmRefresh p t s).1.map fun _ => t, (confirmRefresh p t s).2) := by
  rw [selectTarget_of_one hn ht]
  unfold consent
  rw [if_pos hneed]
  exact (Hook.Inquires.ask _).map fun _ => t

theorem inquires_of_many {t₁ t₂ : Target} {rest : List Target} (hn : c.target.getD "" = "")
    (ht : d.options.targets = t₁ :: t₂ :: rest) :
    Hook.Inquires (selectTarget (some p) d c) (chooseTarget p (t₁ :: t₂ :: rest)) := by
  rw [selectTarget_of_many hn ht]
  exact Hook.Inquires.ask _

end

theorem selects_of_one {t : Target} (hn : c.target.getD "" = "") (ht : d.options.targets = [t]) :
    Selects d c := by
  cases hneed : t.isScratchOrg && !c.skipOrgRefresh && !c.assumeYes with
  | false =>
    refine .told (.ok t) (settled_of_one ht hneed) (by simp [ht]) fun π p => ?_
    rw [selectTarget_of_one hn ht]
    unfold consent
    rw [hneed]
    exact Hook.Inquires.pure t
  | true =>
    obtain ⟨⟨hs, hr⟩, hy⟩ : (t.isScratchOrg = true ∧ c.skipOrgRefresh = false) ∧
        c.assumeYes = false := by simpa using hneed
    refine .asked (fun e => .consent hn ht hs hr hy) fun π p =>
      ⟨_, _, inquires_of_one hn ht hneed, inquires_of_one hn ht hneed, fun s log => ?_⟩
    obtain ⟨more, hmore, hlogs⟩ := confirmRefresh_logs (p := p) t s log
    exact ⟨more, hmore, by simp [hlogs]⟩

theorem selects_of_named (hn : c.target.getD "" ≠ "") : Selects d c := by
  cases ht : d.target? (c.target.getD "") with
  | none =>
    obtain ⟨f, h⟩ := selectTarget_of_unknown hn ht
    refine .told (.error f) (settled_of_named hn) (fun t h => nomatch h) fun π p => ?_
    rw [h]
    exact Hook.Inquires.throw f
  | some t =>
    have hmem : t ∈ d.options.targets := List.mem_of_find?_eq_some ht
    refine .told (.ok t) (settled_of_named hn) (by simpa using hmem) fun π p => ?_
    rw [selectTarget_of_found hn ht]
    exact Hook.Inquires.pure t

theorem selects (d : Document) (c : Choices) : Selects d c := by
  by_cases hn : c.target.getD "" = ""
  · match ht : d.options.targets with
    | [] =>
      obtain ⟨f, h⟩ := selectTarget_of_nil hn ht
      refine .told (.error f) (settled_of_nil ht) (fun t h => nomatch h) fun π p => ?_
      rw [h]
      exact Hook.Inquires.throw f
    | [t] => exact selects_of_one hn ht
    | t₁ :: t₂ :: rest =>
      exact .asked (fun e => .target hn (by simp [ht])) fun π p =>
        ⟨_, _, inquires_of_many hn ht, inquires_of_many hn ht, chooseTarget_logs _⟩
  · exact selects_of_named hn

-- ---------------------------------------------------------------------------
-- Compiling
-- ---------------------------------------------------------------------------

theorem supplied_named {t : Target} (ht : t.Named) : supplied c t = .ok (refreshGroups c t) := by
  unfold supplied refreshGroups
  split
  · cases hg : formed (refreshGroup t) with
    | error f => exact absurd (refreshGroup_sound ht.2) (formed_error hg).1
    | ok g =>
      cases formed_ok hg
      rfl
  · rfl

theorem skipping_of_not_chooses (h : chooses d c = false) (p : Option (Prompter π))
    (aliases : List String) (s : π) :
    skipping p d c aliases s = (.ok (c.skipGroups.getD d.options.skipGroups), s) := by
  cases p <;> simp [skipping, h]

theorem skipping_logs (h : chooses d c = true) (p : Prompter π) (aliases : List String) :
    Logs 1 (skipping (some p.logged) d c aliases) (skipping (some p) d c aliases) := by
  intro s log
  simpa [skipping, h] using askSkips_logs aliases d.options.skipGroups s log

variable (d c) in
theorem skipping_logged (p : Prompter π) (aliases : List String) (s : π) (log : List String) :
    ∃ more, skipping (some p.logged) d c aliases (s, log) =
      ((skipping (some p) d c aliases s).1, (skipping (some p) d c aliases s).2, log ++ more) := by
  cases h : chooses d c with
  | false => exact ⟨[], by simp [skipping_of_not_chooses h]⟩
  | true =>
    obtain ⟨more, -, hmore⟩ := skipping_logs h p aliases s log
    exact ⟨more, hmore⟩

variable (src c) in
/-- The hooks come to the same with a record of what they ask. Something is in it only on an
occasion to ask, and nothing only if there is none. -/
def Recorded (p : Prompter π) (s : π) : Prop :=
  ∃ (r : Except Fault Unit) (b : Build Unit) (s₁ : π) (log : List String),
    (runHooks (make (some p)) src.document Phase.all).run.run
        (Engine.slate (make (some p)).type src c s) = (r, b.facing s₁) ∧
    (runHooks (make (some p.logged)) src.document Phase.all).run.run
        (Engine.slate (make (some p.logged)).type src c (s, [])) = (r, b.facing (s₁, log)) ∧
    (log ≠ [] → (∀ e, Occasion src.document c e) ∨
      b.setting.target.isSome = true ∧ chooses src.document c = true) ∧
    (log = [] → Settled src.document c ∧
      (b.setting.target.isSome = true → chooses src.document c = false))

theorem recorded_of_told {r : Except Fault Target} (hno : Settled src.document c)
    (hr : ∀ t, r = .ok t → t.Named)
    (h : ∀ (π : Type) (p : Option (Prompter π)),
      Hook.Inquires (selectTarget p src.document c) fun s => (r, s))
    (p : Prompter π) (s : π) : Recorded src c p s := by
  unfold Recorded
  rw [hooks_run _ _ _ _ (h _ _), hooks_run _ _ _ _ (h _ _)]
  cases r with
  | error f =>
    exact ⟨_, _, s, [], rfl, rfl, by simp, fun _ => ⟨hno, by simp [opened, Engine.slate]⟩⟩
  | ok t =>
    simp only [supplied_named (hr t rfl)]
    cases hc : chooses src.document c with
    | false =>
      simp only [skipping_of_not_chooses hc]
      exact ⟨_, _, s, [], rfl, rfl, by simp, fun _ => ⟨hno, by simp⟩⟩
    | true =>
      obtain ⟨more, hmore, hlogs⟩ := skipping_logs hc p (Recipe.groupAliases
        (refreshGroups c t ++ src.document.groups)) s []
      have hne : [] ++ more ≠ [] := by simpa using List.ne_nil_of_length_pos hmore
      simp only [hlogs]
      cases skipping (some p) src.document c
          (Recipe.groupAliases (refreshGroups c t ++ src.document.groups)) s with
      | mk r s₁ =>
        cases r <;>
          exact ⟨_, _, s₁, _, rfl, rfl, fun _ => .inr ⟨rfl, trivial⟩, fun h => absurd h hne⟩

theorem recorded_of_asked {p : Prompter π} {question : π → Except Fault Target × π}
    {question' : π × List String → Except Fault Target × (π × List String)}
    (ha : ∀ e, Occasion src.document c e)
    (hq : Hook.Inquires (selectTarget (some p) src.document c) question)
    (hq' : Hook.Inquires (selectTarget (some p.logged) src.document c) question')
    (hlogs : Logs 1 question' question) (s : π) : Recorded src c p s := by
  unfold Recorded
  obtain ⟨more, hmore, hmore'⟩ := hlogs s []
  have hne (rest : List String) : [] ++ more ++ rest ≠ [] := by
    simpa using fun h => absurd h (List.ne_nil_of_length_pos hmore)
  have hne' : [] ++ more ≠ [] := by simpa using hne []
  rw [hooks_run _ _ _ _ hq, hooks_run _ _ _ _ hq', hmore']
  cases question s with
  | mk r s₁ =>
    cases r with
    | error f => exact ⟨_, _, s₁, _, rfl, rfl, fun _ => .inl ha, fun h => absurd h hne'⟩
    | ok t =>
      dsimp only
      cases supplied c t with
      | error f => exact ⟨_, _, s₁, _, rfl, rfl, fun _ => .inl ha, fun h => absurd h hne'⟩
      | ok gs =>
        dsimp only
        obtain ⟨rest, hrest⟩ := skipping_logged src.document c p
          (Recipe.groupAliases (gs ++ src.document.groups)) s₁ ([] ++ more)
        rw [hrest]
        cases skipping (some p) src.document c
            (Recipe.groupAliases (gs ++ src.document.groups)) s₁ with
        | mk r s₂ =>
          cases r <;>
            exact ⟨_, _, s₂, _, rfl, rfl, fun _ => .inl ha, fun h => absurd h (hne rest)⟩

variable (src) in
/-- A compile that keeps a record of what it asks comes to the same. -/
theorem hooks_logged (hn : ∀ t ∈ src.document.options.targets, t.Named) (c : Choices)
    (p : Prompter π) (s : π) : Recorded src c p s := by
  cases selects src.document c with
  | told r hno hr h => exact recorded_of_told hno (fun t ht => hn t (hr t ht)) h p s
  | asked ha h =>
    obtain ⟨question, question', hq, hq', hlogs⟩ := h π p
    exact recorded_of_asked ha hq hq' hlogs s

theorem hooks_aimed {p : Option (Prompter π)} {t : Target} (s : π)
    (hq : Hook.Inquires (selectTarget p src.document c) fun s => (.ok t, s)) :
    ∃ (r : Except Fault Unit) (b : Build π),
      (runHooks (make p) src.document Phase.all).run.run (Engine.slate (make p).type src c s) =
        (r, b) ∧ b.setting.target = some t := by
  rw [hooks_run _ _ _ _ hq]
  dsimp only
  cases supplied c t with
  | error f => exact ⟨_, _, rfl, rfl⟩
  | ok gs =>
    dsimp only
    cases skipping p src.document c (Recipe.groupAliases (gs ++ src.document.groups)) s with
    | mk r s₁ => cases r <;> exact ⟨_, _, rfl, rfl⟩

theorem occasion_of_chooses (ht : (e.setting.bind (·.target)).isSome = true)
    (hc : chooses d c = true) : Occasion d c e := by
  obtain ⟨t, ht⟩ := Option.isSome_iff_exists.1 ht
  simp only [chooses, Bool.and_eq_true, Option.isNone_iff_eq_none, Bool.not_eq_true'] at hc
  exact .groups ht hc.1.1 hc.1.2 hc.2

/-- Without an occasion to ask, the hooks leave the same build to whoever could have been asked. -/
theorem hooks_unasked (hv : src.validated.truthy = true) {p : Option (Prompter π)} {s : π}
    (hno : ¬Occasion src.document c (e.compile (make p) src c s).engine) :
    ∃ (r : Except Fault Unit) (b : Build Unit), ∀ (σ : Type) (p : Option (Prompter σ)) (u : σ),
      (runHooks (make p) src.document Phase.all).run.run (Engine.slate (make p).type src c u) =
        (r, b.facing u) := by
  cases selects src.document c with
  | asked ha => exact absurd (ha _) hno
  | told r _ _ h =>
    cases r with
    | error f =>
      refine ⟨.error f, opened src c, fun σ p u => ?_⟩
      rw [hooks_run _ _ _ _ (h _ _)]
    | ok t =>
      have hc : chooses src.document c = false := by
        obtain ⟨r, b, hrun, ht⟩ := hooks_aimed s (h π p)
        refine Bool.eq_false_iff.2 fun hc => hno (occasion_of_chooses ?_ hc)
        rw [compile_target hrun hv, ht]
        rfl
      cases hg : supplied c t with
      | error f =>
        refine ⟨.error f, aimed src c t, fun σ p u => ?_⟩
        rw [hooks_run _ _ _ _ (h _ _)]
        simp only [hg]
      | ok gs =>
        refine ⟨.ok (), filled src c t gs (c.skipGroups.getD src.document.options.skipGroups) [],
          fun σ p u => ?_⟩
        have hremarks : remarks p src.document c = [] := by simp [remarks, hc]
        rw [hooks_run _ _ _ _ (h _ _)]
        simp only [hg, skipping_of_not_chooses hc, hremarks]

/-- A compile asks on the occasions that there are for it, and on no other. Without one it comes
to the same for whoever could have been asked. Prompters are those that have only so many answers
left (`Prompter.ask_lt`). -/
theorem compile_asks {r r' : Recipe} (hv : r.validate = .ok r')
    (hn : ∀ t ∈ r.document.options.targets, t.Named) (e : Engine) (c : Choices) :
    (∀ (π : Type) (p : Prompter π) (s : π),
      let told := e.compile (make (some p.logged)) r'.toSource c (s, [])
      told.Agrees (e.compile (make (some p)) r'.toSource c s) ∧
        told.asked.1 = (e.compile (make (some p)) r'.toSource c s).asked ∧
        (told.asked.2 ≠ [] ↔ Occasion r.document c told.engine)) ∧
    ∀ (π σ : Type) (p : Option (Prompter π)) (s : π) (p' : Option (Prompter σ)) (u : σ),
      ¬Occasion r.document c (e.compile (make p) r'.toSource c s).engine →
        (e.compile (make p) r'.toSource c s).Agrees (e.compile (make p') r'.toSource c u) ∧
          (e.compile (make p) r'.toSource c s).asked = s ∧
          (e.compile (make p') r'.toSource c u).asked = u := by
  obtain ⟨-, rfl⟩ := Recipe.validate_ok hv
  constructor
  · intro π p s told
    obtain ⟨res, b, s₁, log, hrun, hlogged, hspoke, hsilent⟩ :=
      hooks_logged { r with validated := .bool true }.toSource hn c p s
    have htarget := compile_target (e := e) hlogged rfl
    obtain ⟨hasked, -⟩ := compile_holding (e := e) hlogged rfl
    obtain ⟨hasked', -⟩ := compile_holding (e := e) hrun rfl
    refine ⟨compile_agrees hlogged hrun, ?_, ?_⟩
    · rw [hasked, hasked']
      rfl
    · have hlog : told.asked.2 = log := by rw [hasked]; rfl
      rw [hlog]
      constructor
      · intro hne
        rcases hspoke hne with hall | ⟨ht, hc⟩
        · exact hall _
        · exact occasion_of_chooses (htarget ▸ ht) hc
      · intro ho hnil
        obtain ⟨hsettled, hno⟩ := hsilent hnil
        obtain ⟨ht, hc⟩ := hsettled _ ho
        rw [htarget] at ht
        exact Bool.false_ne_true ((hno ht).symm.trans hc)
  · intro π σ p s p' u hno
    have hv : ({ r with validated := .bool true } : Recipe).toSource.validated.truthy = true := rfl
    obtain ⟨res, b, hrun⟩ := hooks_unasked hv hno
    exact ⟨compile_agrees (hrun _ p s) (hrun _ p' u), (compile_holding (hrun _ p s) rfl).1,
      (compile_holding (hrun _ p' u) rfl).1⟩

theorem trial_pair : ∃ r, trial = .ok r ∧ 2 ≤ r.document.options.targets.length := by
  have h : trial.toOption.any (fun r => 2 ≤ r.document.options.targets.length) = true := by
    decide +kernel
  cases hr : trial with
  | error f =>
    rw [hr] at h
    cases h
  | ok r => exact ⟨r, rfl, by simpa [hr, Except.toOption] using h⟩

/-- Which of its two orgs the trial is for is asked for, unless that is said beforehand. -/
theorem trial_asks :
    ∃ r r' : Recipe, r.validate = .ok r' ∧ (∀ t ∈ r.document.options.targets, t.Named) ∧
      (∀ (e : Engine) (s : Script),
        (e.compile (make (some Script.prompter.logged)) r'.toSource {} (s, [])).asked.2 ≠ []) ∧
      ∀ (e : Engine) (s : Script),
        let told := e.compile (make (some Script.prompter)) r'.toSource
          { target := some "sandbox" } s
        told.Agrees (e.compile (make none) r'.toSource { target := some "sandbox" } ()) ∧
          told.asked = s := by
  obtain ⟨r', hr, htwo⟩ := trial_pair
  obtain ⟨d, hd, hv⟩ := Recipe.ofData_ends.ok (Prod.ext hr rfl)
  have hn : ∀ t ∈ (Recipe.ofDocument d default none).document.options.targets, t.Named :=
    Recipe.Document.parse_named hd
  obtain ⟨-, rfl⟩ := Recipe.validate_ok hv
  refine ⟨_, _, hv, hn, fun e s => ?_, fun e s => ?_⟩
  · obtain ⟨hasks, -⟩ := compile_asks hv hn e {}
    obtain ⟨-, -, hiff⟩ := hasks Script Script.prompter s
    exact hiff.2 (.target rfl htwo)
  · obtain ⟨-, hsilent⟩ := compile_asks hv hn e { target := some "sandbox" }
    have hno (e' : Engine) :
        ¬Occasion (Recipe.ofDocument d default none).document { target := some "sandbox" } e' := by
      have hsaid : ¬(some "sandbox").getD "" = "" := by decide
      rintro (⟨hnone, -⟩ | ⟨hnone, -⟩ | ⟨-, -, hcustom, -⟩)
      · exact hsaid hnone
      · exact hsaid hnone
      · cases hcustom
    obtain ⟨hagrees, hasked, -⟩ := hsilent Script Unit (some Script.prompter) s none () (hno _)
    exact ⟨hagrees, hasked⟩

end Provision.Plan.Demo
