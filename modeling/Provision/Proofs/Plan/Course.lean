import Provision.Proofs.Plan.Announcements

/-!
# The course of a run

A run attempts the tasks of its tree one after the other, and the outcome of the run
holds the outcomes of the rows of attempts (`runGroups_course`). Unless its listener
breaks it off, it announces all of them.
-/

namespace Provision.Plan

open Stage Watched Outcome

variable {σ : Type} {r : Runner σ} {terms : Terms}

-- ---------------------------------------------------------------------------
-- Tasks
-- ---------------------------------------------------------------------------

theorem taskOutcome_objection (a : Action) (t : Task) (s : Stage σ) :
    ((taskOutcome r terms a t).run s).2.objection = s.objection :=
  taskOutcome_keeps lasting_objection.steady (call_keeps r.keeps_objection) a t s

theorem taskOutcome_progressed (a : Action) (t : Task) (s : Stage σ) :
    Progressed s ((taskOutcome r terms a t).run s).2 :=
  taskOutcome_keeps steady_progressed (call_keeps r.keeps_progressed) a t s

theorem runTask_course {a : Action} {t : Task} (ha : terms.registry.resolve t.action = .ok a)
    (s : Stage σ) :
    Triple (runTask r terms a t) s
      (fun o s' => Attempts r terms s [⟨t, some o⟩] s' ∧ Tells (Attempt.Told ⟨t, some o⟩) s s')
      (CutOff r terms [t.name] [t] s) := by
  refine .bind (triple_tell fun f he => .of_start (.refl s) (by simp) he) fun _ s₁ ho₁ h₁ => ?_
  refine .bind (triple_note _ s₁) fun _ s₂ ho₂ h₂ => ?_
  have hq := h₁.1.trans h₂.1
  refine .bind (.lift (Q := fun o s₃ => (taskOutcome r terms a t).run s₂ = (o, s₃))
    (taskOutcome_objection a t s₂) rfl) fun o s₃ ho₃ hrun => ?_
  obtain ⟨texts, hprogress⟩ : Progressed s₂ s₃ := by
    have h := @taskOutcome_progressed _ r terms a t s₂
    rwa [hrun] at h
  refine .bind (triple_note _ s₃) fun _ s₄ ho₄ h₄ => ?_
  have ho := ho₄.trans (ho₃.trans (ho₂.trans ho₁))
  refine .bind (triple_tell fun f he => ?_) fun _ s₅ _ h₅ => .pure ⟨?_, ?_⟩
  · refine ⟨[⟨t, some o⟩], _, .known hq ha hrun (.none h₄.1),
      .last (b := Attempt.mk t (some o)), ho ▸ he, ?_⟩
    exact .closing (by simp) (fun hbad => ⟨⟨t, some o⟩, by simp, Attempt.not_well hbad⟩) _
  · exact .known hq ha hrun (.none (h₄.1.trans h₅.1))
  · refine ⟨_, ?_, o, texts, rfl, rfl⟩
    simp [h₅.2, h₄.2, hprogress, h₂.2, h₁.2]

theorem runTasks_course {names : List String} {g : TaskGroup} (hg : g.name ∈ names)
    (tasks : List Task) (ht : ∀ t ∈ tasks, t.name ∈ names) {group : Outcome}
    (ho : group.finalized = false) (hp : group.policy = { bubbleError := terms.halt })
    {s₀ s : Stage σ} {done : List Attempt} (hdone : Attempts r terms s₀ done s)
    (hobj : s.objection = s₀.objection) (hs : done.any (Attempt.stops terms.halt) = false)
    (hbad : group.settled.ok = false → ∃ a ∈ done, ¬a.Well) :
    Triple (runTasks r terms g group tasks) s
      (fun o s' => ∃ as, Attempts r terms s as s' ∧
        Reach Attempt.task (Attempt.stops terms.halt) tasks as ∧ GroupEnded terms group as o ∧
          Tells (Continued terms g o as) s s')
      (CutOff r terms names (done.map (·.task) ++ tasks) s₀) := by
  induction tasks generalizing group s done with
  | nil =>
    refine .bind (triple_clock s) fun now s₁ _ h₁ => ?_
    obtain ⟨-, rfl⟩ := h₁
    refine .bind (triple_tell fun f he => ?_) fun _ s₂ _ h₂ => .pure ?_
    · refine .beyond hdone hs (.none (.refl s₁)) .none (hobj ▸ he) (.closing hg ?_ _)
      simpa [finish_of_open ho] using hbad
    · exact ⟨[], .none h₂.1, .done, .of_finish ho now, _, h₂.2, .finished .nil⟩
  | cons t rest ih =>
    obtain ⟨htn, hrest⟩ := List.forall_mem_cons.1 ht
    unfold runTasks
    cases ha : terms.registry.resolve t.action with
    | error f =>
      refine .bind (triple_note _ s) fun _ s₁ ho₁ h₁ => ?_
      refine .bind (triple_clock s₁) fun now s₂ _ h₂ => ?_
      obtain ⟨-, rfl⟩ := h₂
      have hlast : Attempt.stops terms.halt ⟨t, none⟩ = true := rfl
      refine .bind (triple_tell fun f' he => ?_) fun _ s₃ _ h₃ => .pure ?_
      · refine .beyond hdone hs (.unknown h₁.1 ha (.none (.refl s₂)))
          (.last (b := Attempt.mk t none)) ((ho₁.trans hobj) ▸ he) ?_
        exact .failure (a := ⟨t, none⟩) (by simp) Attempt.not_well_none _
      · refine ⟨[⟨t, none⟩], .unknown h₁.1 ha (.none h₃.1), .stop hlast, .of_unknown ho ha now,
          _, h₃.2.trans (by rw [h₁.2]), ?_⟩
        exact .unknown (t := t) .nil ha
    | ok a =>
      refine .bind ((runTask_course ha s).imp (fun _ _ => id) fun f u h => ?_)
        fun o s₁ ho₁ hran => ?_
      · exact .after hdone hobj hs ((h.mono (by simpa using htn)).append_left rest)
      obtain ⟨hrun, es, hes, htold⟩ := hran
      refine .bind (triple_clock s₁) fun now s₂ ho₂ h₂ => ?_
      obtain ⟨-, rfl⟩ := h₂
      have hstop : Attempt.stops terms.halt ⟨t, some o⟩ = group.policy.ends o.status := by
        simp [Attempt.stops, hp, Policy.ends]
      dsimp only
      cases he : group.policy.ends o.status with
      | true =>
        rw [attach_of_ends ho he]
        refine .bind (triple_tell fun f hf => ?_) fun _ s₃ _ h₃ => .pure ?_
        · refine .beyond hdone hs hrun (.last (b := Attempt.mk t (some o)))
            ((ho₁.trans hobj) ▸ hf) ?_
          refine .failure (a := ⟨t, some o⟩) (by simp) (Attempt.not_well ?_) _
          have herr : o.status = .error := by simp_all [Policy.ends]
          rw [herr]
          rfl
        · have hend : GroupEnded terms group [⟨t, some o⟩] (group.attach o now).outcome :=
            .of_ends ho he now
          rw [attach_of_ends ho he] at hend
          refine ⟨[⟨t, some o⟩], hrun.quiet_right h₃.1,
            .stop (b := Attempt.mk t (some o)) (hstop.trans he), hend, _, ?_,
            .cons htold (.failed .nil broken_status)⟩
          rw [h₃.2, hes, List.append_assoc]
          rfl
      | false =>
        rw [attach_of_not_ends ho he]
        -- What has been taken in can only be bad on account of an attempt that is.
        have hbad' : (group.taking [o]).settled.ok = false →
            ∃ a ∈ done ++ [⟨t, some o⟩], ¬a.Well := by
          intro hno
          cases hg' : group.settled.ok with
          | false =>
            obtain ⟨a, ha, hw⟩ := hbad hg'
            exact ⟨a, List.mem_append_left _ ha, hw⟩
          | true =>
            refine ⟨⟨t, some o⟩, by simp, Attempt.not_well ?_⟩
            refine eq_false_of_ne_true fun hok => ?_
            rw [settled_taking_ok hg' hok] at hno
            cases hno
        have hall : (done ++ [Attempt.mk t (some o)]).any (Attempt.stops terms.halt) = false := by
          simp [hs, hstop.trans he]
        have hopen : (group.taking [o]).finalized = false := ho
        refine (ih hrest hopen hp (hdone.append hrun) (ho₁.trans hobj) hall hbad').imp ?_ ?_
        · rintro o' s' ⟨as, hrun', hreach, hend, more, hmore, hcontinued⟩
          refine ⟨⟨t, some o⟩ :: as, hrun.append hrun',
            .next (b := Attempt.mk t (some o)) (hstop.trans he) hreach, hend.cons he, es ++ more, ?_,
            .cons htold hcontinued⟩
          rw [hmore, hes, List.append_assoc]
        · intro f u h
          simpa using h

-- ---------------------------------------------------------------------------
-- Runs
-- ---------------------------------------------------------------------------

def Tree.names (t : Tree) : List String := t.flatMap fun g => g.name :: g.tasks.map (·.name)

theorem runGroup_course (g : TaskGroup) (s : Stage σ) :
    Triple (runGroup r terms g) s
      (fun o s' => ∃ as, Attempts r terms s as s' ∧ Row.Ran terms ⟨g, as, o⟩ ∧
        Tells (Row.Told terms ⟨g, as, o⟩) s s')
      (CutOff r terms (Tree.names [g]) g.tasks s) := by
  have hg : g.name ∈ Tree.names [g] := by simp [Tree.names]
  have ht : ∀ t ∈ g.tasks, t.name ∈ Tree.names [g] := by
    intro t ht
    simpa [Tree.names] using .inr ⟨t, ht, rfl⟩
  refine .bind (triple_tell fun f he => .of_start (.refl s) hg he) fun _ s₁ ho₁ h₁ => ?_
  refine .bind (triple_clock s₁) fun now s₂ _ h₂ => ?_
  obtain ⟨-, rfl⟩ := h₂
  have hbad : (g.begun terms now).settled.ok = false → ∃ a ∈ ([] : List Attempt), ¬a.Well := by
    simp [settled, TaskGroup.begun_status, Status.pending, Status.ok]
  refine (runTasks_course hg g.tasks ht (TaskGroup.begun_finalized g terms now)
    (TaskGroup.begun_policy g terms now) (.none h₁.1) ho₁ rfl hbad).imp ?_ ?_
  · rintro o s' ⟨as, hrun, hreach, hend, es, hes, hcontinued⟩
    refine ⟨as, hrun.quiet_left h₁.1, ⟨hreach, now, hend⟩, _, ?_, es, rfl, hcontinued⟩
    rw [hes, h₁.2, List.append_assoc]
    rfl
  · exact fun f u h => h

/-- What a run has done: the groups it entered, as far as the first that stopped it, and in each
the attempts, one after the other, with what was told of them. -/
structure Course (r : Runner σ) (terms : Terms) (groups : Tree) (s s' : Stage σ)
    (rows : List Row) : Prop where
  attempts : Attempts r terms s (attempted rows) s'
  reach : Reach Row.group (Row.stops terms.halt) groups rows
  ran : ∀ row ∈ rows, row.Ran terms
  told : Tells (Pieces (Row.Told terms) rows) s s'

/-- The run of a tree takes its course and its outcome comes of that, unless a listener breaks
it off. -/
theorem runGroups_course (groups : Tree) {run : Outcome} (ho : run.finalized = false)
    (hp : run.policy = {}) (s : Stage σ) :
    Triple (runGroups r terms run groups) s
      (fun reply s' => ∃ rows, Course r terms groups s s' rows ∧
        run.Filled (Row.outcomes rows) reply)
      (CutOff r terms groups.names groups.tasks s) := by
  induction groups generalizing run s with
  | nil =>
    refine .bind (triple_clock s) fun now s₁ _ h₁ => .pure ?_
    obtain ⟨-, rfl⟩ := h₁
    exact ⟨[], ⟨.none (.refl _), .done, by simp, [], by simp, .nil⟩, .of_finish ho now⟩
  | cons g rest ih =>
    have hnames : Tree.names (g :: rest) = Tree.names [g] ++ Tree.names rest := by simp [Tree.names]
    have htasks : Tree.tasks (g :: rest) = g.tasks ++ Tree.tasks rest := by simp [Tree.tasks]
    rw [hnames, htasks]
    refine .bind ((runGroup_course g s).imp (fun _ _ => id) fun f u h => ?_)
      fun o s₁ ho₁ hgroup => ?_
    · exact (h.mono (List.subset_append_left ..)).append_left _
    obtain ⟨as, hrun, hran, es, hes, htold⟩ := hgroup
    refine .bind (triple_clock s₁) fun now s₂ _ h₂ => ?_
    obtain ⟨-, rfl⟩ := h₂
    have hs : Row.stops terms.halt ⟨g, as, o⟩ = run.policy.ends o.status :=
      (hran.ends run.policy hp).symm
    dsimp only
    cases he : run.policy.ends o.status with
    | true =>
      have hfilled := Filled.of_ends ho he now
      rw [attach_of_ends ho he] at hfilled ⊢
      refine .pure ⟨[⟨g, as, o⟩], ⟨?_, .stop (b := Row.mk g as o) (hs.trans he), ?_, _, ?_,
        .cons htold .nil⟩, hfilled⟩
      · simpa [attempted] using hrun
      · simpa using hran
      · rw [hes, List.append_nil]
    | false =>
      rw [attach_of_not_ends ho he]
      have hgo : as.any (Attempt.stops terms.halt) = false := hs.trans he
      have hopen : (run.taking [o]).finalized = false := ho
      refine (ih hopen hp s₂).imp ?_ ?_
      · rintro reply s' ⟨rows, ⟨hrest, hreach, hall, more, hmore, hpieces⟩, hfilled⟩
        refine ⟨⟨g, as, o⟩ :: rows, ⟨hrun.append hrest, .next (b := Row.mk g as o) hgo hreach,
          List.forall_mem_cons.2 ⟨hran, hall⟩, es ++ more, ?_, .cons htold hpieces⟩,
          hfilled.cons he⟩
        rw [hmore, hes, List.append_assoc]
      · intro f u h
        have hmap : as.map (·.task) = g.tasks := hran.reach.map_eq hgo
        exact hmap ▸ .after hrun ho₁ hgo (h.mono (List.subset_append_right ..))

namespace Course

variable {groups : Tree} {s s' : Stage σ} {rows : List Row}

theorem noted (h : Course r terms groups s s' rows) (rs : List Record) :
    Course r terms groups s { s' with records := s'.records ++ rs } rows :=
  ⟨h.attempts.quiet_right (quiet_records s' rs), h.reach, h.ran, h.told⟩

/-- Over all groups, the run gets as far as the first attempt that stops it. -/
theorem reach_tasks (h : Course r terms groups s s' rows) :
    Reach Attempt.task (Attempt.stops terms.halt) groups.tasks (attempted rows) := by
  obtain ⟨-, hreach, hran, -⟩ := h
  induction hreach with
  | done => exact .done
  | @stop row groups hs =>
    have hrow := hran row (by simp)
    simpa [attempted, Tree.tasks] using hrow.reach.append_of_stops hs _
  | @next row groups rows hs _ ih =>
    obtain ⟨hrow, hrows⟩ := List.forall_mem_cons.1 hran
    exact hrow.reach.append hs (ih hrows)

theorem passed_iff (h : Course r terms groups s s' rows) :
    ∀ row ∈ rows, row.stops terms.halt = false ↔ ∀ a ∈ row.attempts, a.Passed terms := by
  intro row hrow
  simp only [Row.stops, List.any_eq_false, Bool.not_eq_true]
  refine forall₂_congr fun a ha => ?_
  exact h.attempts.stops_eq_false_iff a (List.mem_flatMap.2 ⟨row, hrow, ha⟩)

theorem any_stops_eq_false_iff (h : Course r terms groups s s' rows) :
    rows.any (Row.stops terms.halt) = false ↔ ∀ a ∈ attempted rows, a.Passed terms := by
  simp only [List.any_eq_false, Bool.not_eq_true, attempted, List.forall_mem_flatMap]
  exact forall₂_congr h.passed_iff

theorem any_ends (h : Course r terms groups s s' rows) {p : Policy} (hp : p = {}) :
    (Row.outcomes rows).any (fun c => p.ends c.status) = rows.any (Row.stops terms.halt) := by
  rw [Row.outcomes, List.any_map, Bool.eq_iff_iff, List.any_eq_true, List.any_eq_true]
  refine exists_congr fun row => and_congr_right fun hrow => ?_
  rw [Function.comp_apply, (h.ran row hrow).ends p hp]

end Course

end Provision.Plan
