import Provision.Plan.Run
import Provision.Proofs.StageLaws

/-!
# What runs keep

Whatever relation between stages lasts, a run keeps it as soon as each command that
is handed over does. An action hands over commands and gives out serial numbers
(`Action.run_keeps`), and a plan runs actions one after the other
(`Plan.runGroups_keeps`). A rehearsal of an action leaves the stage as it is.
-/

namespace Provision

open Stage

variable {σ : Type} {R : Stage σ → Stage σ → Prop} {r : Runner σ}

-- ---------------------------------------------------------------------------
-- Actions
-- ---------------------------------------------------------------------------

/-- What the commands and the serial numbers of an action do not break. -/
structure Runner.Keeps (R : Stage σ → Stage σ → Prop) (r : Runner σ) : Prop extends Steady R where
  hand : ∀ c, Play.Keeps R (Stage.hand r c)
  serial : ∀ s n, R s { s with serial := n }

theorem Runner.keeps_objection (r : Runner σ) : r.Keeps fun s s' => s'.objection = s.objection where
  toSteady := lasting_objection.steady
  hand _ _ := rfl
  serial _ _ := rfl

theorem Runner.keeps_progressed (r : Runner σ) : r.Keeps Progressed where
  toSteady := steady_progressed
  hand _ _ := ⟨_, rfl⟩
  serial _ _ := ⟨[], by simp⟩

namespace Action

theorem Draft.play_keeps {α : Type} (hR : r.Keeps R) (d : Draft α) :
    Play.Keeps R (Draft.play (σ := σ) d) :=
  fun s => hR.serial s _

theorem chainCommand_keeps (hR : r.Keeps R) (o : Outcome) (c : Command) :
    Play.Keeps R (chainCommand r o c) := by
  refine Play.keeps_bind hR.toSteady (hR.hand c) fun result => ?_
  cases result with
  | error e => cases e <;> exact Play.keeps_pure hR.toSteady _
  | ok child =>
    refine Play.keeps_bind hR.toSteady (Play.keeps_clock hR.toSteady) fun now => ?_
    dsimp only
    split <;> exact Play.keeps_pure hR.toSteady _

theorem chainCommands_keeps (hR : r.Keeps R) (o : Outcome) (cs : List Command) :
    Play.Keeps R (chainCommands r o cs) := by
  induction cs generalizing o with
  | nil => exact Play.keeps_pure hR.toSteady _
  | cons c cs ih =>
    refine Play.keeps_bind hR.toSteady (chainCommand_keeps hR o c) fun step => ?_
    obtain ⟨chain, _⟩ := step
    cases chain with
    | going o => exact ih o
    | _ => exact Play.keeps_pure hR.toSteady _

theorem configureAdmin_keeps (hR : r.Keeps R) (c : Context) (definition : Entries)
    (permsets : List String) : Play.Keeps R (configureAdmin r c definition permsets) := by
  refine Play.keeps_bind hR.toSteady (Play.keeps_clock hR.toSteady) fun now => ?_
  refine Play.keeps_bind hR.toSteady (chainCommand_keeps hR _ _) fun step => ?_
  obtain ⟨chain, found⟩ := step
  cases chain with
  | ended o => exact Play.keeps_pure hR.toSteady _
  | broken f => exact Play.keeps_pure hR.toSteady _
  | going o =>
    cases found with
    | none => exact Play.keeps_pure hR.toSteady _
    | some found =>
      cases h : adminUsername found with
      | error f => simpa only [h] using Play.keeps_pure hR.toSteady _
      | ok username =>
        simp only [h]
        refine Play.keeps_bind hR.toSteady (Play.keeps_clock hR.toSteady) fun now => ?_
        split
        · exact Play.keeps_pure hR.toSteady _
        · refine Play.keeps_bind hR.toSteady (chainCommands_keeps hR _ _) fun chain => ?_
          cases chain with
          | going o =>
            exact Play.keeps_bind hR.toSteady (Play.keeps_clock hR.toSteady) fun _ =>
              Play.keeps_pure hR.toSteady _
          | _ => exact Play.keeps_pure hR.toSteady _

theorem perform_keeps (hR : r.Keeps R) (a : Action) (c : Context) (options : Entries)
    (o : Outcome) : Play.Keeps R (a.perform r c options o) := by
  unfold perform
  split
  · refine Play.keeps_bind hR.toSteady (Draft.play_keeps hR _) fun result => ?_
    cases result with
    | error f => exact Play.keeps_pure hR.toSteady _
    | ok command =>
      exact Play.keeps_bind hR.toSteady (hR.hand command) fun _ => Play.keeps_pure hR.toSteady _
  · refine Play.keeps_bind hR.toSteady (Draft.play_keeps hR _) fun result => ?_
    cases result with
    | error f => exact Play.keeps_pure hR.toSteady _
    | ok prepared =>
      exact Play.keeps_bind hR.toSteady (configureAdmin_keeps hR _ _ _) fun _ =>
        Play.keeps_pure hR.toSteady _

theorem received_keeps (hR : Steady R) (a : Action) (result : Except Raised Outcome) :
    Play.Keeps R (a.received result : Play σ Outcome) := by
  cases result with
  | ok child => exact Play.keeps_pure hR _
  | error e =>
    refine Play.keeps_bind hR (Play.keeps_note hR _) fun _ => ?_
    exact Play.keeps_bind hR (Play.keeps_clock hR) fun _ => Play.keeps_pure hR _

theorem classify_keeps (hR : Steady R) (a : Action) (options : Entries) (child : Outcome) :
    Play.Keeps R (a.classify options child : Play σ Outcome) := by
  unfold classify
  split
  · refine Play.keeps_bind hR (Play.keeps_clock hR) fun now => ?_
    split
    · exact Play.keeps_bind hR (Play.keeps_note hR _) fun _ => Play.keeps_pure hR _
    · exact Play.keeps_pure hR _
  · exact Play.keeps_pure hR _

theorem conclude_keeps (hR : Steady R) (a : Action) (o child : Outcome) :
    Play.Keeps R (a.conclude o child : Play σ Outcome) := by
  refine Play.keeps_bind hR (Play.keeps_clock hR) fun now => ?_
  dsimp only
  split
  · exact Play.keeps_pure hR _
  · exact Play.keeps_bind hR (Play.keeps_note hR _) fun _ => Play.keeps_pure hR _

theorem runChecked_keeps (hR : r.Keeps R) (a : Action) (c : Context) (options : Entries) :
    Play.Keeps R (a.runChecked r c options) := by
  refine Play.keeps_bind hR.toSteady (Play.keeps_clock hR.toSteady) fun now => ?_
  refine Play.keeps_bind hR.toSteady (Play.keeps_note hR.toSteady _) fun _ => ?_
  refine Play.keeps_bind hR.toSteady (perform_keeps hR a c options _) fun performed => ?_
  refine Play.keeps_bind hR.toSteady (received_keeps hR.toSteady a _) fun child => ?_
  refine Play.keeps_bind hR.toSteady (classify_keeps hR.toSteady a options child) fun child => ?_
  exact conclude_keeps hR.toSteady a _ child

theorem run_keeps (hR : r.Keeps R) (a : Action) (c : Option Context) (options : Entries) :
    Play.Keeps R (a.run r c options) := by
  unfold run
  split
  · exact Play.keeps_pure hR.toSteady _
  · exact Play.keeps_bind hR.toSteady (runChecked_keeps hR a _ options) fun _ =>
      Play.keeps_pure hR.toSteady _

theorem rehearse_run (a : Action) (c : Context) (options : Entries) (s : Stage σ) :
    ((a.rehearse c options).run s).2 = s := by
  unfold rehearse
  split <;> rfl

end Action

-- ---------------------------------------------------------------------------
-- Plans
-- ---------------------------------------------------------------------------

namespace Plan

variable {terms : Terms}

theorem call_keeps (hR : r.Keeps R) (a : Action) (t : Task) :
    Play.Keeps R (call r terms a t) := by
  unfold call
  split
  · intro s
    rw [Action.rehearse_run]
    exact hR.refl s
  · exact Action.run_keeps hR a _ t.options

/-- A dry run keeps what announcements and records keep, whoever the runner is. -/
theorem call_keeps_of_dryRun (hR : Lasting R) (hd : terms.dryRun = true) (a : Action) (t : Task) :
    Play.Keeps R (call r terms a t) := by
  intro s
  rw [call, hd, if_pos rfl, Action.rehearse_run]
  exact hR.refl s

theorem taskOutcome_keeps (hR : Steady R) (hc : ∀ a t, Play.Keeps R (call r terms a t))
    (a : Action) (t : Task) : Play.Keeps R (taskOutcome r terms a t) := by
  refine Play.keeps_bind hR (hc a t) fun result => ?_
  cases result with
  | ok o => exact Play.keeps_pure hR o
  | error f => exact Play.keeps_bind hR (Play.keeps_clock hR) fun _ => Play.keeps_pure hR _

section
variable (hR : Lasting R) (hc : ∀ a t, Play.Keeps R (call r terms a t))
include hR hc

theorem runTask_keeps (a : Action) (t : Task) : Watched.Keeps R (runTask r terms a t) := by
  refine Watched.keeps_bind hR (Watched.keeps_tell hR _) fun _ => ?_
  refine Watched.keeps_bind hR (Watched.keeps_note hR _) fun _ => ?_
  refine Watched.keeps_bind hR (Watched.keeps_lift (taskOutcome_keeps hR.steady hc a t)) fun o => ?_
  refine Watched.keeps_bind hR (Watched.keeps_note hR _) fun _ => ?_
  exact Watched.keeps_bind hR (Watched.keeps_tell hR _) fun _ => Watched.keeps_pure hR _

theorem runTasks_keeps (g : TaskGroup) (group : Outcome) (tasks : List Task) :
    Watched.Keeps R (runTasks r terms g group tasks) := by
  induction tasks generalizing group with
  | nil =>
    refine Watched.keeps_bind hR (Watched.keeps_clock hR) fun now => ?_
    exact Watched.keeps_bind hR (Watched.keeps_tell hR _) fun _ => Watched.keeps_pure hR _
  | cons t rest ih =>
    unfold runTasks
    split
    · refine Watched.keeps_bind hR (Watched.keeps_note hR _) fun _ => ?_
      refine Watched.keeps_bind hR (Watched.keeps_clock hR) fun now => ?_
      exact Watched.keeps_bind hR (Watched.keeps_tell hR _) fun _ => Watched.keeps_pure hR _
    · refine Watched.keeps_bind hR (runTask_keeps hR hc _ t) fun o => ?_
      refine Watched.keeps_bind hR (Watched.keeps_clock hR) fun now => ?_
      dsimp only
      split
      · exact Watched.keeps_bind hR (Watched.keeps_tell hR _) fun _ => Watched.keeps_pure hR _
      · exact ih _

theorem runGroup_keeps (g : TaskGroup) : Watched.Keeps R (runGroup r terms g) := by
  refine Watched.keeps_bind hR (Watched.keeps_tell hR _) fun _ => ?_
  refine Watched.keeps_bind hR (Watched.keeps_clock hR) fun now => ?_
  exact runTasks_keeps hR hc g _ g.tasks

theorem runGroups_keeps (run : Outcome) (groups : List TaskGroup) :
    Watched.Keeps R (runGroups r terms run groups) := by
  induction groups generalizing run with
  | nil => exact Watched.keeps_bind hR (Watched.keeps_clock hR) fun _ => Watched.keeps_pure hR _
  | cons g rest ih =>
    refine Watched.keeps_bind hR (runGroup_keeps hR hc g) fun o => ?_
    refine Watched.keeps_bind hR (Watched.keeps_clock hR) fun now => ?_
    dsimp only
    split
    · exact Watched.keeps_pure hR _
    · exact ih _

end

end Plan

end Provision
