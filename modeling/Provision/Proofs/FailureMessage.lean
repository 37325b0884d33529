import Provision.Proofs.Plan.MessageLaws
import Provision.Proofs.Program.Ending

/-!
# The message of a failed run

A recipe whose run went wrong has the message of the last step that failed, and an
installation that ends in error hands it on (`failed_run_message`).
-/

namespace Provision

open Stage Outcome Plan Interview
open Recipe (Carries carries_fault)

variable {σ π : Type} {runner : Runner σ} {r : Recipe} {o : Outcome}

-- ---------------------------------------------------------------------------
-- Recipes
-- ---------------------------------------------------------------------------

theorem Plan.Engine.begun_unblamed (e : Engine) (name : String) (st : Setting) (t : Recipe.Target)
    (choices : RunChoices) (now : Moment) : (e.begun name st t choices now).Unblamed :=
  Unblamed.begin.withDetail (by simp [Entries.keys])

namespace Recipe

theorem begun_unblamed (r : Recipe) (now : Moment) : (r.begun now).Unblamed :=
  Unblamed.begin.withDetail (by simp [Entries.keys])

theorem ready_of_carries {files : Files} {run : RunChoices} {s : Stage σ}
    (h : Carries ((r.execute runner files run).run s).1 o) :
    ∃ e tree st t d, r.compiled = true ∧ r.engine = some e ∧ e.Ready tree st t d := by
  cases hc : r.compiled with
  | false =>
    unfold execute at h
    rw [hc] at h
    exact (carries_fault h).elim
  | true =>
    cases he : r.engine with
    | none =>
      unfold execute at h
      rw [hc, he] at h
      exact (carries_fault h).elim
    | some e =>
      rw [execute_run hc he] at h
      by_cases hready : ∃ tree st t d, e.Ready tree st t d
      · exact ⟨e, by simpa using hready⟩
      · rw [Engine.execute_unready hready] at h
        exact (carries_fault h).elim

/-- A recipe that answers with an outcome has run the plan of its engine, and has taken in the
outcome of that. -/
theorem execute_whole {files : Files} {run : RunChoices} {s : Stage σ}
    (h : Carries ((r.execute runner files run).run s).1 o) :
    ∃ e tree st t d rows reply whole s', r.engine = some e ∧ e.Ready tree st t d ∧
      Course runner (e.terms st t files run) tree s s' rows ∧
      (e.begun d.name st t run s.now).Filled (Row.outcomes rows) reply ∧
      (r.begun s.now).Filled [reply.outcome] whole ∧
      (r.execute runner files run).run s = (whole.raised.elim (.ok whole.outcome) .error, s') := by
  obtain ⟨e, tree, st, t, d, hc, he, hready⟩ := ready_of_carries h
  rw [execute_run hc he] at h ⊢
  obtain ⟨f, s', -, hexec⟩ | ⟨rows, reply, s', hcourse, hfilled, hexec⟩ :=
    Engine.execute_course hready runner files run s
  · rw [hexec] at h
    exact (carries_fault h).elim
  · obtain ⟨whole, hwhole, hconclude⟩ :=
      conclude_eq (begun_gathered r s.now).opened reply.outcome s'.now
    refine ⟨e, tree, st, t, d, rows, reply, whole, s', he, hready, hcourse, hfilled, hwhole, ?_⟩
    rw [hexec, concluded_filled hfilled, hconclude]

theorem execute_failing (hr : runner.Candid) {files : Files} {run : RunChoices} {s : Stage σ}
    (h : Carries ((r.execute runner files run).run s).1 o) (hbad : o.Bad) :
    ∃ e tree st t d as a, r.engine = some e ∧ e.Ready tree st t d ∧
      Failing runner (e.terms st t files run) tree s ((r.execute runner files run).run s).2 as a
        o.message := by
  obtain ⟨e, tree, st, t, d, rows, reply, whole, s', he, hready, hcourse, hfilled, hwhole, hrun⟩ :=
    execute_whole h
  rw [hrun] at h ⊢
  obtain rfl := hwhole.carried h
  obtain ⟨c, hc, hengine⟩ := hwhole.exists_bad (begun_pending r s.now)
    (begun_gathered r s.now).strict (Status.ok_eq_false hbad)
  obtain rfl := List.mem_singleton.1 hc
  obtain ⟨a, ha⟩ := hcourse.failing hfilled (Engine.begun_unblamed ..) hr
    (Engine.begun_pending ..) (Engine.begun_policy ..) hengine
  have hone : Last Outcome.Bad [reply.outcome] reply.outcome := .here hengine (by simp)
  rw [hwhole.message (begun_unblamed r s.now) hone]
  exact ⟨e, tree, st, t, d, attempted rows, a, he, hready, ha⟩

theorem execute_ne_error {files : Files} {run : RunChoices} {s : Stage σ}
    (h : ((r.execute runner files run).run s).1 = .ok o) : o.status ≠ .error := by
  obtain ⟨_, _, _, _, _, _, _, whole, _, -, -, -, -, hwhole, hrun⟩ := execute_whole (.inl h)
  rw [hrun] at h
  have hbegun : (r.begun s.now).status ≠ .error := by simp [begun, begin]
  obtain ha | ⟨ha, -⟩ := hwhole.answered
  · rw [ha] at h
    cases h
    exact hwhole.ne_error hbegun ha
  · rw [ha] at h
    cases h

end Recipe

-- ---------------------------------------------------------------------------
-- Installations
-- ---------------------------------------------------------------------------

namespace Installation

variable {files : Files} {run : RunChoices} {s : Stage σ} {i : Installation}

theorem execute_error (h : ((execute r runner files run).run s).1 = .ok i)
    (ho : i.outcome? = some o) :
    Carries ((r.execute runner files run).run s).1 o ∧
      (o.status = .error → o.message ≠ "" → i.error? = some o.message) := by
  have hne := @Recipe.execute_ne_error _ runner r o files run s
  unfold execute at h
  rw [Play.run_bind] at h
  generalize (r.execute runner files run).run s = executed at h hne ⊢
  obtain ⟨result, s'⟩ := executed
  cases result with
  | ok o' =>
    cases h
    cases ho
    exact ⟨.inl rfl, fun herror => absurd herror (hne rfl)⟩
  | error raised =>
    cases raised with
    | bubbled o' =>
      cases h
      cases ho
      exact ⟨.inr rfl, fun _ hm => congrArg some (if_neg hm)⟩
    | fault f =>
      obtain ⟨-, hnone⟩ := ofFault_answer r f s' h
      cases ho.symm.trans hnone

theorem run_executed {w : Recipe.Reference} {runner : Project → Runner σ} {choices : Choices}
    {p : Option (Prompter π)} {asked : π}
    (h : ((Installation.run files w runner choices run p asked).run s).1.1 = .ok i)
    (ho : i.outcome? = some o) :
    ∃ project r s', (Recipe.load files w).outcome.1 = .ok (project, r) ∧
      ((execute (r.compile p choices asked).recipe (runner project) files run).run s').1 =
        .ok i := by
  have hfault : ∀ r f s', ((ofFault r f : Play σ _).run s').1 ≠ .ok i := by
    intro r f s' hi
    cases ho.symm.trans (ofFault_answer r f s' hi).2
  cases hl : (Recipe.load files w).outcome with
  | mk loaded records =>
    cases loaded with
    | error f =>
      rw [run_unloaded hl] at h
      cases f <;> cases h <;> cases ho
    | ok found =>
      obtain ⟨project, r⟩ := found
      by_cases ha : run.dryRun = true ∨ (runner project).available = true
      · cases hc : (r.compile p choices asked).result with
        | error f =>
          rw [run_uncompiled hl ha hc] at h
          exact absurd h (hfault _ _ _)
        | ok e =>
          rw [run_started hl ha hc] at h
          exact ⟨project, r, _, rfl, h⟩
      · obtain ⟨hd, hn⟩ := not_or.1 ha
        rw [run_unavailable hl (Bool.not_eq_true _ ▸ hd) (Bool.not_eq_true _ ▸ hn)] at h
        exact absurd h (hfault _ _ _)

end Installation

/-- A recipe whose run went wrong has the message of the last step that failed, and that is where
the step went wrong: an unknown action, what there is to be had against its options and its
context, or the part its action took in, which for a command that failed has the command's own
words. The runners at hand are candid in that. An installation that ends in error has the
message, if there is one, as its error. -/
theorem failed_run_message :
    (∀ m : Rehearsal, m.toRunner.Candid) ∧ (∀ t : Tool, t.toRunner.Candid) ∧
    (∀ (runner : Runner σ) (r : Recipe) (files : Files) (run : RunChoices) (s : Stage σ)
      (o : Outcome),
      runner.Candid → Carries ((r.execute runner files run).run s).1 o → o.Bad →
      ∃ e tree st t d as a, r.engine = some e ∧ e.Ready tree st t d ∧
        Failing runner (e.terms st t files run) tree s
          ((r.execute runner files run).run s).2 as a o.message) ∧
    ∀ (files : Files) (w : Recipe.Reference) (runner : Project → Runner σ) (choices : Choices)
      (run : RunChoices) (p : Option (Prompter π)) (asked : π) (s : Stage σ) (i : Installation)
      (o : Outcome),
      ((Installation.run files w runner choices run p asked).run s).1.1 = .ok i →
      i.outcome? = some o →
      (∃ project r s', (Recipe.load files w).outcome.1 = .ok (project, r) ∧
        Carries (((r.compile p choices asked).recipe.execute (runner project) files run).run s').1
          o) ∧
        (o.status = .error → o.message ≠ "" → i.error? = some o.message) := by
  refine ⟨Rehearsal.toRunner_candid, Tool.toRunner_candid, ?_, ?_⟩
  · intro runner r files run s o hr hcarries hbad
    exact Recipe.execute_failing hr hcarries hbad
  · intro files w runner choices run p asked s i o h ho
    obtain ⟨project, r, s', hload, hexec⟩ := Installation.run_executed h ho
    obtain ⟨hcarries, herror⟩ := Installation.execute_error hexec ho
    exact ⟨⟨project, r, s', hload, hcarries⟩, herror⟩

-- ---------------------------------------------------------------------------
-- A deletion that fails
-- ---------------------------------------------------------------------------

def mute : Tool where
  launch _ := .ended [] [] 1 0.0

def muteRun : (Except Fault Installation × Unit) × Stage (List ShellEvent) :=
  (Installation.run bareFiles ⟨some "bare.json", none⟩ (fun _ => mute.toRunner) bareChoices {} none
    ()).run (.opened [] .zero)

def deletionReport : String := "Request to mark scratch org 'bare' for deletion failed"

theorem mute_checked : (match muteRun.1.1.toOption.bind (·.outcome?) with
    | some o => o.status = .error && o.message = deletionReport
    | none => false) = true := by
  decide +kernel

theorem mute_message : ∃ i o, muteRun.1.1 = .ok i ∧ i.outcome? = some o ∧
    mute.toRunner.Candid ∧ Runner.Candid (Rehearsal.toRunner {}) ∧
    (∃ (r : Recipe) (s' : Stage (List ShellEvent)) (e : Engine) (tree : Tree) (st : Setting)
      (t : Recipe.Target) (d : Recipe.Document) (as : List Attempt) (a : Attempt),
      Carries ((r.execute mute.toRunner bareFiles {}).run s').1 o ∧
      r.engine = some e ∧ e.Ready tree st t d ∧
      Failing mute.toRunner (e.terms st t bareFiles {}) tree s'
        ((r.execute mute.toRunner bareFiles {}).run s').2 as a deletionReport) ∧
    i.error? = some deletionReport := by
  obtain ⟨rehearsals, tools, recipes, installations⟩ := @failed_run_message (List ShellEvent) Unit
  have hchecked := mute_checked
  cases hi : muteRun.1.1 with
  | error f => simp [hi, Except.toOption] at hchecked
  | ok i =>
    cases ho : i.outcome? with
    | none => simp [hi, ho, Except.toOption] at hchecked
    | some o =>
      obtain ⟨hs, hm⟩ : o.status = .error ∧ o.message = deletionReport := by
        simpa [hi, ho, Except.toOption] using hchecked
      obtain ⟨⟨project, r, s', -, hcarries⟩, herror⟩ :=
        installations bareFiles _ _ bareChoices {} none () _ i o hi ho
      have hbad : o.Bad := by rw [Bad, hs]; rfl
      obtain ⟨e, tree, st, t, d, as, a, he, hready, hfailing⟩ :=
        recipes _ _ bareFiles {} s' o (tools mute) hcarries hbad
      rw [hm] at hfailing herror
      exact ⟨i, o, rfl, ho, tools mute, rehearsals {},
        ⟨_, s', e, tree, st, t, d, as, a, hcarries, he, hready, hfailing⟩,
        herror hs (by decide)⟩

end Provision
