import Provision.Proofs.Action.Decided
import Provision.Proofs.Plan.Execution

/-!
# When a run is well

Every attempt ends one way or the other, and so does every group. So whoever the runner
is, the outcome of a run is well exactly when every task was attempted and ended well
(`Course.ok_iff`).
-/

namespace Provision.Plan

open Stage Outcome

variable {σ : Type} {r : Runner σ} {terms : Terms} {s s' : Stage σ} {as : List Attempt}
  {group o : Outcome}

theorem Attempt.Well.not_stops {a : Attempt} (h : a.Well) (halt : Bool) : a.stops halt = false := by
  obtain ⟨o, ho, hok⟩ := h
  have hne : o.status ≠ .error := by
    intro he
    simp [he, Status.ok] at hok
  simp [stops, ho, hne]

theorem any_stops_of_well (h : ∀ a ∈ as, a.Well) (halt : Bool) :
    as.any (Attempt.stops halt) = false := by
  rw [List.any_eq_false]
  intro a ha
  simp [(h a ha).not_stops]

def AllWell (groups : Tree) (as : List Attempt) : Prop :=
  as.map (·.task) = groups.tasks ∧ ∀ a ∈ as, a.Well

-- ---------------------------------------------------------------------------
-- Attempts
-- ---------------------------------------------------------------------------

/-- What an attempt is to a run: there is no action for the task, or what came of calling it is
the outcome. -/
inductive Attempt.Made (r : Runner σ) (terms : Terms) : Attempt → Prop
  | unknown {t : Task} {f : Fault} (hf : terms.registry.resolve t.action = .error f) :
      Made r terms ⟨t, none⟩
  | known {t : Task} {a : Action} {o : Outcome} {s s' : Stage σ}
      (ha : terms.registry.resolve t.action = .ok a)
      (ho : (taskOutcome r terms a t).run s = (o, s')) : Made r terms ⟨t, some o⟩

theorem Attempts.made (h : Attempts r terms s as s') : ∀ a ∈ as, a.Made r terms := by
  induction h with
  | none => simp
  | unknown _ hf _ ih => exact List.forall_mem_cons.2 ⟨.unknown hf, ih⟩
  | known _ ha ho _ ih => exact List.forall_mem_cons.2 ⟨.known ha ho, ih⟩

theorem Attempt.Made.decided {a : Attempt} (h : a.Made r terms) (ho : a.outcome = some o) :
    o.status.decided = true := by
  cases h with
  | unknown => cases ho
  | @known t act _ s _ ha hrun =>
    cases ho
    have hd : ((taskOutcome r terms act t).run s).1.status.decided = true :=
      taskOutcome_decided act t s
    rwa [hrun] at hd

theorem outcomes_decided (h : ∀ a ∈ as, a.Made r terms) :
    ∀ o ∈ Attempt.outcomes as, o.status.decided = true := by
  intro o ho
  obtain ⟨a, ha, hao⟩ := List.mem_filterMap.1 ho
  exact (h a ha).decided hao

theorem outcomes_ok_iff (hk : ∀ a ∈ as, a.outcome.isSome = true) :
    (∀ o ∈ Attempt.outcomes as, o.status.ok = true) ↔ ∀ a ∈ as, a.Well := by
  induction as with
  | nil => simp [Attempt.outcomes]
  | cons a as ih =>
    obtain ⟨ha, has⟩ := List.forall_mem_cons.1 hk
    obtain ⟨t, o⟩ := a
    cases o with
    | none => cases ha
    | some o =>
      rw [List.forall_mem_cons, ← ih has]
      simp [Attempt.outcomes, Attempt.Well]

-- ---------------------------------------------------------------------------
-- Groups
-- ---------------------------------------------------------------------------

theorem GroupEnded.decided (h : GroupEnded terms group as o) (hs : group.status.left = true) :
    o.status.decided = true := by
  cases h with
  | filled _ h => exact h.decided hs
  | unknown => rfl

theorem GroupEnded.ok_iff (h : GroupEnded terms group as o) (hs : group.status.pending = true)
    (hp : group.policy.bubbleFailure = true) (has : ∀ a ∈ as, a.Made r terms) :
    o.status.ok = true ↔ ∀ a ∈ as, a.Well := by
  cases h with
  | filled hk h =>
    rw [h.ok_iff hs hp, forall_not_bad_iff (outcomes_decided has), outcomes_ok_iff hk]
  | @unknown as t f _ _ _ now =>
    constructor
    · intro hok
      cases hok
    · intro hall
      obtain ⟨o, ho, -⟩ := hall ⟨t, none⟩ (by simp)
      cases ho

section
variable {row : Row} (h : row.Ran terms)
include h

theorem Row.Ran.decided : row.outcome.status.decided = true := by
  obtain ⟨-, now, hend⟩ := h
  refine hend.decided ?_
  rw [TaskGroup.begun_status]
  rfl

theorem Row.Ran.ok_iff (has : ∀ a ∈ row.attempts, a.Made r terms) :
    row.outcome.status.ok = true ↔ ∀ a ∈ row.attempts, a.Well := by
  obtain ⟨-, now, hend⟩ := h
  refine hend.ok_iff ?_ ?_ has
  · rw [TaskGroup.begun_status]
    rfl
  · rw [TaskGroup.begun_policy]

end

-- ---------------------------------------------------------------------------
-- Runs
-- ---------------------------------------------------------------------------

namespace Course

variable {groups : Tree} {rows : List Row} (h : Course r terms groups s s' rows)
include h

theorem made : ∀ row ∈ rows, ∀ a ∈ row.attempts, a.Made r terms := fun row hrow a ha =>
  h.attempts.made a (List.mem_flatMap.2 ⟨row, hrow, ha⟩)

theorem rows_ok_iff :
    (∀ o ∈ Row.outcomes rows, o.status.ok = true) ↔ ∀ a ∈ attempted rows, a.Well := by
  constructor
  · intro hok a ha
    obtain ⟨row, hrow, ha⟩ := List.mem_flatMap.1 ha
    exact ((h.ran row hrow).ok_iff (h.made row hrow)).1
      (hok _ (List.mem_map.2 ⟨row, hrow, rfl⟩)) a ha
  · intro hall o ho
    obtain ⟨row, hrow, rfl⟩ := List.mem_map.1 ho
    refine ((h.ran row hrow).ok_iff (h.made row hrow)).2 fun a ha => ?_
    exact hall a (List.mem_flatMap.2 ⟨row, hrow, ha⟩)

theorem allWell_iff : AllWell groups (attempted rows) ↔ ∀ a ∈ attempted rows, a.Well := by
  exact ⟨And.right, fun hall => ⟨h.reach_tasks.map_eq (any_stops_of_well hall _), hall⟩⟩

/-- The outcome of a run is well exactly when every task was attempted and ended well. -/
theorem ok_iff {run : Outcome} {reply : Reply} (hf : run.Filled (Row.outcomes rows) reply)
    (hs : run.status.pending = true) (hp : run.policy = {}) :
    reply.outcome.status.ok = true ↔ AllWell groups (attempted rows) := by
  have hparts : ∀ o ∈ Row.outcomes rows, o.status.decided = true := by
    intro o ho
    obtain ⟨row, hrow, rfl⟩ := List.mem_map.1 ho
    exact (h.ran row hrow).decided
  rw [hf.ok_iff hs (by rw [hp]), forall_not_bad_iff hparts, h.rows_ok_iff, h.allWell_iff]

end Course

end Provision.Plan
