import Provision.Proofs.Action.Honest
import Provision.Proofs.Plan.Verdict

/-!
# Runs that hide no failure

With a runner that raises nothing but faults, and actions that go by their own names,
the outcomes of a run are honest all the way down.
-/

namespace Provision

open Stage Watched Outcome

variable {σ : Type} {r : Runner σ}

def Registry.Named (reg : Registry) : Prop :=
  ∀ name a, reg.resolve name = .ok a → a = .ofName a.work

theorem Registry.named_of_actions {reg : Registry}
    (h : ∀ entry ∈ reg.actions, entry.2 = .ofName entry.1) : reg.Named := by
  intro name a ha
  unfold resolve at ha
  split at ha
  · next b hb =>
    cases ha
    obtain ⟨key, -, hk⟩ := Option.bind_eq_some_iff.1 hb
    obtain ⟨_, _, hactions, -⟩ := List.lookup_eq_some_iff.1 hk
    obtain rfl : a = .ofName key := h (key, a) (by simp [hactions])
    rfl
  · cases ha

namespace Plan

variable {terms : Terms} {s s' : Stage σ} {as : List Attempt}

-- ---------------------------------------------------------------------------
-- Attempts
-- ---------------------------------------------------------------------------

theorem Attempts.honest (hr : r.Plain) (hreg : terms.registry.Named)
    (h : Attempts r terms s as s') : ∀ o ∈ Attempt.outcomes as, Honest false o := by
  intro o ho
  obtain ⟨a, ha, hao⟩ := List.mem_filterMap.1 ho
  cases h.made a ha with
  | unknown => cases hao
  | @known t action _ s₁ s₂ haction hrun =>
    cases hao
    have hhonest : Honest false ((taskOutcome r terms action t).run s₁).1 :=
      taskOutcome_honest hr (hreg _ action haction) t s₁
    rwa [hrun] at hhonest

-- ---------------------------------------------------------------------------
-- Groups
-- ---------------------------------------------------------------------------

variable {group o : Outcome}

theorem GroupEnded.honest (h : GroupEnded terms group as o) (hg : Gathered group)
    (has : ∀ c ∈ Attempt.outcomes as, Honest group.isDeletion c) : Honest false o := by
  cases h with
  | filled _ h => exact h.honest hg has
  | @unknown as t f _ _ _ now =>
    refine (hg.takeAll fun c hc => has c ?_).close_error _ _ _
    simpa [Attempt.outcomes] using hc

theorem TaskGroup.begun_gathered (g : TaskGroup) (terms : Terms) (now : Moment) :
    Gathered (g.begun terms now) := .withDetail (.empty rfl rfl rfl rfl) _

theorem Row.Ran.honest {row : Row} (h : row.Ran terms)
    (has : ∀ o ∈ Attempt.outcomes row.attempts, Honest false o) : Honest false row.outcome := by
  obtain ⟨-, now, hend⟩ := h
  exact hend.honest (TaskGroup.begun_gathered ..) fun c hc => (has c hc).of_false

-- ---------------------------------------------------------------------------
-- Runs
-- ---------------------------------------------------------------------------

namespace Course

variable {groups : Tree} {rows : List Row} (h : Course r terms groups s s' rows)
include h

theorem honest (hr : r.Plain) (hreg : terms.registry.Named) :
    ∀ row ∈ rows, ∀ o ∈ Attempt.outcomes row.attempts, Honest false o := by
  intro row hrow o ho
  obtain ⟨a, ha, hao⟩ := List.mem_filterMap.1 ho
  exact h.attempts.honest hr hreg o
    (List.mem_filterMap.2 ⟨a, List.mem_flatMap.2 ⟨row, hrow, ha⟩, hao⟩)

theorem outcomes_honest (hr : r.Plain) (hreg : terms.registry.Named) :
    ∀ o ∈ Row.outcomes rows, Honest false o := by
  intro o ho
  obtain ⟨row, hrow, rfl⟩ := List.mem_map.1 ho
  exact (h.ran row hrow).honest (h.honest hr hreg row hrow)

end Course

theorem Engine.begun_gathered (e : Engine) (name : String) (st : Setting) (t : Recipe.Target)
    (choices : RunChoices) (now : Moment) : Gathered (e.begun name st t choices now) :=
  .withDetail (.empty rfl rfl rfl rfl) _

end Plan

end Provision
