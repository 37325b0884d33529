import Provision.Proofs.Action.MessageLaws
import Provision.Proofs.Plan.Calls
import Provision.Proofs.Plan.Verdict

/-!
# Whose message a run has

A group speaks for the last of its attempts that was not well, and a run for the last of
its groups that was not. So the message of a run is that of the last attempt that was not
well (`Course.message`), and that attempt has it from where it went wrong
(`Attempt.Made.speaks`).
-/

namespace Provision

theorem Registry.resolve_error {reg : Registry} {name : String} {f : Fault}
    (h : reg.resolve name = .error f) : f = .unknownAction name reg.engine := by
  unfold resolve at h
  split at h
  · cases h
  · cases h
    rfl

namespace Plan

open Stage Outcome

variable {σ : Type} {r : Runner σ} {terms : Terms} {s s' : Stage σ} {a : Attempt}
  {as : List Attempt} {group o : Outcome}

-- ---------------------------------------------------------------------------
-- Attempts
-- ---------------------------------------------------------------------------

def Attempt.message (terms : Terms) (a : Attempt) : String :=
  match a.outcome with
  | some o => o.message
  | none => (Fault.unknownAction a.task.action terms.registry.engine).text

/-- Where an attempt went wrong, and what it says of that: there is no action for the task, there
is something to be had against the call of it, or the part that its action took in failed. -/
inductive Attempt.Speaks (r : Runner σ) (terms : Terms) : Attempt → String → Prop
  | unknown {t : Task} (h : terms.registry.get? t.action = none) :
      Speaks r terms ⟨t, none⟩ (Fault.unknownAction t.action terms.registry.engine).text
  | refused {t : Task} {action : Action} {o : Outcome} {f : Fault}
      (ha : terms.registry.resolve t.action = .ok action)
      (hf : action.checked terms.context t.options = .error f) (hobjected : action.Objected f)
      (hm : o.message = f.text) : Speaks r terms ⟨t, some o⟩ o.message
  | failed {t : Task} {action : Action} {o part : Outcome}
      (ha : terms.registry.resolve t.action = .ok action)
      (hc : action.checked terms.context t.options = .ok ()) (hd : terms.dryRun = false)
      (hpart : o.children = [part]) (hbad : part.Bad) (hm : o.message = part.message)
      (hcommand : ∀ draft, Action.draft? action.work = some draft →
        Action.Commanded r action (draft terms.context t.options) part) :
      Speaks r terms ⟨t, some o⟩ o.message

theorem Attempt.Made.speaks (h : a.Made r terms) (hr : r.Candid) (hw : ¬a.Well) :
    a.Speaks r terms (a.message terms) := by
  cases h with
  | @unknown t f hf =>
    refine .unknown ?_
    unfold Registry.resolve at hf
    split at hf
    · cases hf
    · assumption
  | @known t action o s s' ha hrun =>
    have hfail : o.status.ok = false := by
      refine eq_false_of_ne_true fun hok => hw ⟨o, rfl, hok⟩
    cases hc : action.checked terms.context t.options with
    | error f =>
      have hfault := (taskOutcome_of_refused (r := r) hc s).2
      rw [hrun] at hfault
      exact .refused ha hc (Action.objected hc) (message_of_fault hfault)
    | ok _ =>
      cases hd : terms.dryRun with
      | true =>
        have hs := (taskOutcome_of_passed (r := r) hc hd s).1
        rw [hrun] at hs
        rw [hs] at hfail
        cases hfail
      | false =>
        have hspeaks := Action.runChecked_speaks hr action terms.context t.options s
        rw [← taskOutcome_of_real hc hd, hrun] at hspeaks
        obtain ⟨part, hpart, hbad, hm, hcommand⟩ := hspeaks hfail
        exact .failed ha hc hd hpart hbad hm hcommand

theorem outcomes_last (hk : ∀ a ∈ as, a.outcome.isSome = true) (has : ∀ a ∈ as, a.Made r terms)
    (h : Last (fun a => ¬a.Well) as a) :
    ∃ o, a.outcome = some o ∧ Last Outcome.Bad (Attempt.outcomes as) o := by
  induction h with
  | @here a as hw hwell =>
    obtain ⟨ha, hrest⟩ := List.forall_mem_cons.1 hk
    obtain ⟨o, ho⟩ := Option.isSome_iff_exists.1 ha
    obtain ⟨hmade, hmades⟩ := List.forall_mem_cons.1 has
    have hbad : o.Bad := by
      refine Classical.byContradiction fun hgood => hw ⟨o, ho, ?_⟩
      exact (Status.not_bad_iff (hmade.decided ho)).1 hgood
    have hgood : ∀ o ∈ Attempt.outcomes as, ¬o.Bad := by
      rw [forall_not_bad_iff (outcomes_decided hmades), outcomes_ok_iff hrest]
      exact fun b hb => Classical.not_not.1 (hwell b hb)
    refine ⟨o, ho, ?_⟩
    rw [Attempt.outcomes, List.filterMap_cons_some ho]
    exact .here hbad hgood
  | @later a b as h ih =>
    obtain ⟨hb, hrest⟩ := List.forall_mem_cons.1 hk
    obtain ⟨o, ho, hlast⟩ := ih hrest fun c hc => has c (List.mem_cons_of_mem b hc)
    obtain ⟨ob, hob⟩ := Option.isSome_iff_exists.1 hb
    refine ⟨o, ho, ?_⟩
    rw [Attempt.outcomes, List.filterMap_cons_some hob]
    exact .later hlast

-- ---------------------------------------------------------------------------
-- Groups
-- ---------------------------------------------------------------------------

theorem GroupEnded.message (h : GroupEnded terms group as o) (hg : group.Unblamed)
    (has : ∀ a ∈ as, a.Made r terms) (ha : Last (fun a => ¬a.Well) as a) :
    o.message = a.message terms := by
  cases h with
  | filled hk h =>
    obtain ⟨o, ho, hlast⟩ := outcomes_last hk has ha
    rw [h.message hg hlast, Attempt.message, ho]
  | @unknown as t f _ _ hf now =>
    obtain rfl := ha.eq_of_concat Attempt.not_well_none
    obtain rfl := Registry.resolve_error hf
    rw [close_message]
    exact message_of_fault (f := .unknownAction t.action terms.registry.engine) rfl

theorem TaskGroup.begun_unblamed (g : TaskGroup) (terms : Terms) (now : Moment) :
    (g.begun terms now).Unblamed := Unblamed.begin.withDetail (by simp [Entries.keys])

section
variable {row : Row} (h : row.Ran terms) (has : ∀ a ∈ row.attempts, a.Made r terms)
include h has

theorem Row.Ran.message (ha : Last (fun a => ¬a.Well) row.attempts a) :
    row.outcome.message = a.message terms := by
  obtain ⟨-, now, hend⟩ := h
  exact hend.message (TaskGroup.begun_unblamed ..) has ha

theorem Row.Ran.not_bad_iff : ¬row.outcome.Bad ↔ ∀ a ∈ row.attempts, a.Well :=
  (Status.not_bad_iff h.decided).trans (h.ok_iff has)

end

-- ---------------------------------------------------------------------------
-- Runs
-- ---------------------------------------------------------------------------

theorem rows_last {rows : List Row} (hran : ∀ row ∈ rows, row.Ran terms)
    (hmade : ∀ row ∈ rows, ∀ a ∈ row.attempts, a.Made r terms)
    (h : Last (fun a => ¬a.Well) (attempted rows) a) :
    ∃ row ∈ rows, Last Outcome.Bad (Row.outcomes rows) row.outcome ∧
      Last (fun a => ¬a.Well) row.attempts a := by
  induction rows with
  | nil => cases h
  | cons row rows ih =>
    obtain ⟨hrow, hrows⟩ := List.forall_mem_cons.1 hran
    obtain ⟨hmaderow, hmaderows⟩ := List.forall_mem_cons.1 hmade
    have hall : Last (fun a => ¬a.Well) (row.attempts ++ attempted rows) a := h
    obtain h | ⟨h, hwell⟩ := hall.of_append
    · obtain ⟨row', hmem, hlast, ha⟩ := ih hrows hmaderows h
      exact ⟨row', List.mem_cons_of_mem row hmem, .later hlast, ha⟩
    · have hbad : row.outcome.Bad := by
        refine Classical.byContradiction fun hgood => h.holds ?_
        exact (hrow.not_bad_iff hmaderow).1 hgood a h.mem
      have hgood : ∀ o ∈ Row.outcomes rows, ¬o.Bad := by
        intro o ho
        obtain ⟨row', hmem, rfl⟩ := List.mem_map.1 ho
        refine ((hrows row' hmem).not_bad_iff (hmaderows row' hmem)).2 fun b hb => ?_
        exact Classical.not_not.1 (hwell b (List.mem_flatMap.2 ⟨row', hmem, hb⟩))
      exact ⟨row, List.mem_cons_self .., .here hbad hgood, h⟩

/-- A run that went wrong, and what the last attempt in it that did says of that. -/
structure Failing (r : Runner σ) (terms : Terms) (tree : Tree) (s s' : Stage σ)
    (as : List Attempt) (a : Attempt) (message : String) : Prop where
  attempts : Attempts r terms s as s'
  reach : Reach Attempt.task (Attempt.stops terms.halt) tree.tasks as
  last : Last (fun a => ¬a.Well) as a
  speaks : a.Speaks r terms message

namespace Course

variable {groups : Tree} {rows : List Row} (h : Course r terms groups s s' rows) {run : Outcome}
  {reply : Reply} (hf : run.Filled (Row.outcomes rows) reply) (hu : run.Unblamed)
include h hf hu

/-- The message of a run is that of the last attempt that was not well. -/
theorem message (ha : Last (fun a => ¬a.Well) (attempted rows) a) :
    reply.outcome.message = a.message terms := by
  obtain ⟨row, hrow, hlast, hlastAttempt⟩ := rows_last h.ran h.made ha
  rw [hf.message hu hlast, (h.ran row hrow).message (h.made row hrow) hlastAttempt]

theorem failing (hr : r.Candid) (hs : run.status.pending = true) (hp : run.policy = {})
    (hbad : reply.outcome.Bad) :
    ∃ a, Failing r terms groups s s' (attempted rows) a reply.outcome.message := by
  have hnot : ¬∀ a ∈ attempted rows, a.Well := by
    rw [← h.allWell_iff, ← h.ok_iff hf hs hp, Status.ok_eq_false hbad]
    exact Bool.false_ne_true
  obtain ⟨a, ha⟩ := Last.of_exists (p := fun a : Attempt => ¬a.Well) (by simpa using hnot)
  refine ⟨a, h.attempts, h.reach_tasks, ha, ?_⟩
  rw [h.message hf hu ha]
  exact (h.attempts.made a ha.mem).speaks hr ha.holds

end Course

end Plan

end Provision
