import Mathlib.Data.List.Induction
import Provision.Proofs.Outcome.Aggregation
import Provision.Proofs.Outcome.Change

/-!
# What an open outcome remembers of its parts

As long as no part ends it, the status of an outcome is the worst of what was contributed since
it was last started (`Gathering`), for a start sets the status back. So a status falls exactly
when an outcome is started on which a part has left its mark, and only then can finishing be
less severe than the parts are (`pending_status_iff`).
-/

namespace Provision.Outcome

-- ---------------------------------------------------------------------------
-- Rows of changes
-- ---------------------------------------------------------------------------

namespace Change

def finalizes : Change → Bool
  | .start => false
  | .setDetail _ => false
  | .attach _ => false
  | _ => true

def part? : Change → Option Outcome
  | .attach part => some part
  | _ => none

def keep (cs : List Outcome) : Change → List Outcome
  | .start => []
  | .attach part => cs ++ [part]
  | _ => cs

end Change

def attached (row : List (Change × Moment)) : List Outcome := row.filterMap (·.1.part?)

def attachedSinceStart (row : List (Change × Moment)) : List Outcome :=
  row.foldl (fun cs step => step.1.keep cs) []

/-- An outcome is started when a part has left its mark on it and none has ended it. -/
def Restarted (p : Policy) (row : List (Change × Moment)) : Prop :=
  ∃ before now later, row = before ++ (.start, now) :: later ∧
    p.contributions (attached before) ≠ [] ∧ ∀ c ∈ attached before, p.ends c.status = false

/-- No change of a row leaves a status that is less severe than the one it found. -/
def NeverFalls (o : Outcome) (row : List (Change × Moment)) : Prop :=
  ∀ before step later, row = before ++ step :: later →
    (o.after before).status.severity ≤ (o.after (before ++ [step])).status.severity

variable {o : Outcome} {p : Policy} {c : Change} {cs : List Outcome} {now : Moment}
  {row more : List (Change × Moment)} {step : Change × Moment}

theorem after_append : o.after (row ++ more) = (o.after row).after more := by
  induction row generalizing o with
  | nil => rfl
  | cons step row ih => exact ih

theorem after_concat : o.after (row ++ [step]) = (step.1.on (o.after row) step.2).outcome :=
  after_append

theorem attached_append : attached (row ++ more) = attached row ++ attached more :=
  List.filterMap_append

theorem attachedSinceStart_concat :
    attachedSinceStart (row ++ [step]) = step.1.keep (attachedSinceStart row) := by
  simp [attachedSinceStart]

theorem Restarted.append (h : Restarted p row) (more : List (Change × Moment)) :
    Restarted p (row ++ more) := by
  obtain ⟨before, now, later, rfl, h⟩ := h
  exact ⟨before, now, later ++ more, by simp, h⟩

theorem NeverFalls.of_append (h : o.NeverFalls (row ++ more)) : o.NeverFalls row := by
  intro before step later hsplit
  exact h before step (later ++ more) (by simp [hsplit])

-- ---------------------------------------------------------------------------
-- One change
-- ---------------------------------------------------------------------------

theorem start_of_open (ho : o.finalized = false) :
    o.start now =
      ⟨{ o with started := some now, clockStart := some now, status := .waiting }, none⟩ := by
  simp [Outcome.start, whenOpen, ho]

theorem setDetail_of_open (ho : o.finalized = false) (v : Value) :
    o.setDetail v = ⟨o.withDetail v, none⟩ := by
  simp [Outcome.setDetail, whenOpen, ho]

theorem on_outcome_of_finalized (h : o.finalized = true) (hc : c.finalizes = false)
    (now : Moment) : (c.on o now).outcome = o := by
  rw [on_of_finalized h]
  cases c with
  | start => rfl
  | setDetail => rfl
  | attach => rfl
  | _ => cases hc

/-- A status falls when an outcome is started that a part has marked, and never else. -/
theorem severity_on_lt_iff (hc : c.finalizes = false) :
    (c.on o now).outcome.status.severity < o.status.severity ↔
      c = .start ∧ o.finalized = false ∧ o.status.pending = false := by
  cases ho : o.finalized with
  | true => simp [on_outcome_of_finalized ho hc]
  | false =>
    cases c with
    | start =>
      have hs : (o.start now).outcome.status = .waiting := by rw [start_of_open ho]
      rw [Change.on, hs]
      cases o.status <;> simp [Status.severity, Status.pending]
    | setDetail detail =>
      have hs : (o.setDetail detail).outcome.status = o.status := by
        rw [setDetail_of_open ho, withDetail_status]
      simp [Change.on, hs]
    | attach part =>
      have hle : o.status.severity ≤ (o.attach part now).outcome.status.severity := by
        cases he : o.policy.ends part.status with
        | true =>
          rw [attach_of_ends ho he]
          exact o.status.severity_le_error
        | false =>
          rw [attach_of_not_ends ho he, taking_status]
          exact Status.severity_le_foldl _ _
      simp only [Change.on, reduceCtorEq, false_and, iff_false]
      omega
    | _ => cases hc

-- ---------------------------------------------------------------------------
-- What is remembered
-- ---------------------------------------------------------------------------

/-- An open outcome whose status is the worst of what these parts contribute. -/
structure Gathering (p : Policy) (cs : List Outcome) (o : Outcome) : Prop where
  opened : o.finalized = false
  policy : o.policy = p
  status : ∃ s : Status, s.pending = true ∧ o.status = (p.contributions cs).foldl Status.worse s

namespace Gathering

theorem of_pending (ho : o.finalized = false) (hs : o.status.pending = true) :
    Gathering o.policy [] o := ⟨ho, rfl, o.status, hs, rfl⟩

theorem on (h : Gathering p cs o) (hc : c.finalizes = false)
    (hp : ∀ part ∈ c.part?, p.ends part.status = false) (now : Moment) :
    Gathering p (c.keep cs) (c.on o now).outcome := by
  obtain ⟨ho, rfl, s, hs, hst⟩ := h
  cases c with
  | start =>
    rw [Change.on, start_of_open ho]
    exact ⟨ho, rfl, .waiting, rfl, rfl⟩
  | setDetail detail =>
    rw [Change.on, setDetail_of_open ho]
    exact ⟨by simpa using ho, by simp, s, hs, by simpa [Change.keep] using hst⟩
  | attach part =>
    rw [Change.on, attach_of_not_ends ho (hp part rfl)]
    refine ⟨ho, rfl, s, hs, ?_⟩
    rw [taking_status, hst, ← List.foldl_append, Change.keep, Policy.contributions_append]
  | _ => cases hc

theorem after (h : Gathering p [] o) (hrow : ∀ step ∈ row, step.1.finalizes = false)
    (hp : ∀ part ∈ attached row, p.ends part.status = false) :
    Gathering p (attachedSinceStart row) (o.after row) := by
  induction row using List.reverseRecOn with
  | nil => exact h
  | append_singleton row step ih =>
    rw [attached_append, List.forall_mem_append] at hp
    rw [List.forall_mem_append] at hrow
    rw [attachedSinceStart_concat, after_concat]
    refine (ih hrow.1 hp.1).on (hrow.2 step (by simp)) (fun part hpart => hp.2 part ?_) _
    simpa [attached] using hpart

theorem aggregates (h : Gathering p cs o) : p.Aggregates cs o.settled := by
  obtain ⟨s, hs, hst⟩ := h.status
  rw [settled, hst]
  exact Policy.aggregates_foldl hs

end Gathering

-- ---------------------------------------------------------------------------
-- Falling
-- ---------------------------------------------------------------------------

theorem Gathering.finalized (h : Gathering p [] o) (hrow : ∀ step ∈ row, step.1.finalizes = false)
    (hends : ∃ part ∈ attached row, p.ends part.status = true) :
    (o.after row).finalized = true := by
  induction row using List.reverseRecOn with
  | nil => simp [attached] at hends
  | append_singleton row step ih =>
    obtain ⟨c, now⟩ := step
    rw [List.forall_mem_append, List.forall_mem_singleton] at hrow
    rw [after_concat]
    by_cases hrest : ∃ part ∈ attached row, p.ends part.status = true
    · have hdone := ih hrow.1 hrest
      rw [on_outcome_of_finalized hdone hrow.2]
      exact hdone
    · -- It is this last change that attaches the part.
      have hheld : ∀ part ∈ attached row, p.ends part.status = false := fun part hpart =>
        Bool.eq_false_iff.2 fun he => hrest ⟨part, hpart, he⟩
      have hopen := h.after hrow.1 hheld
      obtain ⟨part, hpart, he⟩ := hends
      rw [attached_append] at hpart
      have hlast : part ∈ attached [(c, now)] :=
        (List.mem_append.1 hpart).resolve_left fun hp => hrest ⟨part, hp, he⟩
      cases c with
      | attach part' =>
        obtain rfl := List.mem_singleton.1 hlast
        rw [← hopen.policy] at he
        rw [Change.on, attach_of_ends hopen.opened he]
        exact broken_finalized
      | _ => cases hlast

theorem Gathering.held (h : Gathering p [] o) (hrow : ∀ step ∈ row, step.1.finalizes = false)
    (hopen : (o.after row).finalized = false) :
    ∀ part ∈ attached row, p.ends part.status = false := by
  intro part hpart
  refine Bool.eq_false_iff.2 fun he => ?_
  rw [h.finalized hrow ⟨part, hpart, he⟩] at hopen
  cases hopen

/-- What parts have contributed is not lost where the status never falls. -/
theorem Gathering.marked (h : Gathering p [] o) (hrow : ∀ step ∈ row, step.1.finalizes = false)
    (hheld : ∀ part ∈ attached row, p.ends part.status = false) (hnever : o.NeverFalls row)
    (hmark : p.contributions (attached row) ≠ []) : 0 < (o.after row).status.severity := by
  induction row using List.reverseRecOn with
  | nil => exact absurd rfl hmark
  | append_singleton row step ih =>
    have hopen := h.after hrow hheld
    rw [attached_append, List.forall_mem_append] at hheld
    rw [List.forall_mem_append] at hrow
    by_cases hrest : p.contributions (attached row) = []
    · -- It is this last change that leaves a mark, and it is remembered.
      obtain ⟨c, now⟩ := step
      rw [attached_append, Policy.contributions_append, hrest, List.nil_append] at hmark
      obtain ⟨s, hs, hst⟩ := hopen.status
      obtain ⟨t, ht⟩ := List.exists_mem_of_ne_nil _ hmark
      have hkept : t ∈ p.contributions (attachedSinceStart (row ++ [(c, now)])) := by
        rw [attachedSinceStart_concat]
        cases c with
        | attach part =>
          rw [Change.keep, Policy.contributions_append]
          exact List.mem_append_right _ ht
        | _ => cases ht
      rw [hst]
      have hle := Status.severity_le_foldl_of_mem hkept s
      rcases Policy.mem_contributions ht with rfl | rfl <;> exact Nat.lt_of_lt_of_le (by decide) hle
    · exact Nat.lt_of_lt_of_le (ih hrow.1 hheld.1 hnever.of_append hrest) (hnever row step [] rfl)

theorem contributions_attachedSinceStart (hnot : ¬Restarted p row)
    (hheld : ∀ part ∈ attached row, p.ends part.status = false) :
    p.contributions (attachedSinceStart row) = p.contributions (attached row) := by
  induction row using List.reverseRecOn with
  | nil => rfl
  | append_singleton row step ih =>
    obtain ⟨c, now⟩ := step
    rw [attached_append, List.forall_mem_append] at hheld
    have hbefore : ¬Restarted p row := fun h => hnot (h.append _)
    rw [attachedSinceStart_concat, attached_append, Policy.contributions_append,
      ← ih hbefore hheld.1]
    cases c with
    | start =>
      have hnone : p.contributions (attached row) = [] :=
        Classical.byContradiction fun hmark => hnot ⟨row, now, [], rfl, hmark, hheld.1⟩
      rw [ih hbefore hheld.1, hnone]
      rfl
    | attach part => exact Policy.contributions_append
    | _ => exact (List.append_nil _).symm

/-- A status falls exactly when the outcome is started although a part has left its mark on it.
What has not been ended by a part finishes with the worst of what was contributed since it was
last started, which is the worst of all if it was never started so. -/
theorem pending_status_iff (ho : o.finalized = false) (hs : o.status.pending = true)
    (hrow : ∀ step ∈ row, step.1.finalizes = false) :
    (o.NeverFalls row ↔ ¬Restarted o.policy row) ∧
    ((o.after row).finalized = false → ∀ detail now,
      ∃ o', (o.after row).finish detail now = ⟨o', none⟩ ∧
        o.policy.Aggregates (attachedSinceStart row) o'.status ∧
        (¬Restarted o.policy row → o.policy.Aggregates (attached row) o'.status)) := by
  have hg : Gathering o.policy [] o := .of_pending ho hs
  refine ⟨⟨?_, ?_⟩, ?_⟩
  · rintro hnever ⟨before, now, later, rfl, hmark, hheld⟩
    have hbefore : ∀ step ∈ before, step.1.finalizes = false := fun step h =>
      hrow step (List.mem_append_left _ h)
    have hopen := hg.after hbefore hheld
    have hle := hnever before (.start, now) later rfl
    rw [after_concat, Change.on, start_of_open hopen.opened] at hle
    exact Nat.not_lt.2 hle (hg.marked hbefore hheld hnever.of_append hmark)
  · intro hnot before step later hsplit
    subst hsplit
    have hbefore : ∀ step ∈ before, step.1.finalizes = false := fun step h =>
      hrow step (List.mem_append_left _ h)
    refine Nat.not_lt.1 fun hlt => ?_
    rw [after_concat] at hlt
    obtain ⟨hstart, hopen, hmarked⟩ := (severity_on_lt_iff (hrow step (by simp))).1 hlt
    have hheld := hg.held hbefore hopen
    obtain ⟨s, hs, hst⟩ := (hg.after hbefore hheld).status
    refine hnot ⟨before, step.2, later, by rw [← hstart], fun hnone => ?_, hheld⟩
    have hkept := contributions_attachedSinceStart (fun h => hnot (h.append _)) hheld
    rw [hst, hkept, hnone, List.foldl_nil, hs] at hmarked
    cases hmarked
  · intro hopen detail now
    have hheld := hg.held hrow hopen
    have hafter := hg.after hrow hheld
    refine ⟨_, finish_of_open hopen, hafter.aggregates, fun hnot => ?_⟩
    exact hafter.aggregates.congr (contributions_attachedSinceStart hnot hheld)

def lateStart : List (Change × Moment) := [(.attach warned, .zero), (.start, .zero)]

def unstarted : Outcome := blank "whole" .engine {}

theorem lateStart_finalizes : ∀ step ∈ lateStart, step.1.finalizes = false := by
  simp [lateStart, Change.finalizes]

theorem lateStart_pending_status_iff :
    unstarted.finalized = false ∧ unstarted.status.pending = true ∧
    (∀ step ∈ lateStart, step.1.finalizes = false) ∧
    (unstarted.NeverFalls lateStart ↔ ¬Restarted unstarted.policy lateStart) ∧
    ((unstarted.after lateStart).finalized = false → ∀ detail now,
      ∃ o', (unstarted.after lateStart).finish detail now = ⟨o', none⟩ ∧
        unstarted.policy.Aggregates (attachedSinceStart lateStart) o'.status ∧
        (¬Restarted unstarted.policy lateStart →
          unstarted.policy.Aggregates (attached lateStart) o'.status)) :=
  ⟨rfl, rfl, lateStart_finalizes, pending_status_iff rfl rfl lateStart_finalizes⟩

/-- The warning is forgotten: the status falls, and the outcome is finished as a success. -/
theorem late_start_forgets :
    (∀ step ∈ lateStart, step.1.finalizes = false) ∧ ¬unstarted.NeverFalls lateStart ∧
    Status.warning ∈ unstarted.policy.contributions (attached lateStart) ∧
    ∃ o', (unstarted.after lateStart).finish .null .zero = ⟨o', none⟩ ∧ o'.status = .success := by
  refine ⟨lateStart_finalizes, fun h => ?_, List.mem_singleton.2 rfl, _, rfl, rfl⟩
  have hle := h [(.attach warned, .zero)] (.start, .zero) [] rfl
  exact absurd hle (by decide)

end Provision.Outcome
