import Provision.Plan.Run
import Provision.Proofs.OutcomeLaws
import Provision.Proofs.StageLaws

/-!
# Steps end one way or the other

Whatever a runner answers, the outcome of a step is decided: its action takes in what has
come of the commands, and a part that ended neither well nor badly leaves no mark on it.
-/

namespace Provision

open Stage Outcome
open Play (Gives gives_pure gives_after Leads leads_pure leads_clock leads_note)

variable {σ : Type} {r : Runner σ} {a : Action} {o child : Outcome}

namespace Action

theorem conclude_leads (ho : o.finalized = false) (part : Outcome) (s : Stage σ) :
    Leads (a.conclude o part) s fun o' t =>
      (∃ reply, o.Filled [part] reply ∧ o' = reply.outcome) ∧ Aside s t := by
  refine leads_clock ?_
  dsimp only
  cases he : o.policy.ends part.status with
  | true =>
    have hfilled := Filled.of_ends ho he s.now
    rw [attach_of_ends ho he] at hfilled ⊢
    exact (leads_note _ s).bind fun _ t ht => leads_pure ⟨⟨_, hfilled, rfl⟩, ht⟩
  | false =>
    rw [attach_of_not_ends ho he]
    exact leads_pure ⟨⟨_, .cons he (.of_finish (o := o.taking [part]) ho s.now), rfl⟩, .refl s⟩

theorem conclude_filled (ho : o.finalized = false) (child : Outcome) :
    Gives (a.conclude o child : Play σ Outcome)
      fun o' => ∃ reply : Reply, o.Filled [child] reply ∧ o' = reply.outcome :=
  fun s => (conclude_leads ho child s).1

theorem conclude_decided (ho : o.finalized = false) (hs : o.status.left = true) :
    Gives (a.conclude o child : Play σ Outcome) (·.status.decided = true) := by
  intro s
  obtain ⟨reply, hfilled, heq⟩ := conclude_filled (a := a) ho child s
  rw [heq]
  exact hfilled.decided hs

theorem perform_keeps_status (c : Context) (options : Entries) :
    Gives (a.perform r c options o)
      fun performed => performed.1.finalized = o.finalized ∧ performed.1.status = o.status := by
  unfold perform
  split
  · refine gives_after fun result => ?_
    cases result with
    | error f => exact gives_pure ⟨rfl, rfl⟩
    | ok command => exact gives_after fun _ => gives_pure (by simp)
  · refine gives_after fun result => ?_
    cases result with
    | error f => exact gives_pure ⟨rfl, rfl⟩
    | ok prepared => exact gives_after fun _ => gives_pure (by simp)

theorem runChecked_decided (c : Context) (options : Entries) :
    Gives (a.runChecked r c options) (·.status.decided = true) := by
  refine gives_after fun now => gives_after fun _ => ?_
  refine .bind (perform_keeps_status c options) fun performed h => ?_
  obtain ⟨ho, hs⟩ := h
  refine gives_after fun child => gives_after fun child => conclude_decided ?_ ?_
  · rw [ho]
    exact withDetail_finalized _
  · rw [hs, begun, withDetail_status]
    rfl

end Action

theorem Outcome.ofRaised_fault_status (f : Fault) (name : String) (kind : OutcomeKind)
    (now : Moment) : (ofRaised (.fault f) name kind now).status = .error := by
  unfold ofRaised
  dsimp only
  rw [error_of_open rfl]
  rfl

theorem Outcome.ofRaised_fault_fault (f : Fault) (name : String) (kind : OutcomeKind)
    (now : Moment) : (ofRaised (.fault f) name kind now).fault = some f := by
  unfold ofRaised
  dsimp only
  rw [error_of_open rfl]
  rfl

namespace Plan

variable {terms : Terms}

theorem taskOutcome_decided (a : Action) (t : Task) :
    Gives (taskOutcome r terms a t) (·.status.decided = true) := by
  have hcall : Gives (call r terms a t) fun result =>
      ∀ o, result = .ok o → o.status.decided = true := by
    unfold call
    split
    · unfold Action.rehearse
      split
      · exact gives_pure (by simp)
      · refine gives_after fun now => gives_pure ?_
        rintro _ ⟨⟩
        rw [Action.begun, succeed_of_open (by simp; rfl)]
        rfl
    · unfold Action.run
      split
      · exact gives_pure (by simp)
      · refine .bind (Action.runChecked_decided _ _) fun o h => gives_pure ?_
        rintro _ ⟨⟩
        exact h
  refine .bind hcall fun result h => ?_
  cases result with
  | ok o => exact gives_pure (h o rfl)
  | error f =>
    refine gives_after fun now => gives_pure ?_
    rw [Outcome.ofRaised_fault_status]
    rfl

end Plan

end Provision
