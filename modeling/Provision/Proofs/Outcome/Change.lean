import Provision.Proofs.OutcomeLaws

/-!
# What an ended outcome still takes in

An outcome that has ended refuses every change (`on_of_finalized`), but a change
that brings a blame along has it recorded before it is refused. So an ended
outcome stays as it is exactly under the changes that say nothing new about what
went wrong (`ended_outcome_stays_iff`).
-/

namespace Provision.Outcome

inductive Change where
  | start
  | setDetail (detail : Value)
  | attach (part : Outcome)
  | finish (detail : Value)
  | succeed (detail : Value)
  | warn (detail : Value)
  | fail (why : Blame) (detail : Value)
  | error (why : Blame) (detail : Value)
  | raise (why : Blame)

def Change.on (c : Change) (o : Outcome) (now : Moment) : Reply :=
  match c with
  | .start => o.start now
  | .setDetail detail => o.setDetail detail
  | .attach part => o.attach part now
  | .finish detail => o.finish detail now
  | .succeed detail => o.succeed detail now
  | .warn detail => o.warn detail now
  | .fail why detail => o.fail why detail now
  | .error why detail => o.error why detail now
  | .raise why => o.raise why now

/-- What is left of an outcome after changes in turn, each at its moment. One that is refused does
not keep the next from being tried. -/
def after (o : Outcome) : List (Change × Moment) → Outcome
  | [] => o
  | (c, now) :: row => (c.on o now).outcome.after row

def Change.why : Change → Blame
  | .fail why _ => why
  | .error why _ => why
  | .raise why => why
  | _ => .nothing

/-- A blame that says nothing, or nothing that is not recorded. -/
def Recorded (o : Outcome) : Blame → Prop
  | .nothing => True
  | .fault f => o.fault = some f
  | .value v => v.truthy = true → o.detail.get? "error_message" = some (.str v.text)

variable {o : Outcome}

-- ---------------------------------------------------------------------------
-- Blame
-- ---------------------------------------------------------------------------

theorem put_eq_self_iff {key : String} {v : Value} {es : Entries} :
    es.put key v = es ↔ es.get? key = some v := by
  constructor
  · intro h
    rw [← Entries.get?_put_self key v es, h]
  · intro h
    induction es with
    | nil => cases h
    | cons e rest ih =>
      obtain ⟨k, w⟩ := e
      by_cases hk : k = key
      · simp_all [Entries.get?, Entries.put]
      · simp_all [Entries.get?, Entries.put]

theorem blame_eq_self_iff {b : Blame} : o.blame b = o ↔ o.Recorded b := by
  cases b with
  | nothing => exact ⟨fun _ => trivial, fun _ => rfl⟩
  | fault f =>
    constructor
    · intro h
      exact (congrArg Outcome.fault h).symm
    · intro h
      simp only [Recorded] at h
      cases o
      simp_all [blame]
  | value v =>
    by_cases hv : v.truthy
    · constructor
      · intro h _
        refine put_eq_self_iff.1 ?_
        simpa [blame, hv] using congrArg Outcome.detail h
      · intro h
        have hp := put_eq_self_iff.2 (h hv)
        cases o
        simp_all [blame]
    · simp [blame, Recorded, hv]

-- ---------------------------------------------------------------------------
-- Changes of an outcome that has ended
-- ---------------------------------------------------------------------------

theorem whenOpen_of_finalized (h : o.finalized = true) (change : Outcome → Outcome) :
    o.whenOpen change = ⟨o, some (.fault o.finalizedFault)⟩ := by
  simp [whenOpen, h]

theorem blame_finalizedFault (b : Blame) : (o.blame b).finalizedFault = o.finalizedFault := by
  simp [finalizedFault]

theorem finalize_blame_of_finalized (h : o.finalized = true) (b : Blame) (s : Status) (v : Value)
    (now : Moment) :
    (o.blame b).finalize s v now = ⟨o.blame b, some (.fault o.finalizedFault)⟩ := by
  rw [finalize, whenOpen_of_finalized (by simpa using h), blame_finalizedFault]

/-- Every change is refused, and all that it leaves behind is its blame. -/
theorem on_of_finalized (h : o.finalized = true) (c : Change) (now : Moment) :
    c.on o now = ⟨o.blame c.why, some (.fault o.finalizedFault)⟩ := by
  cases c with
  | attach part => simp [Change.on, Change.why, Outcome.attach, h, blame]
  | fail why detail => exact finalize_blame_of_finalized h why _ _ _
  | error why detail => exact finalize_blame_of_finalized h why _ _ _
  | raise why =>
    have he : o.error why .null now = ⟨o.blame why, some (.fault o.finalizedFault)⟩ :=
      finalize_blame_of_finalized h why _ _ _
    exact congrArg Reply.bubble he
  | _ =>
    simp [Change.on, Change.why, Outcome.start, Outcome.setDetail, Outcome.finish,
      Outcome.succeed, Outcome.warn, Outcome.finalize, whenOpen_of_finalized h, blame]

/-- A change of an outcome that has ended is always refused. It leaves everything but the
account of what went wrong as it was, and that too exactly when its own account is none, or is
recorded already. -/
theorem ended_outcome_stays_iff (h : o.finalized = true) (c : Change) (now : Moment) :
    (c.on o now).raised = some (.fault o.finalizedFault) ∧
    (∃ detail fault, (c.on o now).outcome = { o with detail, fault }) ∧
    ((c.on o now).outcome = o ↔ o.Recorded c.why) := by
  rw [on_of_finalized h c now]
  exact ⟨rfl, blame_frame o c.why, blame_eq_self_iff⟩

def deployed : Outcome := ((begin "deploy-metadata:execute" .action {} .zero).succeed .null .zero).outcome

def lateFailure : Change := .fail (.value (.str "late")) .null

theorem deployed_stays_iff :
    deployed.finalized = true ∧
    (lateFailure.on deployed .zero).raised = some (.fault deployed.finalizedFault) ∧
    (∃ detail fault, (lateFailure.on deployed .zero).outcome = { deployed with detail, fault }) ∧
    ((lateFailure.on deployed .zero).outcome = deployed ↔ deployed.Recorded lateFailure.why) :=
  ⟨rfl, ended_outcome_stays_iff rfl lateFailure .zero⟩

/-- The refused failure stands in the detail of the success, and is its message. -/
theorem late_failure_is_recorded :
    deployed.finalized = true ∧ deployed.detail = [] ∧ deployed.message = "" ∧
    (lateFailure.on deployed .zero).raised = some (.fault deployed.finalizedFault) ∧
    (lateFailure.on deployed .zero).outcome.detail = [("error_message", .str "late")] ∧
    (lateFailure.on deployed .zero).outcome.message = "late" :=
  ⟨rfl, rfl, rfl, rfl, rfl, rfl⟩

end Provision.Outcome
