import Provision.Proofs.Action.Decided

/-!
# Calling an action

An action is called only after its context and its options have been checked. What there
is to be had against them is raised before anything is done (`call_of_refused`), and is
the fault of the outcome of the task. A dry run goes no further than the check.
-/

namespace Provision

open Stage Outcome

variable {σ : Type}

-- ---------------------------------------------------------------------------
-- Actions
-- ---------------------------------------------------------------------------

namespace Action

variable {a : Action} {c : Context} {options : Entries} {f : Fault}

def checked (a : Action) (c : Context) (options : Entries) : Except Fault Unit := do
  checkContext c
  a.checkOptions options

theorem check_eq : a.check (some c) options = (a.checked c options).map fun _ => c := by
  show (do checkContext c; a.checkOptions options; return c) = _
  unfold checked
  cases checkContext c with
  | error f => rfl
  | ok _ => cases a.checkOptions options <;> rfl

inductive Objected (a : Action) : Fault → Prop
  | context {text : String} : Objected a (.of .invalidActionContext text)
  | option {key : String} (h : key ∈ a.work.required) : Objected a (.missingOption key)

theorem objected (h : a.checked c options = .error f) : a.Objected f := by
  unfold checked checkContext at h
  split at h
  · cases h
    exact .context
  · replace h : a.checkOptions options = .error f := h
    unfold checkOptions at h
    split at h
    · next key hkey =>
      cases h
      exact .option (List.mem_of_find?_eq_some hkey)
    · cases h

end Action

namespace Plan

-- ---------------------------------------------------------------------------
-- Tasks
-- ---------------------------------------------------------------------------

section
variable {r : Runner σ} {terms : Terms} {a : Action} {t : Task} {f : Fault} {s : Stage σ}

theorem call_of_refused (h : a.checked terms.context t.options = .error f) (s : Stage σ) :
    (call r terms a t).run s = (.error f, s) := by
  unfold call Action.rehearse Action.run
  rw [Action.check_eq, h]
  split <;> rfl

theorem call_of_passed (h : a.checked terms.context t.options = .ok ()) (s : Stage σ) :
    ∃ o, ((call r terms a t).run s).1 = .ok o ∧
      (terms.dryRun = true → o.status = .success ∧ o.fault = none) := by
  unfold call Action.rehearse Action.run
  rw [Action.check_eq, h]
  cases hd : terms.dryRun with
  | true =>
    refine ⟨_, rfl, fun _ => ?_⟩
    rw [succeed_of_open (by simp [Action.begun]; rfl)]
    exact ⟨rfl, rfl⟩
  | false => exact ⟨_, rfl, fun h => absurd h Bool.false_ne_true⟩

theorem taskOutcome_of_refused (h : a.checked terms.context t.options = .error f) (s : Stage σ) :
    ((taskOutcome r terms a t).run s).1.status = .error ∧
      ((taskOutcome r terms a t).run s).1.fault = some f := by
  unfold taskOutcome
  rw [Play.run_bind, call_of_refused h]
  exact ⟨ofRaised_fault_status .., ofRaised_fault_fault ..⟩

theorem taskOutcome_of_passed (h : a.checked terms.context t.options = .ok ())
    (hd : terms.dryRun = true) (s : Stage σ) :
    ((taskOutcome r terms a t).run s).1.status = .success ∧
      ((taskOutcome r terms a t).run s).1.fault = none := by
  obtain ⟨o, ho, hdry⟩ := call_of_passed (r := r) h s
  unfold taskOutcome
  rw [Play.run_bind, ho]
  exact hdry hd

theorem taskOutcome_of_real (h : a.checked terms.context t.options = .ok ())
    (hd : terms.dryRun = false) (s : Stage σ) :
    (taskOutcome r terms a t).run s = (a.runChecked r terms.context t.options).run s := by
  unfold taskOutcome call Action.run
  rw [hd, Action.check_eq, h]
  rfl

end

end Plan

end Provision
