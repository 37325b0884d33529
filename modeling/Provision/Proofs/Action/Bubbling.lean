import Provision.Proofs.Action.AbsenceLaws
import Provision.Proofs.Action.AdminUser
import Provision.Rehearsal.Fault

/-!
# Outcomes that bubble out of a command

A runner may bubble an outcome in error instead of returning one. An action that is one command
takes it for what has come of the command (`run_commanded`), and so ends in error with its message.
The chain that configures the admin user stops at it, and hands back a container that is still open
and that nothing has gone wrong in (`Administered.of_bubbled`).
-/

namespace Provision

open Stage Outcome
open Play (Leads)

variable {σ : Type}

-- ---------------------------------------------------------------------------
-- Trees that have ended
-- ---------------------------------------------------------------------------

namespace Outcome

/-- It has ended, and so has all that is below it. -/
def Closed (o : Outcome) : Prop := ∀ n, Within n o → n.finalized = true

theorem Closed.of_part {o part : Outcome} (ho : o.finalized = true) (hc : o.children = [part])
    (h : part.Closed) : o.Closed := by
  rintro n (rfl | hn)
  · exact ho
  · cases hn with
    | part hn =>
      rw [hc, List.mem_singleton] at hn
      exact h n (.inl hn)
    | deeper hm hn =>
      rw [hc, List.mem_singleton] at hm
      exact h n (.inr (hm ▸ hn))

theorem Closed.leaf {o : Outcome} (ho : o.finalized = true) (hc : o.children = []) :
    o.Closed := by
  rintro n (rfl | hn)
  · exact ho
  · cases hn <;> simp_all

end Outcome

variable {o part : Outcome}

theorem Concluded.of_error (h : Concluded part o) (hp : part.status = .error)
    (hclosed : part.Closed) : o.status = .error ∧ o.message = part.message ∧ o.Closed := by
  have hstatus : o.status = .error := by
    rw [h.status, hp]
    rfl
  exact ⟨hstatus, h.message hstatus, .of_part h.finalized h.children hclosed⟩

theorem Concluded.ok (h : Concluded part o) (hp : part.status.bad = false) :
    o.status.ok = true := by
  rw [h.status]
  revert hp
  cases part.status <;> simp [Status.graded, Status.bad, Status.ok]

namespace Action

variable {a : Action} {c : Context} {options definition : Entries} {permsets : List String}
  {p : Outcome} {call : Call}

-- ---------------------------------------------------------------------------
-- Actions that are one command
-- ---------------------------------------------------------------------------

theorem exists_draft {work : ActionName} (h : work ≠ .configureAdminUser) :
    ∃ draft, draft? work = some draft := by
  cases work with
  | configureAdminUser => exact absurd rfl h
  | _ => exact ⟨_, rfl⟩

/-- What there is after an action that is one command: the call, if it came to one, and an outcome
with one part that says what the call came to. -/
theorem run_commanded {draft : Context → Entries → Draft Command}
    (hd : draft? a.work = some draft) (hc : a.checked c options = .ok ()) (r : Runner σ)
    (s : Stage σ) :
    ∃ o answer now calls, ((a.run r (some c) options).run s).1 = .ok o ∧
      Calls r s calls ((a.run r (some c) options).run s).2 ∧
      Concluded (a.judged options now (a.taken now answer)) o ∧
      (calls = [] ∨ ∃ command, calls = [⟨command, answer⟩]) := by
  rw [run_of_checked hc]
  obtain ⟨t, ht, hu, ho⟩ := runChecked_leads a r c options s
  have hwork : Leads (a.perform r c options (a.begun c options s.now)) t _ := perform_calls hd
  obtain ⟨f, n, -, -, hcalls⟩ | ⟨command, n, -, hcalls⟩ := hwork
  · exact ⟨_, _, _, [], rfl, (hcalls.aside_left ht).aside_right hu, ho, .inl rfl⟩
  · exact ⟨_, _, _, _, rfl, (hcalls.aside_left ht).aside_right hu, ho, .inr ⟨command, rfl⟩⟩

theorem judged_of_error (h : p.status = .error) (options : Entries) (now : Moment) :
    a.judged options now p = p := by
  simp [judged, absenceWarning?, h]

-- ---------------------------------------------------------------------------
-- The configuration of the admin user
-- ---------------------------------------------------------------------------

/-- A configuration in which a call bubbles hands back its container as it stands. -/
theorem Administered.of_bubbled {first : Call} {rest : List Call}
    {result : Except Raised Outcome}
    (h : Administered c definition permsets first rest result) (hcall : call ∈ first :: rest)
    (ha : call.answer = .error (.bubbled p)) : ∃ part, result = .ok part ∧ Exacting part := by
  have hfirst : ∀ {found : Outcome} {command : Command},
      call ∉ [(⟨command, .ok found⟩ : Call)] := by
    intro found command hmem
    rw [List.mem_singleton.1 hmem] at ha
    cases ha
  cases h with
  | unfound h _ _ =>
    obtain ⟨part, rfl, hpart⟩ := h.of_bubbled (administration_exacting _) hcall ha
    exact ⟨part, rfl, hpart⟩
  | misread => exact absurd hcall hfirst
  | nameless => exact absurd hcall hfirst
  | @named found u rest chain begun hok _ _ _ hfills _ =>
    obtain rfl | hcall := List.mem_cons.1 hcall
    · cases ha
    · obtain ⟨part, rfl, hpart⟩ := hfills.of_bubbled (named_exacting begun hok u) hcall ha
      exact ⟨part, rfl, hpart⟩

-- ---------------------------------------------------------------------------
-- Actions
-- ---------------------------------------------------------------------------

/-- When a command bubbles an outcome in error, all of which has ended, then the action has ended
as well and is in error with that message, exactly unless it configures the admin user. That action
ends well in this case, and its part has not ended. -/
theorem bubbled_error_stays_iff (hc : a.checked c options = .ok ()) (r : Runner σ) (s : Stage σ) :
    ∃ o calls, ((a.run r (some c) options).run s).1 = .ok o ∧
      Calls r s calls ((a.run r (some c) options).run s).2 ∧
      o.finalized = true ∧ o.kind = .action ∧
      ∀ call ∈ calls, ∀ p, call.answer = .error (.bubbled p) → p.status = .error → p.Closed →
        ((o.status = .error ∧ o.message = p.message ∧ o.Closed) ↔
          a.work ≠ .configureAdminUser) ∧
        (a.work = .configureAdminUser →
          o.status.ok = true ∧ ∃ part, o.children = [part] ∧ part.finalized = false) := by
  by_cases hw : a.work = .configureAdminUser
  · obtain ⟨o, result, now, calls, hrun, hcalls, ho, h⟩ := run_administers hw hc r s
    refine ⟨o, calls, hrun, hcalls, ho.finalized, ho.kind, fun call hcall p ha _ _ => ?_⟩
    obtain ⟨rfl, -, -⟩ | ⟨definition, permsets, first, rest, rfl, -, h⟩ := h
    · cases hcall
    · obtain ⟨part, rfl, hpart⟩ := h.of_bubbled hcall ha
      have hok := ho.ok hpart.not_bad
      refine ⟨iff_of_false ?_ (absurd hw), fun _ => ⟨hok, part, ho.children, hpart.opened⟩⟩
      rintro ⟨hstatus, -, -⟩
      rw [hstatus] at hok
      cases hok
  · obtain ⟨draft, hd⟩ := exists_draft hw
    obtain ⟨o, answer, now, calls, hrun, hcalls, ho, h⟩ := run_commanded hd hc r s
    refine ⟨o, calls, hrun, hcalls, ho.finalized, ho.kind, fun call hcall p ha hp hclosed => ?_⟩
    obtain rfl | ⟨command, rfl⟩ := h
    · cases hcall
    · rw [List.mem_singleton.1 hcall] at ha
      obtain rfl : answer = .error (.bubbled p) := ha
      have ho : Concluded p o := by
        rwa [taken, ofRaised, judged_of_error hp] at ho
      exact ⟨iff_of_true (ho.of_error hp hclosed) hw, fun h => absurd h hw⟩

def hungUp : Outcome := Rehearsal.bubbledOutcome "inner" "socket closed" .zero

theorem hungUp_closed : hungUp.Closed := .leaf rfl rfl

def hangingUp : Rehearsal where
  faults := [("force:apex:execute", .bubbled hungUp), ("force:org:display", .bubbled hungUp)]

def apex : Except Fault Outcome × Stage (List Command) :=
  ((Action.ofName .executeApex).run hangingUp.toRunner (some office)
    [("apexCodeFile", .str "seed.apex")]).run (.opened [] .zero)

theorem apex_bubbled_stays :
    ∃ o call, apex.1 = .ok o ∧ Calls hangingUp.toRunner (.opened [] .zero) [call] apex.2 ∧
      call.answer = .error (.bubbled hungUp) ∧ o.status = .error ∧ o.message = hungUp.message ∧
      o.Closed := by
  have hchecked : (Action.ofName .executeApex).checked office
      [("apexCodeFile", .str "seed.apex")] = .ok () := rfl
  obtain ⟨o, calls, ho, hcalls, -, -, h⟩ :=
    bubbled_error_stays_iff hchecked hangingUp.toRunner (.opened [] .zero)
  have hcommands : calls.map (·.command.command) = ["force:apex:execute"] := by
    have hall : apex.2.calls = calls.map (·.command) := hcalls.commands
    rw [← Function.comp_def, ← List.map_map, ← hall]
    decide +kernel
  obtain ⟨call, rfl, hname⟩ : ∃ call, calls = [call] ∧ call.command.command = "force:apex:execute" := by
    simpa [List.map_eq_cons_iff, and_comm] using hcommands
  have ha : call.answer = .error (.bubbled hungUp) := by
    cases hcalls with
    | @cons _ t _ _ _ ht ha _ =>
      have hanswer : hangingUp.answer call.command t.now = .error (.bubbled hungUp) := by
        simp [Rehearsal.answer, hangingUp, hname]
      obtain ⟨_, _, rfl⟩ := ht
      exact ha.symm.trans hanswer
  have hstays := (h call (List.mem_singleton_self _) hungUp ha rfl hungUp_closed).1
  exact ⟨o, call, ho, hcalls, ha, hstays.2 (by decide)⟩

/-- The look-up of the admin user ends in an error, and the action in a success without a message
that holds something open. -/
theorem bubbled_lookup_succeeds :
    (∀ now, hangingUp.answer (displayCommand adminOffice) now = .error (.bubbled hungUp)) ∧
      hungUp.status = .error ∧ hungUp.Closed ∧ hungUp.message = "socket closed" ∧
      (configuration hangingUp "ada.json").2.calls.map (·.command) = ["force:org:display"] ∧
      (configuration hangingUp "ada.json").1.toOption.map
        (fun o => (o.status, o.message, o.children.map (·.finalized))) =
        some (.success, "", [false]) :=
  ⟨fun _ => rfl, rfl, hungUp_closed, by decide +kernel, by decide +kernel, by decide +kernel⟩

end Action

end Provision
