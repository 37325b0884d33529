import Provision.Proofs.Action.Calls
import Provision.Proofs.Plan.Attempts

/-!
# Chains of commands

A chain goes through its commands in order, as far as the first call that fails. What was
returned is taken in, and with a call that fails the chain has ended or broken off
(`Chain.Fills`). Only in a chain that is broken off it is lost.
-/

namespace Provision

open Stage Outcome
open Play (Leads leads_pure leads_clock)
open Plan (Reach)

variable {σ : Type} {r : Runner σ}

-- ---------------------------------------------------------------------------
-- Containers
-- ---------------------------------------------------------------------------

namespace Outcome

/-- An open container that nothing has gone wrong in so far. Any part that failed will end it. -/
structure Exacting (o : Outcome) : Prop where
  opened : o.finalized = false
  policy : o.policy = { failureIsError := true }
  status : o.status.left = true
  sound : o.settled.ok = true

namespace Exacting

variable {o c : Outcome}

theorem ends (h : Exacting o) (s : Status) : o.policy.ends s = s.bad := by
  rw [h.policy]
  cases s <;> rfl

theorem begin (name : String) (kind : OutcomeKind) (now : Moment) :
    Exacting (begin name kind { failureIsError := true } now) := ⟨rfl, rfl, rfl, rfl⟩

theorem withDetail (h : Exacting o) (v : Value) : Exacting (o.withDetail v) where
  opened := by simpa using h.opened
  policy := by simpa using h.policy
  status := by simpa using h.status
  sound := by simpa [settled] using h.sound

theorem take (h : Exacting o) (hc : c.status.bad = false) : Exacting (o.taking [c]) where
  opened := h.opened
  policy := h.policy
  status := taking_left h.status [c]
  sound := by
    rw [settled_taking_ok_iff h.status (by rw [h.policy])]
    exact ⟨h.sound, by simp [Bad, hc]⟩

theorem takeAll {cs : List Outcome} (h : Exacting o) (hc : ∀ c ∈ cs, c.status.bad = false) :
    Exacting (o.taking cs) := by
  induction cs generalizing o with
  | nil => simpa using h
  | cons c cs ih =>
    obtain ⟨hhead, hrest⟩ := List.forall_mem_cons.1 hc
    simpa [taking_taking] using ih (h.take hhead) hrest

theorem not_bad (h : Exacting o) : o.status.bad = false := by
  have hsound := h.sound
  unfold settled at hsound
  revert hsound
  cases o.status <;> simp [Status.pending, Status.ok, Status.bad]

end Exacting

end Outcome

-- ---------------------------------------------------------------------------
-- Chains
-- ---------------------------------------------------------------------------

theorem returned_cons {call : Call} {child : Outcome} (h : call.answer = .ok child)
    (calls : List Call) : returned (call :: calls) = child :: returned calls := by
  simp [returned, h, Except.toOption]

theorem Call.failed_of_ok {call : Call} {child : Outcome} (h : call.answer = .ok child) :
    call.failed = child.status.bad := by
  simp [failed, h]

theorem Call.failed_of_error {call : Call} {e : Raised} (h : call.answer = .error e) :
    call.failed = true := by
  simp [failed, h]

theorem returned_not_bad {calls : List Call} (h : calls.any Call.failed = false) :
    ∀ c ∈ returned calls, c.status.bad = false := by
  intro c hc
  obtain ⟨call, hcall, ha⟩ := List.mem_filterMap.1 hc
  have ha' : call.answer = .ok c := by
    cases hx : call.answer <;> simp_all [Except.toOption]
  rw [← Call.failed_of_ok ha']
  simpa using List.any_eq_false.1 h call hcall

namespace Action

namespace Chain

/-- How a chain stands that began with a container, after some calls. -/
inductive Fills (o : Outcome) : List Call → Chain → Prop
  | going {calls : List Call} (h : calls.any Call.failed = false) :
      Fills o calls (.going (o.taking (returned calls)))
  | failed {calls : List Call} {call : Call} {child : Outcome} (h : calls.any Call.failed = false)
      (ha : call.answer = .ok child) (hbad : child.Bad) (now : Moment) :
      Fills o (calls ++ [call]) (.ended ((o.taking (returned calls)).broken child now))
  | bubbled {calls : List Call} {call : Call} {p : Outcome} (h : calls.any Call.failed = false)
      (ha : call.answer = .error (.bubbled p)) :
      Fills o (calls ++ [call]) (.ended (o.taking (returned calls)))
  | raised {calls : List Call} {call : Call} {f : Fault} (h : calls.any Call.failed = false)
      (ha : call.answer = .error (.fault f)) : Fills o (calls ++ [call]) (.broken f)

def result (chain : Chain) (now : Moment) : Except Raised Outcome :=
  match chain with
  | .going o => .ok (o.finish .null now).outcome
  | .ended o => .ok o
  | .broken f => .error (.fault f)

theorem result_ne_bubbled (chain : Chain) (now : Moment) (p : Outcome) :
    chain.result now ≠ .error (.bubbled p) := by
  cases chain <;> nofun

namespace Fills

variable {o o' child : Outcome} {call : Call} {calls : List Call} {chain : Chain} {now : Moment}

theorem cons (ha : call.answer = .ok child) (hok : child.status.bad = false)
    (h : Fills (o.taking [child]) calls chain) : Fills o (call :: calls) chain := by
  have hfailed : call.failed = false := by rw [Call.failed_of_ok ha, hok]
  have htaking : ∀ calls, (o.taking [child]).taking (returned calls) =
      o.taking (returned (call :: calls)) := by
    intro calls
    rw [taking_taking, returned_cons ha, List.singleton_append]
  have hany : ∀ {calls : List Call}, calls.any Call.failed = false →
      (call :: calls).any Call.failed = false := by
    intro calls hcalls
    rw [List.any_cons, hfailed, hcalls]
    rfl
  cases h with
  | going h =>
    rw [htaking]
    exact .going (hany h)
  | failed h hc hbad now =>
    rw [htaking, ← List.cons_append]
    exact .failed (hany h) hc hbad now
  | bubbled h hc =>
    rw [htaking, ← List.cons_append]
    exact .bubbled (hany h) hc
  | raised h hc =>
    rw [← List.cons_append]
    exact .raised (hany h) hc

theorem stopped (h : Fills o calls chain) (hn : ∀ o', chain ≠ .going o') :
    calls.any Call.failed = true := by
  cases h with
  | going => exact absurd rfl (hn _)
  | failed h ha hbad => simp [Call.failed_of_ok ha, hbad]
  | bubbled h ha => simp [Call.failed_of_error ha]
  | raised h ha => simp [Call.failed_of_error ha]

/-- Unless it is broken off, a chain has taken in all that was returned. -/
theorem children (h : Fills o calls chain) (ho : o.finalized = false)
    (hr : chain.result now = .ok o') : o'.children = o.children ++ returned calls := by
  cases h with
  | going h =>
    cases hr
    rw [finish_of_open (by simpa using ho), close_children, taking_children]
  | failed h ha hbad now =>
    cases hr
    rw [broken_children, taking_children, returned_append, returned_cons ha, List.append_assoc]
    rfl
  | bubbled h ha =>
    cases hr
    rw [taking_children, returned_append]
    simp [returned, ha, Except.toOption]
  | raised => cases hr

theorem labelled (h : Fills o calls chain) (ho : o.finalized = false)
    (hr : chain.result now = .ok o') : o'.name = o.name ∧ o'.kind = o.kind := by
  cases h with
  | going h =>
    cases hr
    rw [finish_of_open (by simpa using ho)]
    exact ⟨close_name, close_kind⟩
  | failed =>
    cases hr
    exact ⟨broken_name, broken_kind⟩
  | bubbled =>
    cases hr
    exact ⟨rfl, rfl⟩
  | raised => cases hr

/-- Only a fault that a call raised breaks a chain off. -/
theorem broken_iff (h : Fills o calls chain) :
    (∃ f, chain = .broken f) ↔ ∃ call ∈ calls, ∃ f, call.answer = .error (.fault f) := by
  have hsound : ∀ {calls : List Call}, calls.any Call.failed = false →
      ∀ call ∈ calls, ∀ f, call.answer ≠ .error (.fault f) := by
    intro calls hcalls call hcall f ha
    exact List.any_eq_false.1 hcalls call hcall (Call.failed_of_error ha)
  have hlast : ∀ {calls : List Call} {last : Call}, calls.any Call.failed = false →
      (∀ f, last.answer ≠ .error (.fault f)) →
      ¬∃ call ∈ calls ++ [last], ∃ f, call.answer = .error (.fault f) := by
    rintro calls last hcalls hlast ⟨call, hcall, f, ha⟩
    obtain hcall | hcall := List.mem_append.1 hcall
    · exact hsound hcalls call hcall f ha
    · rw [List.mem_singleton.1 hcall] at ha
      exact hlast f ha
  cases h with
  | going h =>
    refine iff_of_false nofun ?_
    rintro ⟨call, hcall, f, ha⟩
    exact hsound h call hcall f ha
  | failed h hc _ _ => exact iff_of_false nofun (hlast h (by simp [hc]))
  | bubbled h hc => exact iff_of_false nofun (hlast h (by simp [hc]))
  | @raised calls call f h hc => exact iff_of_true ⟨f, rfl⟩ ⟨call, by simp, f, hc⟩

/-- A call that bubbles ends a chain and leaves its container as it is: open, and with nothing wrong
in it. -/
theorem of_bubbled {p : Outcome} (h : Fills o calls chain) (ho : Exacting o) (hcall : call ∈ calls)
    (ha : call.answer = .error (.bubbled p)) : ∃ o', chain = .ended o' ∧ Exacting o' := by
  have hsound : ∀ {calls : List Call}, calls.any Call.failed = false → call ∉ calls :=
    fun hcalls hmem => List.any_eq_false.1 hcalls call hmem (Call.failed_of_error ha)
  have hlast : ∀ {calls : List Call} {last : Call}, calls.any Call.failed = false →
      call ∈ calls ++ [last] → last.answer = .error (.bubbled p) := by
    intro calls last hcalls hmem
    obtain hmem | hmem := List.mem_append.1 hmem
    · exact absurd hmem (hsound hcalls)
    · rw [← List.mem_singleton.1 hmem]
      exact ha
  cases h with
  | going h => exact absurd hcall (hsound h)
  | failed h hc _ _ => cases hc.symm.trans (hlast h hcall)
  | bubbled h hc => exact ⟨_, rfl, ho.takeAll (returned_not_bad h)⟩
  | raised h hc => cases hc.symm.trans (hlast h hcall)

theorem bad_iff (h : Fills o calls chain) (ho : Exacting o)
    (hb : ∀ call ∈ calls, ∀ p, call.answer ≠ .error (.bubbled p)) :
    (∀ o', chain.result now = .ok o' → o'.Bad) ↔ calls.any Call.failed = true := by
  have hstop := h.stopped
  cases h with
  | going h =>
    have hok : (o.taking (returned calls)).settled.ok = true :=
      (ho.takeAll (returned_not_bad h)).sound
    rw [h]
    refine iff_of_false (fun hall => ?_) Bool.false_ne_true
    have hbad := hall _ rfl
    rw [finish_of_open (by simpa using ho.opened), Bad, close_status] at hbad
    rw [Status.ok_eq_false hbad] at hok
    cases hok
  | failed h ha hbad now =>
    refine iff_of_true (fun o' ho' => ?_) (hstop (by simp))
    cases ho'
    rfl
  | @bubbled calls call p h ha => exact absurd ha (hb call (by simp) p)
  | raised h ha =>
    refine iff_of_true (fun o' ho' => ?_) (hstop (by simp))
    cases ho'

end Fills

end Chain

open Chain (Fills)

variable {o : Outcome}

/-- A command that is run as the next part of a chain is one call. If the chain goes on then with
what the call has returned. -/
theorem chainCommand_leads (ho : Exacting o) (command : Command) (s : Stage σ) :
    Leads (chainCommand r o command) s fun step t => ∃ answer,
      Calls r s [⟨command, answer⟩] t ∧ Fills o [⟨command, answer⟩] step.1 ∧
        ∀ o', step.1 = .going o' → ∃ child, answer = .ok child ∧ child.status.bad = false ∧
          step.2 = some child ∧ o' = o.taking [child] := by
  refine (Calls.hand r command s).bind fun answer t ht => ?_
  cases answer with
  | error e =>
    cases e with
    | bubbled p =>
      have h := @Fills.bubbled o [] ⟨command, .error (.bubbled p)⟩ p rfl rfl
      refine leads_pure ⟨_, ht, by simpa [returned] using h, ?_⟩
      rintro _ ⟨⟩
    | fault f =>
      refine leads_pure ⟨_, ht, @Fills.raised o [] ⟨command, .error (.fault f)⟩ f rfl rfl, ?_⟩
      rintro _ ⟨⟩
  | ok child =>
    refine leads_clock ?_
    dsimp only
    cases hbad : child.status.bad with
    | true =>
      rw [attach_of_ends ho.opened ((ho.ends _).trans hbad)]
      have h := @Fills.failed o [] ⟨command, .ok child⟩ child rfl rfl hbad t.now
      refine leads_pure ⟨_, ht, by simpa [returned] using h, ?_⟩
      rintro _ ⟨⟩
    | false =>
      rw [attach_of_not_ends ho.opened ((ho.ends _).trans hbad)]
      have h := @Fills.going o [⟨command, .ok child⟩] (by simp [Call.failed, hbad])
      refine leads_pure ⟨_, ht, h, ?_⟩
      rintro _ ⟨⟩
      exact ⟨child, rfl, hbad, rfl, rfl⟩

theorem chainCommands_leads (ho : Exacting o) (commands : List Command) (s : Stage σ) :
    Leads (chainCommands r o commands) s fun chain t => ∃ calls,
      Calls r s calls t ∧ Reach Call.command Call.failed commands calls ∧ Fills o calls chain := by
  induction commands generalizing o s with
  | nil =>
    have h := @Fills.going o [] rfl
    exact leads_pure ⟨[], .none (.refl s), .done, by simpa [returned] using h⟩
  | cons command commands ih =>
    refine (chainCommand_leads ho command s).bind ?_
    rintro ⟨chain, found⟩ t ⟨answer, hcalls, hfills, hgoing⟩
    have hstop : (∀ o', chain ≠ .going o') → Call.failed ⟨command, answer⟩ = true :=
      fun hn => by simpa using hfills.stopped hn
    cases chain with
    | going o' =>
      obtain ⟨child, rfl, hbad, -, rfl⟩ := hgoing o' rfl
      refine (ih (ho.take hbad) t).imp ?_
      rintro chain u ⟨calls, hrest, hreach, hfills'⟩
      exact ⟨_, hcalls.append hrest, .next (b := ⟨command, .ok child⟩) hbad hreach,
        hfills'.cons rfl hbad⟩
    | ended o' => exact leads_pure ⟨_, hcalls, .stop (hstop (by simp)), hfills⟩
    | broken f => exact leads_pure ⟨_, hcalls, .stop (hstop (by simp)), hfills⟩

end Action

end Provision
