import Provision.Proofs.Action.MessageLaws

/-!
# Calls of a runner

What an action does with its runner is a row of calls: commands that are handed over one
after the other, each with what the runner answered (`Calls`). In between nothing reaches
the runner (`Stage.Aside`). An action that is one command makes one call, or none if the command
could not be drafted (`perform_calls`).
-/

namespace Provision

open Stage Outcome
open Play (Leads leads_pure)

variable {σ : Type} {r : Runner σ}

theorem Action.Draft.leads_play {α : Type} (d : Draft α) (s : Stage σ) :
    Leads d.play s fun result t => (∃ n, d.run.run s.serial = (result, n)) ∧ Aside s t := by
  refine ⟨⟨_, rfl⟩, [], (d.run.run s.serial).2, ?_⟩
  simp [play_run]

-- ---------------------------------------------------------------------------
-- Calls
-- ---------------------------------------------------------------------------

structure Call where
  command : Command
  answer : Except Raised Outcome

namespace Call

/-- Whether it went wrong: something was raised, or the command ended in a failure or an error. -/
def failed (call : Call) : Bool :=
  match call.answer with
  | .ok o => o.status.bad
  | .error _ => true

end Call

def returned (calls : List Call) : List Outcome := calls.filterMap (·.answer.toOption)

theorem returned_append (cs ds : List Call) : returned (cs ++ ds) = returned cs ++ returned ds :=
  List.filterMap_append

/-- Commands handed to a runner one after the other, with what it answered. -/
inductive Calls (r : Runner σ) : Stage σ → List Call → Stage σ → Prop
  | none {s t : Stage σ} (h : Aside s t) : Calls r s [] t
  | cons {s t u : Stage σ} {c : Call} {cs : List Call} (h : Aside s t)
      (ha : ((Stage.hand r c.command).run t).1 = c.answer)
      (hr : Calls r ((Stage.hand r c.command).run t).2 cs u) : Calls r s (c :: cs) u

namespace Calls

variable {s t u : Stage σ} {cs ds : List Call}

theorem aside_left (ha : Aside s t) (h : Calls r t cs u) : Calls r s cs u := by
  cases h with
  | none h => exact .none (ha.trans h)
  | cons h hc hr => exact .cons (ha.trans h) hc hr

theorem append (h : Calls r s cs t) (h' : Calls r t ds u) : Calls r s (cs ++ ds) u := by
  induction h with
  | none ha => exact h'.aside_left ha
  | cons ha hc _ ih => exact .cons ha hc (ih h')

theorem aside_right (h : Calls r s cs t) (ha : Aside t u) : Calls r s cs u := by
  simpa using h.append (.none ha)

theorem commands (h : Calls r s cs u) : u.calls = s.calls ++ cs.map (·.command) := by
  induction h with
  | none h => simpa using h.calls
  | @cons s t u c cs h _ _ ih =>
    have hhand : ((Stage.hand r c.command).run t).2.calls = t.calls ++ [c.command] := rfl
    rw [ih, hhand, h.calls, List.map_cons, List.append_assoc, List.singleton_append]

/-- A candid runner answers for a command that failed in the command's own words. -/
theorem message {c : Call} {o : Outcome} (h : Calls r s [c] u) (hr : r.Candid)
    (ho : c.answer = .ok o) (hbad : o.Bad) (hc : c.command.errorMsg ≠ "") :
    o.message = c.command.errorMsg := by
  cases h with
  | @cons s t u _ _ _ ha _ => exact hr c.command t.now _ t.state o (ha.trans ho) hbad hc

theorem hand (r : Runner σ) (c : Command) (s : Stage σ) :
    Leads (Stage.hand r c) s fun answer t => Calls r s [⟨c, answer⟩] t :=
  .cons (.refl s) rfl (.none (.refl _))

end Calls

namespace Action

variable {a : Action} {o : Outcome} {c : Context} {options : Entries} {s : Stage σ}
  {draft : Context → Entries → Draft Command}

/-- An action that is one command hands that over, unless it could not be drafted. -/
theorem perform_calls (hd : draft? a.work = some draft) :
    Leads (a.perform r c options o) s fun performed t =>
      (∃ f n, (draft c options).run.run s.serial = (.error f, n) ∧
        performed.2 = .error (.fault f) ∧ Calls r s [] t) ∨
      ∃ command n, (draft c options).run.run s.serial = (.ok command, n) ∧
        Calls r s [⟨command, performed.2⟩] t := by
  unfold perform
  rw [hd]
  refine ((draft c options).leads_play s).bind ?_
  rintro result t ⟨⟨n, hn⟩, ht⟩
  cases result with
  | error f => exact leads_pure (.inl ⟨f, n, hn, rfl, .none ht⟩)
  | ok command =>
    refine (Calls.hand r command t).bind fun answer u hu => leads_pure (.inr ?_)
    exact ⟨command, n, hn, hu.aside_left ht⟩

end Action

end Provision
