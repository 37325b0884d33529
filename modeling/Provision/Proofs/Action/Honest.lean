import Provision.Proofs.Action.Decided
import Provision.Proofs.Outcome.Honest
import Provision.Rehearsal.Runner
import Provision.Runner.Tool

/-!
# Steps that hide no failure

With a runner that raises nothing but faults, whatever comes of a step is an honest
outcome: the outcome of its commands is taken in as a part, a fault becomes a part in
error, and a failure is downgraded by the deletion of a scratch org alone
(`taskOutcome_honest`). The runners of rehearsals and of the command line tool are
of that kind.
-/

namespace Provision

open Outcome

variable {σ α : Type} {r : Runner σ}

open Play (Gives gives_pure gives_after)

def Yields (Q : α → Prop) : Except Raised α → Prop
  | .ok a => Q a
  | .error (.fault _) => True
  | .error (.bubbled _) => False

/-- A runner that answers with honest outcomes and raises nothing but faults. -/
def Runner.Plain (r : Runner σ) : Prop :=
  ∀ c now objection state, Yields (Honest false) (r.run c now objection state).result

theorem Stage.hand_gives (hr : r.Plain) (c : Command) :
    Gives (Stage.hand r c) (Yields (Honest false)) :=
  fun s => hr c s.now _ s.state

-- ---------------------------------------------------------------------------
-- Runners
-- ---------------------------------------------------------------------------

theorem honest_succeed {name : String} {kind : OutcomeKind} {pol : Policy} {now : Moment}
    (v w : Value) (now' : Moment) (d : Bool) :
    Honest d (((begin name kind pol now).withDetail v).succeed w now').outcome := by
  rw [succeed_of_open (by simp; rfl)]
  refine .leaf rfl (.inl rfl) ?_
  simp [begin, blank]

theorem honest_fail {name : String} {kind : OutcomeKind} {pol : Policy} {now : Moment}
    (v w : Value) (b : Blame) (now' : Moment) (d : Bool) :
    Honest d (((begin name kind pol now).withDetail v).fail b w now').outcome := by
  rw [fail_of_open (by simp; rfl)]
  refine .leaf rfl (.inr rfl) ?_
  simp [begin, blank]

theorem Rehearsal.toRunner_plain (r : Rehearsal)
    (h : ∀ e ∈ r.faults, ∃ f, e.2 = .fault f) : r.toRunner.Plain := by
  intro c now objection calls
  show Yields _ (r.run c now objection calls).result
  unfold Rehearsal.run
  split
  · trivial
  · unfold Rehearsal.answer
    split
    · next raised hf =>
      obtain ⟨before, after, hl, -⟩ := List.lookup_eq_some_iff.1 hf
      obtain ⟨f, hr⟩ := h (c.command, raised) (by simp [hl])
      simp only at hr
      subst hr
      trivial
    · dsimp only
      split
      · exact honest_fail _ _ _ _ _
      · exact honest_succeed _ _ _ _

theorem Tool.close_yields {objection : Objection String} {last : String}
    {reply : Runner.Reply (List ShellEvent)} (h : Yields (Honest false) reply.result) :
    Yields (Honest false) (Tool.close objection last reply).result := by
  unfold Tool.close
  split
  · trivial
  · exact h

theorem Tool.judged_honest (c : Command) (line : String) (now : Moment) (parsed : Entries)
    (errors : String) (code : Int) (now' : Moment) :
    Honest false (Tool.judged c (Tool.begun c line now) parsed errors code now').1 := by
  unfold Tool.judged
  dsimp only
  split
  · exact honest_fail _ _ _ _ _
  · exact honest_succeed _ _ _ _

theorem Tool.toRunner_plain (t : Tool)
    (h : ∀ line e, t.launch line = .refused e → ∃ f, e = .fault f) : t.toRunner.Plain := by
  intro c now objection log
  show Yields _ (t.run c now objection log).result
  unfold Tool.run
  dsimp only
  split
  · trivial
  · split
    · next e he =>
      have hl : t.launch (c.line t.program) = .refused e := by
        unfold Tool.ending at he
        split at he
        · next hl => rw [hl, he]
        · split at he <;> simp_all
      obtain ⟨f, rfl⟩ := h _ e hl
      trivial
    · exact Tool.close_yields (honest_fail _ _ _ _ _)
    · split
      · trivial
      · exact Tool.close_yields (Tool.judged_honest ..)

-- ---------------------------------------------------------------------------
-- Chains of commands
-- ---------------------------------------------------------------------------

namespace Action

/-- How far a chain has come is told truly: it goes on with a container that is open, and ends
with an honest outcome. -/
def Chain.Fair : Chain → Prop
  | .going o => Gathered o
  | .ended o => Honest false o
  | .broken _ => True

theorem chainCommand_gives (hr : r.Plain) {o : Outcome} (ho : Gathered o) (c : Command) :
    Gives (chainCommand r o c) fun step =>
      step.1.Fair ∧ ∀ o', step = (.going o', none) → False := by
  refine .bind (Stage.hand_gives hr c) fun result h => ?_
  cases result with
  | error raised =>
    cases raised with
    | fault f => exact gives_pure ⟨trivial, by simp⟩
    | bubbled o => cases h
  | ok child =>
    have hchild : Honest o.isDeletion child := Honest.of_false h
    refine gives_after fun now => ?_
    cases he : o.policy.ends child.status with
    | true =>
      rw [attach_of_ends ho.opened he]
      exact gives_pure ⟨ho.broken hchild now, by simp⟩
    | false =>
      rw [attach_of_not_ends ho.opened he]
      exact gives_pure ⟨ho.take hchild, by simp⟩

theorem chainCommands_gives (hr : r.Plain) {o : Outcome} (ho : Gathered o) (cs : List Command) :
    Gives (chainCommands r o cs) Chain.Fair := by
  induction cs generalizing o with
  | nil => exact gives_pure ho
  | cons c cs ih =>
    refine .bind (chainCommand_gives hr ho c) fun step h => ?_
    obtain ⟨chain, found⟩ := step
    cases chain with
    | going o => exact ih h.1
    | ended o => exact gives_pure h.1
    | broken f => exact gives_pure trivial

theorem configureAdmin_gives (hr : r.Plain) (c : Context) (definition : Entries)
    (permsets : List String) :
    Gives (configureAdmin r c definition permsets) (Yields (Honest false)) := by
  refine gives_after fun now => ?_
  refine .bind (chainCommand_gives hr (.empty rfl rfl rfl rfl) _) fun step h => ?_
  obtain ⟨chain, found⟩ := step
  obtain ⟨hfair, hfound⟩ := h
  cases chain with
  | ended o => exact gives_pure hfair
  | broken f => exact gives_pure trivial
  | going o =>
    have ho : Gathered o := hfair
    cases found with
    | none => exact (hfound o rfl).elim
    | some found =>
      cases hu : adminUsername found with
      | error f => simpa only [hu] using gives_pure trivial
      | ok username =>
        simp only [hu]
        refine gives_after fun now => ?_
        split
        · rw [error_of_open ho.opened]
          exact gives_pure (ho.close_error _ _ _)
        · refine .bind (chainCommands_gives hr (ho.withDetail _) _) fun chain hfair => ?_
          cases chain with
          | ended o => exact gives_pure hfair
          | broken f => exact gives_pure trivial
          | going o =>
            have ho : Gathered o := hfair
            refine gives_after fun now => ?_
            rw [finish_of_open ho.opened]
            exact gives_pure (ho.close _ _)

-- ---------------------------------------------------------------------------
-- Actions
-- ---------------------------------------------------------------------------

variable {a : Action} {o child : Outcome}

theorem perform_gives (hr : r.Plain) (c : Context) (options : Entries) (ho : Gathered o) :
    Gives (a.perform r c options o) fun performed =>
      Gathered performed.1 ∧ performed.1.isDeletion = o.isDeletion ∧
        Yields (Honest false) performed.2 := by
  unfold perform
  split
  · refine gives_after fun result => ?_
    cases result with
    | error f => exact gives_pure ⟨ho, rfl, trivial⟩
    | ok command =>
      refine .bind (Stage.hand_gives hr command) fun result h => ?_
      refine gives_pure ⟨?_, ?_, h⟩
      · dsimp only
        exact ho.withDetail _
      · simp [isDeletion]
  · refine gives_after fun result => ?_
    cases result with
    | error f => exact gives_pure ⟨ho, rfl, trivial⟩
    | ok prepared =>
      refine .bind (configureAdmin_gives hr c _ _) fun result h => ?_
      refine gives_pure ⟨?_, ?_, h⟩
      · dsimp only
        exact ho.withDetail _
      · simp [isDeletion]

theorem ofRaised_fault_honest (f : Fault) (name : String) (kind : OutcomeKind) (now : Moment) :
    Honest false (Outcome.ofRaised (.fault f) name kind now) := by
  unfold Outcome.ofRaised
  dsimp only
  rw [error_of_open rfl]
  exact .leaf rfl (.inr rfl) (by simp [begin, blank, blame])

theorem received_gives {result : Except Raised Outcome} (h : Yields (Honest false) result) :
    Gives (a.received result : Play σ Outcome) (Honest false) := by
  cases result with
  | ok child => exact gives_pure h
  | error raised =>
    cases raised with
    | bubbled o => cases h
    | fault f =>
      refine gives_after fun _ => gives_after fun now => ?_
      exact gives_pure (ofRaised_fault_honest f _ _ now)

theorem downgrade_status (hs : child.status = .failure) (reason : String) (now : Moment) :
    (child.downgrade reason now).status = .warning := by
  unfold Outcome.downgrade
  dsimp only
  rw [attach_of_not_ends rfl (by simp [begin, blank, Policy.ends]), finish_of_open rfl]
  simp [settled, taking, holding, begin, blank, hs, Policy.leaves, Status.worse, Status.severity,
    Status.pending]

theorem downgrade_honest (h : Honest false child) (hs : child.status = .failure) (reason : String)
    (now : Moment) : Honest true (child.downgrade reason now) := by
  have hstatus := downgrade_status hs reason now
  revert hstatus
  unfold Outcome.downgrade
  dsimp only
  rw [attach_of_not_ends rfl (by simp [begin, blank, Policy.ends]), finish_of_open rfl]
  intro hstatus
  refine .downgraded rfl hstatus ?_ ?_ h
  · simp [begin, blank]
  · simp [begin, blank]

theorem classify_gives (options : Entries) (h : Honest false child) :
    Gives (a.classify options child : Play σ Outcome)
      (Honest (decide (a.work = .deleteScratchOrg))) := by
  unfold classify
  split
  · next hw =>
    refine gives_after fun now => ?_
    split
    · next warning hwarn =>
      refine gives_after fun _ => gives_pure ?_
      unfold absenceWarning? at hwarn
      split at hwarn
      · next hs =>
        cases hwarn
        simpa [hw] using downgrade_honest h hs.1 _ now
      · cases hwarn
    · exact gives_pure h.of_false
  · exact gives_pure h.of_false

theorem conclude_gives (ho : Gathered o) (h : Honest o.isDeletion child) :
    Gives (a.conclude o child : Play σ Outcome) (Honest false) := by
  intro s
  obtain ⟨reply, hfilled, heq⟩ := conclude_filled (a := a) ho.opened child s
  rw [heq]
  exact hfilled.honest ho (List.forall_mem_singleton.2 h)

/-- An action begins with an open outcome. If it is a deletion under its own name then that is
the outcome of a deletion. -/
theorem begun_gathered (c : Context) (options : Entries) (now : Moment) :
    Gathered (a.begun c options now) := .withDetail (.empty rfl rfl rfl rfl) _

theorem begun_isDeletion (ha : a = .ofName a.work) (hw : a.work = .deleteScratchOrg)
    (c : Context) (options : Entries) (now : Moment) :
    (a.begun c options now).isDeletion = true := by
  rw [ha, hw]
  simp [begun, isDeletion, begin, blank, ofName]

theorem runChecked_gives (hr : r.Plain) (ha : a = .ofName a.work) (c : Context)
    (options : Entries) : Gives (a.runChecked r c options) (Honest false) := by
  refine gives_after fun now => gives_after fun _ => ?_
  refine .bind (perform_gives hr c options (begun_gathered c options now)) fun performed h => ?_
  obtain ⟨ho, hd, hresult⟩ := h
  refine .bind (received_gives hresult) fun child hchild => ?_
  refine .bind (classify_gives options hchild) fun child hchild => conclude_gives ho ?_
  rw [hd]
  by_cases hw : a.work = .deleteScratchOrg
  · rw [begun_isDeletion ha hw]
    simpa [hw] using hchild
  · exact Honest.of_false (by simpa [hw] using hchild)

end Action

-- ---------------------------------------------------------------------------
-- Steps
-- ---------------------------------------------------------------------------

namespace Plan

variable {terms : Terms} {a : Action}

theorem taskOutcome_honest (hr : r.Plain) (ha : a = .ofName a.work) (t : Task) :
    Gives (taskOutcome r terms a t) (Honest false) := by
  have hcall : Gives (call r terms a t) fun result => ∀ o, result = .ok o → Honest false o := by
    unfold call
    split
    · unfold Action.rehearse
      split
      · exact gives_pure (by simp)
      · refine gives_after fun now => gives_pure ?_
        rintro _ ⟨⟩
        exact honest_succeed _ _ _ _
    · unfold Action.run
      split
      · exact gives_pure (by simp)
      · refine .bind (Action.runChecked_gives hr ha _ _) fun o h => gives_pure ?_
        rintro _ ⟨⟩
        exact h
  refine .bind hcall fun result h => ?_
  cases result with
  | ok o => exact gives_pure (h o rfl)
  | error f => exact gives_after fun now => gives_pure (Action.ofRaised_fault_honest f _ _ now)

end Plan

end Provision
