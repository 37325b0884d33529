import Provision.Proofs.Plan.Compiled
import Provision.Proofs.Plan.Course
import Provision.Rehearsal.Runner

/-!
# Executing a plan

Which tasks of its tree an engine attempts, how the run ends, and what is left of it
in the outcome (`execute_attempts`). All of it follows from the course of the run.
-/

namespace Provision.Plan.Engine

open Stage Watched Outcome

variable {σ : Type} {e : Engine} {groups : Tree} {st : Setting} {t : Recipe.Target}
  {d : Recipe.Document}

def rested (e : Engine) (st : Setting) : Engine :=
  { e with setting := some { st with isExecuting := .bool false } }

section
variable (e : Engine) (name : String) (st : Setting) (t : Recipe.Target) (choices : RunChoices)
  (now : Moment)

theorem begun_finalized : (e.begun name st t choices now).finalized = false :=
  withDetail_finalized _
theorem begun_policy : (e.begun name st t choices now).policy = {} := withDetail_policy _
theorem begun_status : (e.begun name st t choices now).status = .waiting := withDetail_status _
theorem begun_pending : (e.begun name st t choices now).status.pending = true :=
  congrArg Status.pending (begun_status ..)
theorem begun_children : (e.begun name st t choices now).children = [] := withDetail_children _
theorem begun_kind : (e.begun name st t choices now).kind = .engine := withDetail_kind _

end

/-- What a run comes to once its groups have been run. -/
def concluded (e : Engine) (st : Setting) (d : Recipe.Document) :
    Except Fault Reply × Stage σ → (Except Raised Outcome × Engine) × Stage σ
  | (.error f, s) => ((.error (.fault f), e.rested st), s)
  | (.ok ⟨o, none⟩, s) => ((.ok o, e.rested st), s)
  | (.ok ⟨o, some raised⟩, s) =>
    ((.error raised, e.rested st),
      { s with records := s.records ++ [.error .engine s!"Recipe '{d.name}' halted: {o.message}"] })

theorem execute_run (h : e.Ready groups st t d) (r : Runner σ) (files : Files)
    (choices : RunChoices) (s : Stage σ) :
    (e.execute r files choices).run s = e.concluded st d
      ((runGroups r (e.terms st t files choices) (e.begun d.name st t choices s.now)
        groups).run.run s) := by
  have hm : (e.marked true).marked false = e.rested st := by
    simp [marked, rested, h.setting, Setting.write]
  unfold execute
  rw [h.tree, h.setting, h.document]
  simp only [Option.bind_some, h.target, hm]
  show StateT.run (_ >>= _) s = _
  rw [Play.run_bind, Play.run_bind]
  -- The clock leaves the stage as it is, and what a run goes by does not depend on the mark.
  have hc : (Stage.clock : Play σ Moment).run s = (s.now, s) := rfl
  have hs : (e.marked true).terms st t files choices = e.terms st t files choices := rfl
  rw [hc, hs]
  generalize (runGroups r (e.terms st t files choices) _ groups).run.run s = ran
  obtain ⟨result, s'⟩ := ran
  cases result with
  | error f => rfl
  | ok reply =>
    obtain ⟨o, raised⟩ := reply
    cases raised <;> rfl

theorem execute_unready (h : ¬∃ groups st t d, e.Ready groups st t d) (r : Runner σ) (files : Files)
    (choices : RunChoices) (s : Stage σ) :
    (e.execute r files choices).run s = ((.error (.fault e.uncompiled), e), s) := by
  unfold execute
  split
  · next groups st t d hg hs ht hd =>
    rw [hs] at ht
    exact absurd ⟨groups, st, t, d, hg, hs, ht, hd⟩ h
  · rfl

theorem Ready.rested (h : e.Ready groups st t d) :
    (e.rested st).Ready groups { st with isExecuting := .bool false } t d :=
  ⟨h.tree, rfl, h.target, h.document⟩

theorem execute_engine (h : e.Ready groups st t d) (r : Runner σ) (files : Files)
    (choices : RunChoices) (s : Stage σ) :
    ((e.execute r files choices).run s).1.2 = e.rested st := by
  rw [execute_run h]
  obtain ⟨result, s'⟩ := (runGroups r (e.terms st t files choices)
    (e.begun d.name st t choices s.now) groups).run.run s
  cases result with
  | error f => rfl
  | ok reply =>
    obtain ⟨o, raised⟩ := reply
    cases raised <;> rfl

theorem execute_again {τ : Type} (h : e.Ready groups st t d) (r : Runner σ) (files : Files)
    (choices : RunChoices) (s : Stage σ) (r' : Runner τ) (files' : Files) (choices' : RunChoices)
    (u : Stage τ) :
    (((e.execute r files choices).run s).1.2.execute r' files' choices').run u =
      (e.execute r' files' choices').run u := by
  rw [execute_engine h, execute_run h, execute_run h.rested]
  rfl

/-- Unless a listener breaks it off, a run takes its course and its outcome comes of that. -/
theorem execute_course (h : e.Ready groups st t d) (r : Runner σ) (files : Files)
    (choices : RunChoices) (s : Stage σ) :
    (∃ f s', CutOff r (e.terms st t files choices) (Tree.names groups) groups.tasks s f s' ∧
        (e.execute r files choices).run s = ((.error (.fault f), e.rested st), s')) ∨
      ∃ rows reply s', Course r (e.terms st t files choices) groups s s' rows ∧
        (e.begun d.name st t choices s.now).Filled (Row.outcomes rows) reply ∧
        (e.execute r files choices).run s =
          ((reply.raised.elim (.ok reply.outcome) .error, e.rested st), s') := by
  have hc := @runGroups_course _ r (e.terms st t files choices) groups _
    (begun_finalized e d.name st t choices s.now) (begun_policy ..) s
  rw [execute_run h]
  unfold Triple at hc
  cases hr : (runGroups r _ _ groups).run.run s with
  | mk result s' =>
    rw [hr] at hc
    cases result with
    | error f => exact .inl ⟨f, s', hc, rfl⟩
    | ok reply =>
      obtain ⟨-, rows, hcourse, hfilled⟩ := hc
      refine .inr ⟨rows, reply, ?_⟩
      obtain ⟨o, raised⟩ := reply
      cases raised with
      | none => exact ⟨s', hcourse, hfilled, rfl⟩
      | some raised => exact ⟨_, hcourse.noted _, hfilled, rfl⟩

-- ---------------------------------------------------------------------------
-- What is attempted, and what is left of it
-- ---------------------------------------------------------------------------

/-- What a run has attempted and what it answers with. `o` is the outcome of the run. -/
structure Account (r : Runner σ) (terms : Terms) (groups : Tree) (s s' : Stage σ)
    (result : Except Raised Outcome) (rows : List Row) (o : Outcome) : Prop where
  /-- The stage is what the attempts have made of it, one after the other. -/
  thread : Attempts r terms s (attempted rows) s'
  order : (attempted rows).map (·.task) <+: groups.tasks
  attempted_iff : ∀ i < groups.tasks.length, i < (attempted rows).length ↔
    ∀ j < i, ∃ a, (attempted rows)[j]? = some a ∧ a.Passed terms
  groupOrder : rows.map (·.group) <+: groups
  entered_iff : ∀ i < groups.length, i < rows.length ↔
    ∀ j < i, ∃ row, rows[j]? = some row ∧ ∀ a ∈ row.attempts, a.Passed terms
  raised : (∃ a ∈ attempted rows, ¬ a.Passed terms) →
    result = .error (.bubbled o) ∧ o.status = .error
  returned : (∀ a ∈ attempted rows, a.Passed terms) →
    result = .ok o ∧ o.status ≠ .error ∧ (attempted rows).map (·.task) = groups.tasks
  kind : o.kind = .engine
  finalized : o.finalized = true
  children : o.children = Row.outcomes rows
  group : ∀ row ∈ rows, row.outcome.name = s!"group:{row.group.aliasName}" ∧
    row.outcome.kind = .function ∧ row.outcome.finalized = true ∧
    row.outcome.children = Attempt.outcomes row.attempts ∧
    row.attempts.map (·.task) <+: row.group.tasks

theorem Account.of_course {r : Runner σ} {terms : Terms} {s s' : Stage σ} {rows : List Row}
    {run : Outcome} {reply : Reply} (hcourse : Course r terms groups s s' rows)
    (hfilled : run.Filled (Row.outcomes rows) reply) (hp : run.policy = {})
    (hs : run.status ≠ .error) (hk : run.kind = .engine) (hc : run.children = []) :
    Account r terms groups s s' (reply.raised.elim (.ok reply.outcome) .error) rows
      reply.outcome where
  thread := hcourse.attempts
  order := hcourse.reach_tasks.isPrefix
  attempted_iff i hi := by
    rw [hcourse.reach_tasks.lt_length_iff hi]
    refine forall₂_congr fun j _ => exists_congr fun a => and_congr_right fun ha => ?_
    exact hcourse.attempts.stops_eq_false_iff a (List.mem_of_getElem? ha)
  groupOrder := hcourse.reach.isPrefix
  entered_iff i hi := by
    rw [hcourse.reach.lt_length_iff hi]
    refine forall₂_congr fun j _ => exists_congr fun row => and_congr_right fun hrow => ?_
    exact hcourse.passed_iff row (List.mem_of_getElem? hrow)
  raised hn := by
    have hstop : rows.any (Row.stops terms.halt) = true := by
      refine eq_true_of_ne_false fun hgo => ?_
      obtain ⟨a, ha, hna⟩ := hn
      exact hna (hcourse.any_stops_eq_false_iff.1 hgo a ha)
    refine ⟨?_, ?_⟩
    · rw [hfilled.raised, hcourse.any_ends hp, hstop]
      rfl
    · rw [hfilled.status_eq_error_iff hs, hcourse.any_ends hp, hstop]
  returned hpass := by
    have hgo := hcourse.any_stops_eq_false_iff.2 hpass
    refine ⟨?_, ?_, ?_⟩
    · rw [hfilled.raised, hcourse.any_ends hp, hgo]
      rfl
    · rw [Ne, hfilled.status_eq_error_iff hs, hcourse.any_ends hp, hgo]
      simp
    · refine hcourse.reach_tasks.map_eq ?_
      rw [List.any_eq_false]
      intro a ha
      rw [(hcourse.attempts.stops_eq_false_iff a ha).2 (hpass a ha)]
      simp
  kind := hfilled.kind.trans hk
  finalized := hfilled.finalized
  children := by rw [hfilled.children, hc, List.nil_append]
  group row hrow := by
    have h := hcourse.ran row hrow
    exact ⟨h.name, h.kind, h.finalized, h.children, h.reach.isPrefix⟩

theorem Account.exists_group {r : Runner σ} {terms : Terms} {s s' : Stage σ}
    {result : Except Raised Outcome} {rows : List Row} {o c : Outcome} {a : Attempt}
    (h : Account r terms groups s s' result rows o) (ha : a ∈ attempted rows)
    (hc : a.outcome = some c) : ∃ g ∈ o.children, c ∈ g.children := by
  obtain ⟨row, hrow, ha⟩ := List.mem_flatMap.1 ha
  refine ⟨row.outcome, ?_, ?_⟩
  · rw [h.children]
    exact List.mem_map_of_mem hrow
  · obtain ⟨-, -, -, hparts, -⟩ := h.group row hrow
    rw [hparts]
    exact List.mem_filterMap.2 ⟨a, ha, hc⟩

/-- An engine attempts the tasks of its tree in order, each as long as every one before it
passed. If all pass it answers with an outcome, and else it raises one; either way that holds
the groups entered and in them the outcomes of what was attempted. The mark that a run is going
on is gone afterwards, also when the listener breaks the run off by refusing an event. -/
theorem execute_attempts (h : e.Ready groups st t d) (r : Runner σ) (files : Files)
    (choices : RunChoices) (s : Stage σ) :
    ((e.execute r files choices).run s).1.2 = e.rested st ∧
      ((∃ f, CutOff r (e.terms st t files choices) (Tree.names groups) groups.tasks s f
            ((e.execute r files choices).run s).2 ∧
          ((e.execute r files choices).run s).1.1 = .error (.fault f)) ∨
        ∃ rows o, Account r (e.terms st t files choices) groups s
          ((e.execute r files choices).run s).2 ((e.execute r files choices).run s).1.1 rows o) := by
  obtain ⟨f, s', hf, hrun⟩ | ⟨rows, reply, s', hcourse, hfilled, hrun⟩ :=
    execute_course h r files choices s
  · rw [hrun]
    exact ⟨rfl, .inl ⟨f, hf, rfl⟩⟩
  · rw [hrun]
    refine ⟨rfl, .inr ⟨rows, reply.outcome, ?_⟩⟩
    exact .of_course hcourse hfilled (begun_policy ..) (by simp [begun_status]) (begun_kind ..)
      (begun_children ..)

def strayTasks : Tree :=
  [⟨"Set up", "set-up", "", [
    ⟨"Delete", "", "delete-scratch-org", [("scratchOrgAlias", .str "demo")]⟩,
    ⟨"Rest", "", "rest", []⟩]⟩]

def straySetting : Setting := { project := default, choices := {}, target := some default }

/-- An engine with one action, and a tree whose second task calls another. -/
def stray : Engine :=
  { Engine.fresh "stray" "StrayEngine" with
    document := some default
    setting := some straySetting
    registry := ⟨"stray", [(.deleteScratchOrg, .ofName .deleteScratchOrg)]⟩
    tree := some strayTasks }

def strayed : (Except Raised Outcome × Engine) × Stage (List Command) :=
  (stray.execute ({} : Rehearsal).toRunner default {}).run (.opened [] .zero)

def StrayAccount (rows : List Row) (o : Outcome) : Prop :=
  Account ({} : Rehearsal).toRunner (stray.terms straySetting default default {}) strayTasks
    (.opened [] .zero) strayed.2 strayed.1.1 rows o

theorem strayed_result : ∃ o, strayed.1.1 = .error (.bubbled o) ∧
    ∀ g ∈ o.children, ∀ c ∈ g.children, c.status = .success :=
  ⟨_, rfl, by decide +kernel⟩

theorem StrayAccount.unresolved {rows : List Row} {o : Outcome} (h : StrayAccount rows o) :
    strayed.1.1 = .error (.bubbled o) ∧
      ∃ a ∈ attempted rows, ¬∃ action, stray.registry.resolve a.task.action = .ok action := by
  obtain ⟨o', hraised, hsuccess⟩ := strayed_result
  have hfailed : ∃ a ∈ attempted rows,
      ¬a.Passed (stray.terms straySetting default default {}) := by
    refine Classical.byContradiction fun hn => ?_
    obtain ⟨hok, -⟩ := h.returned fun a ha => Classical.byContradiction fun hp => hn ⟨a, ha, hp⟩
    rw [hraised] at hok
    cases hok
  obtain ⟨hbubbled, -⟩ := h.raised hfailed
  obtain ⟨a, ha, hnot⟩ := hfailed
  cases hraised.symm.trans hbubbled
  refine ⟨hbubbled, a, ha, fun hknown => hnot ⟨hknown, fun _ c hc herror => ?_⟩⟩
  -- All that was run went well.
  obtain ⟨g, hg, hmem⟩ := h.exists_group ha hc
  rw [hsuccess g hg c hmem] at herror
  cases herror

theorem stray_attempts :
    stray.Ready strayTasks straySetting default default ∧
    strayed.1.2 = stray.rested straySetting ∧
      ∃ rows o, StrayAccount rows o ∧ strayed.1.1 = .error (.bubbled o) ∧
        ∃ a ∈ attempted rows, ¬∃ action, stray.registry.resolve a.task.action = .ok action := by
  have hready : stray.Ready strayTasks straySetting default default := ⟨rfl, rfl, rfl, rfl⟩
  obtain ⟨hrested, ⟨f, -, hf⟩ | ⟨rows, o, haccount⟩⟩ :=
    execute_attempts hready ({} : Rehearsal).toRunner default {} (.opened [] .zero)
  · obtain ⟨o, ho, -⟩ := strayed_result
    cases ho.symm.trans hf
  · exact ⟨hready, hrested, rows, o, haccount, StrayAccount.unresolved haccount⟩

end Provision.Plan.Engine
