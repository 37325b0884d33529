import Provision.Installation
import Provision.Proofs.Plan.DemoLaws
import Provision.Proofs.Plan.Honest

/-!
# Executing a recipe

The run of an engine leaves a trace of what was attempted (`Engine.execute_trace`), and
its outcome is well exactly when every task was attempted and ended well. A recipe that
was compiled has an engine to run (`compile_ready`). What it answers with accounts for
what was attempted too (`execute_reported`): the tree of outcomes is truthful.
-/

namespace Provision

open Stage Watched Outcome Plan Interview

variable {σ π : Type}

-- ---------------------------------------------------------------------------
-- Runs of engines
-- ---------------------------------------------------------------------------

namespace Recipe

def Carries (result : Except Raised Outcome) (o : Outcome) : Prop :=
  result = .ok o ∨ result = .error (.bubbled o)

theorem carries_ok {o o' : Outcome} (h : Carries (.ok o) o') : o' = o := by
  obtain ⟨⟨⟩⟩ | ⟨⟨⟩⟩ := h
  rfl

theorem carries_bubbled {o o' : Outcome} (h : Carries (.error (.bubbled o)) o') : o' = o := by
  obtain ⟨⟨⟩⟩ | ⟨⟨⟩⟩ := h
  rfl

theorem carries_fault {o : Outcome} {f : Fault} (h : Carries (.error (.fault f)) o) : False := by
  obtain ⟨⟨⟩⟩ | ⟨⟨⟩⟩ := h

end Recipe

open Recipe (Carries carries_ok carries_bubbled carries_fault)

theorem Outcome.Filled.carried {o o' : Outcome} {cs : List Outcome} {reply : Reply}
    (h : o.Filled cs reply) (hc : Carries (reply.raised.elim (.ok reply.outcome) .error) o') :
    o' = reply.outcome := by
  rw [h.raised] at hc
  split at hc
  · exact carries_bubbled hc
  · exact carries_ok hc

namespace Plan

/-- What a run has attempted, whoever the runner is, and whether that was well. -/
structure Trace (runner : Runner σ) (terms : Terms) (tree : Tree) (s s' : Stage σ)
    (result : Except Raised Outcome) (as : List Attempt) : Prop where
  thread : Attempts runner terms s as s'
  start : Start Attempt.task (Attempt.stops terms.halt) tree.tasks as
  reach : ∀ o, Carries result o → Reach Attempt.task (Attempt.stops terms.halt) tree.tasks as
  ok_iff : ∀ o, Carries result o → (o.status.ok = true ↔ AllWell tree as)
  brokenOff : ∀ f, result = .error (.fault f) →
    ∃ event, s.objection event = some f ∧ Announced (Tree.names tree) as event

theorem Course.engine_ok_iff {e : Engine} {name : String} {st : Setting} {t : Recipe.Target}
    {choices : RunChoices} {now : Moment} {runner : Runner σ} {terms : Terms} {tree : Tree}
    {s s' : Stage σ} {rows : List Row} {reply : Reply} (h : Course runner terms tree s s' rows)
    (hf : (e.begun name st t choices now).Filled (Row.outcomes rows) reply) :
    reply.outcome.status.ok = true ↔ AllWell tree (attempted rows) :=
  h.ok_iff hf (Engine.begun_pending ..) (Engine.begun_policy ..)

theorem Engine.execute_trace {e : Engine} {tree : Tree} {st : Setting} {t : Recipe.Target}
    {d : Recipe.Document} (h : e.Ready tree st t d) (runner : Runner σ) (files : Files)
    (choices : RunChoices) (s : Stage σ) :
    ∃ as, Trace runner (e.terms st t files choices) tree s
      ((e.execute runner files choices).run s).2 ((e.execute runner files choices).run s).1.1 as := by
  obtain ⟨f, s', ⟨as, event, hrun, hstart, hobj, hann⟩, hexec⟩ |
    ⟨rows, reply, s', hcourse, hfilled, hexec⟩ := execute_course h runner files choices s
  · rw [hexec]
    refine ⟨as, hrun, hstart, ?_, ?_, ?_⟩
    · exact fun o ho => (carries_fault ho).elim
    · exact fun o ho => (carries_fault ho).elim
    · rintro _ ⟨⟩
      exact ⟨event, hobj, hann⟩
  · rw [hexec]
    have hreach := hcourse.reach_tasks
    refine ⟨attempted rows, hcourse.attempts, hreach.start, fun _ _ => hreach, ?_, ?_⟩
    · intro o ho
      rw [hfilled.carried ho, hcourse.engine_ok_iff hfilled]
    · intro f hf
      rw [hfilled.raised] at hf
      split at hf <;> cases hf

/-- What a run has attempted is all there is, if there is an action for every task and none ended
in error, unless the listener broke the run off. -/
theorem Trace.whole {runner : Runner σ} {terms : Terms} {tree : Tree} {s s' : Stage σ}
    {result : Except Raised Outcome} {as : List Attempt}
    (h : Trace runner terms tree s s' result as)
    (hknown : ∀ t ∈ tree.tasks, ∃ a, terms.registry.resolve t.action = .ok a)
    (hgood : ∀ a ∈ as, ∀ o, a.outcome = some o → o.status ≠ .error) :
    as.map (·.task) = tree.tasks ∨ ∃ f event, result = .error (.fault f) ∧
      s.objection event = some f ∧ Announced (Tree.names tree) as event := by
  have hgo : as.any (Attempt.stops terms.halt) = false := by
    rw [List.any_eq_false]
    intro a ha
    rw [Bool.not_eq_true, h.thread.stops_eq_false_iff a ha]
    exact ⟨hknown _ (h.start.isPrefix.subset (List.mem_map_of_mem ha)), fun _ => hgood a ha⟩
  have hwhole : ∀ o, Carries result o → as.map (·.task) = tree.tasks :=
    fun o ho => (h.reach o ho).map_eq hgo
  cases result with
  | ok o => exact .inl (hwhole o (.inl rfl))
  | error raised =>
    cases raised with
    | bubbled o => exact .inl (hwhole o (.inr rfl))
    | fault f =>
      obtain ⟨event, hobj, hann⟩ := h.brokenOff f rfl
      exact .inr ⟨f, event, rfl, hobj, hann⟩

end Plan

namespace Recipe

-- ---------------------------------------------------------------------------
-- Compiled recipes
-- ---------------------------------------------------------------------------

structure Ready (r : Recipe) (e : Engine) (tree : Tree) (st : Setting) (t : Target) : Prop where
  compiled : r.compiled = true
  engine : r.engine = some e
  ready : e.Ready tree st t r.document
  named : e.registry.Named
  legible : ∃ v, st.toValue = .ok v

variable {r : Recipe} {p : Option (Prompter π)} {choices : Choices} {asked : π} {e : Engine}

theorem compile_ready (h : (r.compile p choices asked).result = .ok e) :
    ∃ tree st t, (r.compile p choices asked).recipe.Ready e tree st t := by
  unfold compile at h ⊢
  cases hv : r.validated.truthy with
  | false => simp [hv] at h
  | true =>
    cases hk : hasEngine r.document.type with
    | false => simp [hv, hk] at h
    | true =>
      simp only [hv, hk, Bool.not_true, Bool.false_eq_true, if_false] at h ⊢
      cases hr : ((Engine.fresh demoType Plan.Demo.label).compile (Plan.Demo.make p) r.toSource
          choices asked).result with
      | error f => simp [hr] at h
      | ok _ =>
        simp only [hr] at h ⊢
        cases h
        obtain ⟨b, groups, sk, hb⟩ := Engine.compile_ok hr
        obtain ⟨t, hready⟩ := hb.ready
        obtain ⟨t', hbuilt, -, -⟩ := Plan.Demo.built_of_compiled hb
        refine ⟨_, _, t, rfl, rfl, hready, ?_, ?_⟩
        · rw [hb.engine]
          refine Registry.named_of_actions fun entry hentry => ?_
          obtain ⟨name, -, rfl⟩ := List.mem_map.1 (hbuilt.actions ▸ hentry)
          rfl
        · simp only [Setting.toValue, hbuilt.skipGroups, hbuilt.skipActions,
            Setting.items_ofStrings]
          exact ⟨_, rfl⟩

-- ---------------------------------------------------------------------------
-- Runs
-- ---------------------------------------------------------------------------

structure Reported (runner : Runner σ) (terms : Terms) (tree : Tree) (s s' : Stage σ)
    (as : List Attempt) (result : Except Raised Outcome) : Prop where
  thread : Attempts runner terms s as s'
  start : Start Attempt.task (Attempt.stops terms.halt) tree.tasks as
  /-- Only a listener that refuses an announcement breaks a run off. -/
  brokenOff : ∀ f, result = .error (.fault f) →
    ∃ e, s.objection e = some f ∧ Announced (Tree.names tree) as e
  raised : ∀ o, result = .error (.bubbled o) → o.status = .error
  truthful : ∀ o, Carries result o → o.Truthful
  ok_iff : ∀ o, Carries result o → (o.status.ok = true ↔ AllWell tree as)

variable {runner : Runner σ} {tree : Tree} {st : Setting} {t : Target}

theorem begun_gathered (r : Recipe) (now : Moment) : Gathered (r.begun now) :=
  .withDetail (.empty rfl rfl rfl rfl) _

theorem begun_pending (r : Recipe) (now : Moment) : (r.begun now).status.pending = true :=
  congrArg Status.pending (withDetail_status _)

theorem conclude_eq {o : Outcome} (ho : o.finalized = false) (engine : Outcome) (now : Moment) :
    ∃ reply : Reply, o.Filled [engine] reply ∧
      conclude o engine now = reply.raised.elim (.ok reply.outcome) .error := by
  unfold conclude
  cases he : o.policy.ends engine.status with
  | true =>
    refine ⟨_, .of_ends ho he now, ?_⟩
    rw [attach_of_ends ho he]
    rfl
  | false =>
    refine ⟨_, .cons he (.of_finish (o := o.taking [engine]) ho now), ?_⟩
    have ho' : (o.taking [engine]).finalized = false := ho
    rw [attach_of_not_ends ho he, finish_of_open ho']
    exact congrArg Except.ok (congrArg Reply.outcome (finish_of_open ho'))

def concluded (o : Outcome) (now : Moment) : Except Raised Outcome → Except Raised Outcome
  | .ok engine => conclude o engine now
  | .error (.bubbled engine) => conclude o engine now
  | .error (.fault f) => .error (.fault f)

/-- However an engine answers, the recipe takes in the outcome of its run. -/
theorem concluded_filled {o run : Outcome} {cs : List Outcome} {reply : Reply}
    (h : run.Filled cs reply) (now : Moment) :
    concluded o now (reply.raised.elim (.ok reply.outcome) .error) =
      conclude o reply.outcome now := by
  rw [h.raised]
  split <;> rfl

theorem execute_run (hc : r.compiled = true) (he : r.engine = some e) (files : Files)
    (choices : RunChoices) (s : Stage σ) :
    (r.execute runner files choices).run s =
      (concluded (r.begun s.now) ((e.execute runner files choices).run s).2.now
        ((e.execute runner files choices).run s).1.1, ((e.execute runner files choices).run s).2) := by
  unfold execute
  rw [hc, he]
  show StateT.run (_ >>= _) s = _
  rw [Play.run_bind, Play.run_bind]
  have hclock : (Stage.clock : Play σ Moment).run s = (s.now, s) := rfl
  have hrun : (e.run runner files choices).run s =
      (((e.execute runner files choices).run s).1.1, ((e.execute runner files choices).run s).2) :=
    rfl
  rw [hclock, hrun]
  obtain ⟨⟨result, e'⟩, s'⟩ := (e.execute runner files choices).run s
  cases result with
  | ok engine => rfl
  | error raised => cases raised <;> rfl

theorem execute_reported (hp : runner.Plain) (h : r.Ready e tree st t) (files : Files)
    (choices : RunChoices) (s : Stage σ) :
    ∃ as, Reported runner (e.terms st t files choices) tree s
      ((r.execute runner files choices).run s).2 as ((r.execute runner files choices).run s).1 := by
  rw [execute_run h.compiled h.engine]
  obtain ⟨f, s', ⟨as, event, hrun, hstart, hobj, hann⟩, hexec⟩ |
    ⟨rows, reply, s', hcourse, hfilled, hexec⟩ :=
      Engine.execute_course h.ready runner files choices s
  · rw [hexec]
    refine ⟨as, hrun, hstart, ?_, ?_, ?_, ?_⟩
    · rintro _ ⟨⟩
      exact ⟨event, hobj, hann⟩
    · rintro o ⟨⟩
    · exact fun o ho => (carries_fault ho).elim
    · exact fun o ho => (carries_fault ho).elim
  · rw [hexec]
    have hbegun := begun_gathered r s.now
    obtain ⟨whole, hwhole, hconclude⟩ := conclude_eq hbegun.opened reply.outcome s'.now
    rw [concluded_filled hfilled, hconclude]
    have hengine : Honest false reply.outcome := hfilled.honest (Engine.begun_gathered ..)
      fun c hc => (hcourse.outcomes_honest hp h.named c hc).of_false
    have hparts : ∀ c ∈ [reply.outcome], Honest (r.begun s.now).isDeletion c :=
      List.forall_mem_singleton.2 hengine.of_false
    have hok : whole.outcome.status.ok = true ↔ AllWell tree (attempted rows) := by
      rw [hwhole.ok_iff (begun_pending r s.now) hbegun.strict,
        forall_not_bad_iff (List.forall_mem_singleton.2 hengine.decided), List.forall_mem_singleton,
        hcourse.engine_ok_iff hfilled]
    have htrue : whole.outcome.Truthful := (hwhole.honest hbegun hparts).truthful
    refine ⟨attempted rows, ?_⟩
    obtain ha | ⟨ha, hs⟩ := hwhole.answered
    · rw [ha]
      refine ⟨hcourse.attempts, hcourse.reach_tasks.start, ?_, ?_, ?_, ?_⟩
      · rintro f ⟨⟩
      · rintro o ⟨⟩
      · exact fun o ho => carries_ok ho ▸ htrue
      · exact fun o ho => carries_ok ho ▸ hok
    · rw [ha]
      refine ⟨hcourse.attempts, hcourse.reach_tasks.start, ?_, ?_, ?_, ?_⟩
      · rintro f ⟨⟩
      · rintro o ⟨⟩
        exact hs
      · exact fun o ho => carries_bubbled ho ▸ htrue
      · exact fun o ho => carries_bubbled ho ▸ hok

end Recipe

end Provision
