import Provision.Proofs.Outcome.Pending

/-!
# The life of an outcome

Whatever is done to an outcome, it is either open and has no end, with a status that parts leave to
a container, or it has been begun and ended, with a status that decides (`Sound`). So the mark by
which changes are refused goes with the end, although the two are set apart. The first change that
ends an outcome is the only one that does (`Sound.ended_after`): every later one is refused. A
change that bubbles hands over the outcome that it leaves behind, which is in error
(`raised_bubbled_iff`).
-/

namespace Provision

theorem Status.mem_of_decided {s : Status} (h : s.decided = true) :
    s ∈ [success, warning, failure, error] := by
  revert h
  cases s <;> decide

theorem Status.mem_of_left {s : Status} (h : s.left = true) :
    s ∈ [initialized, waiting, warning, failure] := by
  revert h
  cases s <;> decide

namespace Outcome

/-- The outcomes there are: new ones, those of a fault that was raised, and what changes leave of
them, be they refused or not. Whatever bubbled is an outcome already. -/
inductive Reached : Outcome → Prop
  | blank (name : String) (kind : OutcomeKind) (policy : Policy) :
      Reached (blank name kind policy)
  | begun (name : String) (kind : OutcomeKind) (policy : Policy) (now : Moment) :
      Reached (begin name kind policy now)
  | wrapped (f : Fault) (name : String) (kind : OutcomeKind) (now : Moment) :
      Reached (ofRaised (.fault f) name kind now)
  | changed {o : Outcome} (h : Reached o) (c : Change) (now : Moment) :
      Reached (c.on o now).outcome

/-- The clock was read when the outcome was begun. -/
def Clocked (o : Outcome) : Prop := o.clockStart.isSome = o.started.isSome

structure Sound (o : Outcome) : Prop where
  clocked : o.Clocked
  opened : o.finalized = false → o.ended = none ∧ o.status.left = true
  closed : o.finalized = true →
    o.started.isSome = true ∧ o.ended.isSome = true ∧ o.status.decided = true

namespace Change

def ends (p : Policy) : Change → Bool
  | .attach part => p.ends part.status
  | c => c.finalizes

def bubbles (p : Policy) : Change → Bool
  | .attach part => p.ends part.status
  | .raise _ => true
  | _ => false

end Change

variable {o whole : Outcome} {c : Change} {now : Moment} {f : Fault} {r : Reply}
  {row : List (Change × Moment)} {s : Status} {v : Value}

theorem withDetail_clocked : (o.withDetail v).Clocked ↔ o.Clocked := by simp [Clocked]

theorem blame_clocked {b : Blame} : (o.blame b).Clocked ↔ o.Clocked := by simp [Clocked]

theorem Clocked.close_started (h : o.Clocked) : (o.close s v now).started.isSome = true := by
  unfold close
  dsimp only
  rw [withDetail_clockStart, withDetail_started]
  cases hs : o.clockStart.isSome with
  | true => exact h.symm.trans hs
  | false => rfl

theorem Clocked.close (h : o.Clocked) : (o.close s v now).Clocked := by
  rw [Clocked, h.close_started]
  rfl

-- ---------------------------------------------------------------------------
-- One change
-- ---------------------------------------------------------------------------

/-- What a change does to an open outcome. -/
inductive Turn (o : Outcome) (c : Change) (now : Moment) : Reply → Prop
  | stays {o' : Outcome} (hc : c.ends o.policy = false) (hb : c.bubbles o.policy = false)
      (hp : o'.policy = o.policy) (ho : o'.finalized = false) (he : o'.ended = o.ended)
      (hclock : o.Clocked → o'.Clocked) (hs : o.status.left = true → o'.status.left = true) :
      Turn o c now ⟨o', none⟩
  | closes {before : Outcome} {s : Status} {v : Value} (hc : c.ends o.policy = true)
      (hb : c.bubbles o.policy = false) (hp : before.policy = o.policy)
      (hclock : o.Clocked → before.Clocked) (hs : o.status.left = true → s.decided = true) :
      Turn o c now ⟨before.close s v now, none⟩
  | breaks {before : Outcome} {v : Value} (hc : c.ends o.policy = true)
      (hb : c.bubbles o.policy = true) (hp : before.policy = o.policy)
      (hclock : o.Clocked → before.Clocked) :
      Turn o c now ⟨before.close .error v now, some (.bubbled (before.close .error v now))⟩

theorem on_turn (ho : o.finalized = false) (c : Change) (now : Moment) :
    Turn o c now (c.on o now) := by
  cases c with
  | start =>
    rw [Change.on, start_of_open ho]
    exact .stays rfl rfl rfl ho rfl (fun _ => rfl) fun _ => rfl
  | setDetail detail =>
    rw [Change.on, setDetail_of_open ho]
    exact .stays rfl rfl (by simp) (by simpa using ho) (by simp) withDetail_clocked.2 (by simp)
  | attach part =>
    cases he : o.policy.ends part.status with
    | true =>
      rw [Change.on, attach_of_ends ho he]
      have hclock : o.Clocked → ((o.holding [part]).blame part.asBlame).Clocked :=
        fun h => blame_clocked.2 h
      exact .breaks he he (by simp [holding]) hclock
    | false =>
      rw [Change.on, attach_of_not_ends ho he]
      exact .stays he he rfl ho rfl id fun hs => taking_left hs [part]
  | finish detail =>
    rw [Change.on, finish_of_open ho]
    exact .closes rfl rfl rfl id settled_decided
  | succeed detail =>
    rw [Change.on, succeed_of_open ho]
    exact .closes rfl rfl rfl id fun _ => rfl
  | warn detail =>
    rw [Change.on, Outcome.warn, finalize_of_open ho]
    exact .closes rfl rfl rfl id fun _ => rfl
  | fail why detail =>
    rw [Change.on, fail_of_open ho]
    exact .closes rfl rfl (blame_policy why) blame_clocked.2 fun _ => rfl
  | error why detail =>
    rw [Change.on, error_of_open ho]
    exact .closes rfl rfl (blame_policy why) blame_clocked.2 fun _ => rfl
  | raise why =>
    rw [Change.on, Outcome.raise, error_of_open ho]
    exact .breaks rfl rfl (blame_policy why) blame_clocked.2

namespace Turn

theorem policy (h : Turn o c now r) : r.outcome.policy = o.policy := by
  cases h with
  | stays _ _ hp => exact hp
  | closes _ _ hp => exact (withDetail_policy _).trans hp
  | breaks _ _ hp => exact (withDetail_policy _).trans hp

theorem ended (h : Turn o c now r) :
    r.outcome.ended = if c.ends o.policy then some now else o.ended := by
  cases h with
  | stays hc _ _ _ he => simp [hc, he]
  | closes hc => simp [hc, close]
  | breaks hc => simp [hc, close]

theorem sound (h : Turn o c now r) (hclock : o.Clocked) (he : o.ended = none)
    (hs : o.status.left = true) : r.outcome.Sound := by
  cases h with
  | stays _ _ _ ho hkept hclocked hleft =>
    exact ⟨hclocked hclock, fun _ => ⟨hkept.trans he, hleft hs⟩,
      fun hn => absurd (ho.symm.trans hn) nofun⟩
  | closes _ _ _ hclocked hdecided =>
    have hbefore := hclocked hclock
    exact ⟨hbefore.close, nofun, fun _ => ⟨hbefore.close_started, rfl, hdecided hs⟩⟩
  | breaks _ _ _ hclocked =>
    have hbefore := hclocked hclock
    exact ⟨hbefore.close, nofun, fun _ => ⟨hbefore.close_started, rfl, rfl⟩⟩

theorem raised (h : Turn o c now r) :
    r.raised = if c.bubbles o.policy then some (.bubbled r.outcome) else none := by
  cases h with
  | stays _ hb => simp [hb]
  | closes _ hb => simp [hb]
  | breaks _ hb => simp [hb]

theorem error (h : Turn o c now r) (hb : c.bubbles o.policy = true) :
    r.outcome.finalized = true ∧ r.outcome.status = .error := by
  cases h with
  | stays _ hn => simp [hn] at hb
  | closes _ hn => simp [hn] at hb
  | breaks => exact ⟨rfl, rfl⟩

end Turn

theorem on_policy (o : Outcome) (c : Change) (now : Moment) :
    (c.on o now).outcome.policy = o.policy := by
  cases ho : o.finalized with
  | true => rw [on_of_finalized ho, blame_policy]
  | false => exact (on_turn ho c now).policy

namespace Sound

theorem finalized_iff (h : o.Sound) : o.finalized = true ↔ o.ended.isSome = true := by
  cases ho : o.finalized with
  | true => exact iff_of_true rfl (h.closed ho).2.1
  | false =>
    rw [(h.opened ho).1]
    exact iff_of_false nofun nofun

theorem on (h : o.Sound) (c : Change) (now : Moment) : (c.on o now).outcome.Sound := by
  cases ho : o.finalized with
  | true =>
    rw [on_of_finalized ho]
    refine ⟨blame_clocked.2 h.clocked, fun hn => ?_, fun _ => by simpa using h.closed ho⟩
    rw [blame_finalized, ho] at hn
    cases hn
  | false =>
    obtain ⟨he, hs⟩ := h.opened ho
    exact (on_turn ho c now).sound h.clocked he hs

/-- An end that is set stays, and one that is not is set by a change that ends the outcome. -/
theorem on_ended (h : o.Sound) (c : Change) (now : Moment) :
    (c.on o now).outcome.ended = o.ended.or (if c.ends o.policy then some now else none) := by
  cases ho : o.finalized with
  | true =>
    obtain ⟨m, hm⟩ := Option.isSome_iff_exists.1 (h.closed ho).2.1
    rw [on_of_finalized ho, blame_ended, hm, Option.some_or]
  | false => rw [(on_turn ho c now).ended, (h.opened ho).1, Option.none_or]

end Sound

/-- A change is refused by what has ended, and by nothing else. -/
theorem raised_fault_iff : (c.on o now).raised = some (.fault f) ↔
    o.finalized = true ∧ f = o.finalizedFault := by
  cases ho : o.finalized with
  | true => simp [on_of_finalized ho, eq_comm]
  | false => simp [(on_turn ho c now).raised]

/-- What bubbles is the outcome itself, as the change leaves it. -/
theorem raised_bubbled_iff : (c.on o now).raised = some (.bubbled whole) ↔
    o.finalized = false ∧ c.bubbles o.policy = true ∧ whole = (c.on o now).outcome := by
  cases ho : o.finalized with
  | true => simp [on_of_finalized ho]
  | false =>
    rw [(on_turn ho c now).raised]
    cases c.bubbles o.policy with
    | true => simpa using eq_comm
    | false => simp

theorem bubbled_error (h : (c.on o now).raised = some (.bubbled whole)) :
    whole.finalized = true ∧ whole.status = .error := by
  obtain ⟨ho, hb, rfl⟩ := raised_bubbled_iff.1 h
  exact (on_turn ho c now).error hb

-- ---------------------------------------------------------------------------
-- A row of changes
-- ---------------------------------------------------------------------------

/-- The end of an outcome is the moment of the first change that ends it. -/
theorem Sound.ended_after (h : o.Sound) (row : List (Change × Moment)) :
    (o.after row).ended =
      o.ended.or ((row.find? fun step => step.1.ends o.policy).map (·.2)) := by
  induction row generalizing o with
  | nil => simp [after]
  | cons step row ih =>
    obtain ⟨c, now⟩ := step
    rw [after, ih (h.on c now), h.on_ended, on_policy, List.find?_cons, Option.or_assoc]
    cases c.ends o.policy <;> rfl

theorem after_of_finalized (ho : o.finalized = true) (row : List (Change × Moment)) :
    (o.after row).finalized = true ∧ (o.after row).status = o.status ∧
      (o.after row).ended = o.ended := by
  induction row generalizing o with
  | nil => exact ⟨ho, rfl, rfl⟩
  | cons step row ih =>
    have hb : (o.blame step.1.why).finalized = true := by simpa using ho
    rw [after, on_of_finalized ho]
    simpa using ih hb

theorem Reached.sound (h : Reached o) : o.Sound := by
  have hbegun (name kind policy now) : (begin name kind policy now).Sound :=
    ⟨rfl, fun _ => ⟨rfl, rfl⟩, nofun⟩
  induction h with
  | blank => exact ⟨rfl, fun _ => ⟨rfl, rfl⟩, nofun⟩
  | begun name kind policy now => exact hbegun name kind policy now
  | wrapped f name kind now => exact (hbegun name kind {} now).on (.error (.fault f) _) now
  | changed _ c now ih => exact ih.on c now

/-- What has ended has been begun, its status decides, and neither that nor its end ever changes;
what has not has a status that parts leave. An outcome has an end once a change that ends it has
been made, the moment of the first such change, and from then on every change is refused. A
change bubbles when it is a raise or attaches a part that ends an open outcome, and hands over the
outcome it was made to, which it has ended in error. -/
theorem lifecycle (h : Reached o) :
    ((o.finalized = true ↔ o.ended.isSome = true) ∧
      (∀ c now f, (Change.on c o now).raised = some (.fault f) ↔
        o.ended.isSome = true ∧ f = o.finalizedFault) ∧
      ∀ row, (o.after row).ended =
        o.ended.or ((row.find? fun step => step.1.ends o.policy).map (·.2))) ∧
    (o.finalized = true → o.started.isSome = true ∧
      o.status ∈ [Status.success, .warning, .failure, .error]) ∧
    (o.finalized = false → o.status ∈ [Status.initialized, .waiting, .warning, .failure]) ∧
    (o.finalized = true → ∀ row, (o.after row).finalized = true ∧
      (o.after row).status = o.status ∧ (o.after row).ended = o.ended) ∧
    ∀ c now whole, ((Change.on c o now).raised = some (.bubbled whole) ↔
        o.finalized = false ∧ c.bubbles o.policy = true ∧ whole = (c.on o now).outcome) ∧
      ((c.on o now).raised = some (.bubbled whole) →
        whole.finalized = true ∧ whole.status = .error) := by
  have hs := h.sound
  refine ⟨⟨hs.finalized_iff, fun c now f => ?_, hs.ended_after⟩, fun ho => ?_, fun ho => ?_,
    after_of_finalized, fun c now whole => ⟨raised_bubbled_iff, bubbled_error⟩⟩
  · rw [← hs.finalized_iff]
    exact raised_fault_iff
  · obtain ⟨hstarted, -, hstatus⟩ := hs.closed ho
    exact ⟨hstarted, Status.mem_of_decided hstatus⟩
  · exact Status.mem_of_left (hs.opened ho).2

/-- An outcome that is raised before it was begun, and after it has taken in a warning. -/
def abandoned : Outcome :=
  (blank "whole" .engine {}).after
    [(.attach warned, .zero), (.raise (.value (.str "stop")), .zero)]

theorem abandoned_reached : Reached abandoned :=
  .changed (.changed (.blank "whole" .engine {}) (.attach warned) .zero)
    (.raise (.value (.str "stop"))) .zero

theorem abandoned_lifecycle :
    Reached abandoned ∧ abandoned.finalized = true ∧ abandoned.ended.isSome = true ∧
    abandoned.started.isSome = true ∧
    abandoned.status ∈ [Status.success, .warning, .failure, .error] ∧
    (∀ row, (abandoned.after row).finalized = true ∧
      (abandoned.after row).status = abandoned.status ∧
      (abandoned.after row).ended = abandoned.ended) ∧
    (∀ c now f, (Change.on c abandoned now).raised = some (.fault f) ↔
      abandoned.ended.isSome = true ∧ f = abandoned.finalizedFault) := by
  obtain ⟨⟨hmark, hrefused, -⟩, hclosed, -, hstays, -⟩ := lifecycle abandoned_reached
  obtain ⟨hstarted, hstatus⟩ := hclosed rfl
  exact ⟨abandoned_reached, rfl, hmark.1 rfl, hstarted, hstatus, hstays rfl, hrefused⟩

end Outcome

end Provision
