import Provision.Proofs.OutcomeLaws
import Provision.Proofs.RunLaws

/-!
# Attempts

A run goes through the tasks of its tree in order and attempts each in turn
(`Attempts`), as far as the first attempt that stops it (`Reach`). What it has
attempted is laid out in rows, one for each group that it entered (`Row.Ran`).
-/

namespace Provision.Plan

open Stage Watched Outcome

variable {σ : Type} {r : Runner σ} {terms : Terms}

-- ---------------------------------------------------------------------------
-- As far as a run gets
-- ---------------------------------------------------------------------------

section
variable {α β : Type} {of : β → α} {stops : β → Bool}

/-- What comes of going through a list in order, up to and including the first that stops. -/
inductive Reach (of : β → α) (stops : β → Bool) : List α → List β → Prop
  | done : Reach of stops [] []
  | stop {b : β} {as : List α} (h : stops b = true) : Reach of stops (of b :: as) [b]
  | next {b : β} {as : List α} {bs : List β} (h : stops b = false) (hr : Reach of stops as bs) :
      Reach of stops (of b :: as) (b :: bs)

/-- What comes of going through a list in order and giving up at some place. Nothing but the last
may stop. -/
inductive Start (of : β → α) (stops : β → Bool) : List α → List β → Prop
  | none {as : List α} : Start of stops as []
  | last {b : β} {as : List α} : Start of stops (of b :: as) [b]
  | next {b : β} {as : List α} {bs : List β} (h : stops b = false) (hr : Start of stops as bs) :
      Start of stops (of b :: as) (b :: bs)

namespace Start

variable {as more : List α} {bs cs : List β}

theorem isPrefix (h : Start of stops as bs) : bs.map of <+: as := by
  induction h with
  | none => exact List.nil_prefix
  | last => exact (List.prefix_cons_inj _).2 List.nil_prefix
  | next _ _ ih => exact (List.prefix_cons_inj _).2 ih

theorem append_left (h : Start of stops as bs) (more : List α) : Start of stops (as ++ more) bs := by
  induction h with
  | none => exact .none
  | last => exact .last
  | next h _ ih => exact .next h ih

theorem after (hs : cs.any stops = false) (h : Start of stops as bs) :
    Start of stops (cs.map of ++ as) (cs ++ bs) := by
  induction cs with
  | nil => exact h
  | cons c cs ih =>
    rw [List.any_cons, Bool.or_eq_false_iff] at hs
    exact .next hs.1 (ih hs.2)

theorem getElem? (h : Start of stops as bs) {k : Nat} {b : β} (hb : bs[k]? = some b) :
    as[k]? = some (of b) := by
  obtain ⟨rest, rfl⟩ := h.isPrefix
  obtain ⟨hk, rfl⟩ := List.getElem?_eq_some_iff.1 hb
  simp [List.getElem?_append_left, hk]

theorem length_le (h : Start of stops as bs) {k : Nat}
    (hk : ∀ b, bs[k]? = some b → stops b = true) : bs.length ≤ k + 1 := by
  induction h generalizing k with
  | none => simp
  | last => simp
  | @next b as bs hb _ ih =>
    cases k with
    | zero => simp [hk b rfl] at hb
    | succ k => simpa using ih fun b' hb' => hk b' (by simpa using hb')

end Start

namespace Reach

variable {as : List α} {bs : List β}

theorem start (h : Reach of stops as bs) : Start of stops as bs := by
  induction h with
  | done => exact .none
  | stop _ => exact .last
  | next h _ ih => exact .next h ih

theorem isPrefix (h : Reach of stops as bs) : bs.map of <+: as := h.start.isPrefix

theorem map_eq (h : Reach of stops as bs) (hs : bs.any stops = false) : bs.map of = as := by
  induction h with
  | done => rfl
  | stop h => simp [h] at hs
  | next _ _ ih =>
    rw [List.any_cons, Bool.or_eq_false_iff] at hs
    rw [List.map_cons, ih hs.2]

/-- A place is reached exactly when nothing before it stops. -/
theorem lt_length_iff (h : Reach of stops as bs) {i : Nat} (hi : i < as.length) :
    i < bs.length ↔ ∀ j < i, ∃ b, bs[j]? = some b ∧ stops b = false := by
  induction h generalizing i with
  | done => simp at hi
  | @stop b as h =>
    cases i with
    | zero => simp
    | succ i =>
      constructor
      · intro hl
        simp at hl
      · intro hall
        obtain ⟨b', hb, hs⟩ := hall 0 (by omega)
        cases hb
        exact absurd hs (by simp [h])
  | @next b as bs h hr ih =>
    cases i with
    | zero => simp
    | succ i =>
      rw [List.length_cons, Nat.add_lt_add_iff_right, ih (by simpa using hi)]
      constructor
      · intro hall j hj
        cases j with
        | zero => exact ⟨b, rfl, h⟩
        | succ j => simpa using hall j (by omega)
      · intro hall j hj
        simpa using hall (j + 1) (by omega)

theorem stopped (h : Reach of stops as bs) {k : Nat} (hlt : k < as.length)
    (hk : ∀ b, bs[k]? = some b → stops b = true) :
    ∃ j ≤ k, ∃ b, bs[j]? = some b ∧ stops b = true ∧ bs.length = j + 1 := by
  induction h generalizing k with
  | done => simp at hlt
  | @stop b as hb => exact ⟨0, by simp, b, rfl, hb, rfl⟩
  | @next b as bs hb _ ih =>
    cases k with
    | zero => simp [hk b rfl] at hb
    | succ k =>
      obtain ⟨j, hj, b', hb', hs, hlen⟩ :=
        ih (by simpa using hlt) fun b' hb' => hk b' (by simpa using hb')
      exact ⟨j + 1, by omega, b', by simpa using hb', hs, by simp [hlen]⟩

theorem append {as' : List α} {bs' : List β} (h : Reach of stops as bs)
    (hs : bs.any stops = false) (h' : Reach of stops as' bs') :
    Reach of stops (as ++ as') (bs ++ bs') := by
  induction h with
  | done => exact h'
  | stop h => simp [h] at hs
  | next h _ ih =>
    rw [List.any_cons, Bool.or_eq_false_iff] at hs
    exact .next h (ih hs.2)

theorem append_of_stops (h : Reach of stops as bs) (hs : bs.any stops = true) (as' : List α) :
    Reach of stops (as ++ as') bs := by
  induction h with
  | done => simp at hs
  | stop h => exact .stop h
  | next h _ ih =>
    rw [List.any_cons, h, Bool.false_or] at hs
    exact .next h (ih hs)

end Reach

end

-- ---------------------------------------------------------------------------
-- Attempts
-- ---------------------------------------------------------------------------

/-- A task and how it ended. A task whose action is not registered has no outcome. -/
structure Attempt where
  task : Task
  outcome : Option Outcome

namespace Attempt

/-- Whether a run goes no further: for want of an action, or on an error that is to halt it. -/
def stops (halt : Bool) (a : Attempt) : Bool :=
  match a.outcome with
  | none => true
  | some o => halt && o.status = .error

/-- The run goes on after this: the action is registered, and if errors are to halt the run
then it did not end in one. -/
def Passed (terms : Terms) (a : Attempt) : Prop :=
  (∃ action, terms.registry.resolve a.task.action = .ok action) ∧
    (terms.halt = true → ∀ o, a.outcome = some o → o.status ≠ .error)

/-- The action is registered, and what came of it is a success or a warning. -/
def Well (a : Attempt) : Prop := ∃ o, a.outcome = some o ∧ o.status.ok = true

theorem not_well {t : Task} {o : Outcome} (h : o.status.ok = false) : ¬Well ⟨t, some o⟩ := by
  rintro ⟨_, ⟨⟩, hok⟩
  simp [h] at hok

theorem not_well_none {t : Task} : ¬Well ⟨t, none⟩ := by
  rintro ⟨_, ⟨⟩, _⟩

def outcomes (as : List Attempt) : List Outcome := as.filterMap (·.outcome)

end Attempt

/-- Attempts one after the other. In between events and records may be added, and nothing
happens for a task whose action is not registered. -/
inductive Attempts (r : Runner σ) (terms : Terms) : Stage σ → List Attempt → Stage σ → Prop
  | none {s s' : Stage σ} (h : Quiet s s') : Attempts r terms s [] s'
  | unknown {s s' u : Stage σ} {t : Task} {f : Fault} {as : List Attempt} (hq : Quiet s s')
      (hf : terms.registry.resolve t.action = .error f) (h : Attempts r terms s' as u) :
      Attempts r terms s (⟨t, .none⟩ :: as) u
  | known {s s' s'' u : Stage σ} {t : Task} {a : Action} {o : Outcome} {as : List Attempt}
      (hq : Quiet s s') (ha : terms.registry.resolve t.action = .ok a)
      (ho : (taskOutcome r terms a t).run s' = (o, s'')) (h : Attempts r terms s'' as u) :
      Attempts r terms s (⟨t, some o⟩ :: as) u

namespace Attempts

variable {s s' u : Stage σ} {as bs : List Attempt}

theorem quiet_left (hq : Quiet s s') (h : Attempts r terms s' as u) : Attempts r terms s as u := by
  cases h with
  | none h => exact .none (hq.trans h)
  | unknown hq' hf h => exact .unknown (hq.trans hq') hf h
  | known hq' ha ho h => exact .known (hq.trans hq') ha ho h

theorem append (h : Attempts r terms s as s') (h' : Attempts r terms s' bs u) :
    Attempts r terms s (as ++ bs) u := by
  induction h with
  | none hq => exact h'.quiet_left hq
  | unknown hq hf _ ih => exact .unknown hq hf (ih h')
  | known hq ha ho _ ih => exact .known hq ha ho (ih h')

theorem quiet_right (h : Attempts r terms s as s') (hq : Quiet s' u) : Attempts r terms s as u := by
  simpa using h.append (.none hq)

theorem stops_eq_false_iff (h : Attempts r terms s as u) :
    ∀ a ∈ as, a.stops terms.halt = false ↔ a.Passed terms := by
  induction h with
  | none _ => simp
  | unknown _ hf _ ih =>
    rintro a (_ | ⟨_, hm⟩)
    · simp [Attempt.stops, Attempt.Passed, hf]
    · exact ih a hm
  | known _ ha _ _ ih =>
    rintro a (_ | ⟨_, hm⟩)
    · simp [Attempt.stops, Attempt.Passed, ha]
    · exact ih a hm

end Attempts

-- ---------------------------------------------------------------------------
-- Groups
-- ---------------------------------------------------------------------------

inductive GroupEnded (terms : Terms) (group : Outcome) : List Attempt → Outcome → Prop
  | filled {as : List Attempt} {reply : Outcome.Reply} (hk : ∀ a ∈ as, a.outcome.isSome = true)
      (h : Outcome.Filled group (Attempt.outcomes as) reply) :
      GroupEnded terms group as reply.outcome
  | unknown {as : List Attempt} {t : Task} {f : Fault} (hk : ∀ a ∈ as, a.outcome.isSome = true)
      (h : ∀ c ∈ Attempt.outcomes as, group.policy.ends c.status = false)
      (hf : terms.registry.resolve t.action = .error f) (now : Moment) :
      GroupEnded terms group (as ++ [⟨t, none⟩])
        (((group.taking (Attempt.outcomes as)).blame (.fault f)).close .error .null now)

/-- A group that was entered, what was attempted in it, and how it ended. -/
structure Row where
  group : TaskGroup
  attempts : List Attempt
  outcome : Outcome

def attempted (rows : List Row) : List Attempt := rows.flatMap (·.attempts)

namespace Row

def stops (halt : Bool) (row : Row) : Bool := row.attempts.any (·.stops halt)

def outcomes (rows : List Row) : List Outcome := rows.map (·.outcome)

/-- The group was gone through as far as it got, and ended accordingly. -/
structure Ran (terms : Terms) (row : Row) : Prop where
  reach : Reach Attempt.task (Attempt.stops terms.halt) row.group.tasks row.attempts
  ended : ∃ now, GroupEnded terms (row.group.begun terms now) row.attempts row.outcome

end Row

theorem Attempt.outcomes_stops {halt : Bool} {as : List Attempt}
    (hk : ∀ a ∈ as, a.outcome.isSome = true) :
    as.any (Attempt.stops halt) = (outcomes as).any (fun o => halt && o.status = .error) := by
  induction as with
  | nil => rfl
  | cons a as ih =>
    obtain ⟨ha, has⟩ := List.forall_mem_cons.1 hk
    obtain ⟨t, o⟩ := a
    cases o with
    | none => cases ha
    | some o =>
      rw [List.any_cons, ih has]
      rfl

namespace GroupEnded

variable {group o : Outcome} {as : List Attempt}

theorem finalized (h : GroupEnded terms group as o) : o.finalized = true := by
  cases h with
  | filled _ h => exact h.finalized
  | unknown => rfl

theorem name (h : GroupEnded terms group as o) : o.name = group.name := by
  cases h with
  | filled _ h => exact h.name
  | unknown => simp

theorem kind (h : GroupEnded terms group as o) : o.kind = group.kind := by
  cases h with
  | filled _ h => exact h.kind
  | unknown => simp

theorem children (h : GroupEnded terms group as o) :
    o.children = group.children ++ Attempt.outcomes as := by
  cases h with
  | filled _ h => exact h.children
  | unknown => simp [Attempt.outcomes]

theorem status_eq_error_iff {halt : Bool} (h : GroupEnded terms group as o)
    (hp : group.policy = { bubbleError := halt }) (ho : group.status ≠ .error) :
    o.status = .error ↔ as.any (Attempt.stops halt) = true := by
  cases h with
  | filled hk h =>
    rw [h.status_eq_error_iff ho, hp, Attempt.outcomes_stops hk]
    simp [Policy.ends]
  | unknown => simp [Attempt.stops]

section
variable {t : Task} {c : Outcome}

theorem of_finish (ho : group.finalized = false) (now : Moment) :
    GroupEnded terms group [] (group.finish .null now).outcome :=
  @filled _ _ [] _ (by simp) (.of_finish ho now)

theorem of_unknown {f : Fault} (ho : group.finalized = false)
    (hf : terms.registry.resolve t.action = .error f) (now : Moment) :
    GroupEnded terms group [⟨t, none⟩] (group.error (.fault f) .null now).outcome := by
  have h := @unknown terms group [] t f (by simp) (by simp [Attempt.outcomes]) hf now
  rw [Outcome.error_of_open ho]
  simpa [Attempt.outcomes] using h

theorem of_ends (ho : group.finalized = false) (hc : group.policy.ends c.status = true)
    (now : Moment) : GroupEnded terms group [⟨t, some c⟩] (group.attach c now).outcome :=
  @filled _ _ [⟨t, some c⟩] _ (by simp) (.of_ends ho hc now)

theorem cons (hc : group.policy.ends c.status = false)
    (h : GroupEnded terms (group.taking [c]) as o) :
    GroupEnded terms group (⟨t, some c⟩ :: as) o := by
  cases h with
  | filled hk h => exact @filled _ _ (⟨t, some c⟩ :: _) _ (by simpa using hk) (h.cons hc)
  | @unknown as t' f hk h hf now =>
    rw [Outcome.taking_taking]
    exact @unknown terms group (⟨t, some c⟩ :: as) t' f (by simpa using hk)
      (by simpa [Attempt.outcomes, hc] using h) hf now

end

end GroupEnded

namespace TaskGroup

variable (g : TaskGroup) (terms : Terms) (now : Moment)

theorem begun_finalized : (g.begun terms now).finalized = false := withDetail_finalized _
theorem begun_policy : (g.begun terms now).policy = { bubbleError := terms.halt } :=
  withDetail_policy _
theorem begun_status : (g.begun terms now).status = .waiting := withDetail_status _
theorem begun_children : (g.begun terms now).children = [] := withDetail_children _
theorem begun_name : (g.begun terms now).name = s!"group:{g.aliasName}" := withDetail_name _
theorem begun_kind : (g.begun terms now).kind = .function := withDetail_kind _

end TaskGroup

namespace Row.Ran

variable {row : Row} (h : row.Ran terms)
include h

theorem finalized : row.outcome.finalized = true := by
  obtain ⟨-, now, hend⟩ := h
  exact hend.finalized

theorem name : row.outcome.name = s!"group:{row.group.aliasName}" := by
  obtain ⟨-, now, hend⟩ := h
  rw [hend.name, TaskGroup.begun_name]

theorem kind : row.outcome.kind = .function := by
  obtain ⟨-, now, hend⟩ := h
  rw [hend.kind, TaskGroup.begun_kind]

theorem children : row.outcome.children = Attempt.outcomes row.attempts := by
  obtain ⟨-, now, hend⟩ := h
  rw [hend.children, TaskGroup.begun_children, List.nil_append]

theorem status_eq_error_iff : row.outcome.status = .error ↔ row.stops terms.halt = true := by
  obtain ⟨-, now, hend⟩ := h
  exact hend.status_eq_error_iff (TaskGroup.begun_policy _ _ _)
    (by simp [TaskGroup.begun_status])

theorem ends (p : Policy) (hp : p = {}) : p.ends row.outcome.status = row.stops terms.halt := by
  rw [hp, Bool.eq_iff_iff, ← h.status_eq_error_iff]
  simp [Policy.ends]

end Row.Ran

end Provision.Plan
