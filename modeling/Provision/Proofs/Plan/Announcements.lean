import Provision.Proofs.Plan.Attempts

/-!
# Announcements

What a run tells its listener. Each row of attempts comes with the announcements of its
group (`Row.Told`): the start, what is told of each attempt, and how the group ended. A
listener that refuses an announcement breaks the run off (`CutOff`).
-/

namespace Provision.Plan

open Stage Watched Outcome

variable {σ : Type} {r : Runner σ} {terms : Terms}

-- ---------------------------------------------------------------------------
-- What is told
-- ---------------------------------------------------------------------------

def Tells (P : List Event → Prop) (s s' : Stage σ) : Prop :=
  ∃ es, s'.events = s.events ++ es ∧ P es

inductive Pieces {α : Type} (P : α → List Event → Prop) : List α → List Event → Prop
  | nil : Pieces P [] []
  | cons {a : α} {as : List α} {es more : List Event} (h : P a es) (hr : Pieces P as more) :
      Pieces P (a :: as) (es ++ more)

def Attempt.Told (a : Attempt) (es : List Event) : Prop :=
  ∃ (o : Outcome) (texts : List String), a.outcome = some o ∧
    es = .start a.task.name :: texts.map Event.progress ++
      [closing o a.task.name s!"{a.task.name}: {o.message}"]

/-- What is told of a group after its start: of each task, and in the end of the group. A task
whose action is not registered only fails, and with that the announcements of its group end. -/
inductive Continued (terms : Terms) (g : TaskGroup) (o : Outcome) :
    List Attempt → List Event → Prop
  | closed {as : List Attempt} {es : List Event} (h : Pieces Attempt.Told as es) (text : String) :
      Continued terms g o as (es ++ [closing o g.name (g.name ++ text)])
  | unknown {as : List Attempt} {es : List Event} {t : Task} {f : Fault}
      (h : Pieces Attempt.Told as es) (hf : terms.registry.resolve t.action = .error f) :
      Continued terms g o (as ++ [⟨t, none⟩]) (es ++ [.error s!"{t.name}: {f.text}"])

namespace Continued

variable {g : TaskGroup} {o : Outcome} {a : Attempt} {as : List Attempt} {es more : List Event}

theorem finished (h : Pieces Attempt.Told as es) :
    Continued terms g o as
      (es ++ [closing o g.name s!"{g.name} finished with status {o.status.name}"]) := by
  have hclosed := @closed terms g o _ _ h
    s!" finished with status {o.status.name}"
  rwa [← String.append_assoc] at hclosed

theorem failed (h : Pieces Attempt.Told as es) (ho : o.status = .error) :
    Continued terms g o as (es ++ [.error s!"{g.name}: {o.message}"]) := by
  have hclosed := @closed terms g o _ _ h s!": {o.message}"
  simp only [closing, ho] at hclosed
  rwa [← String.append_assoc] at hclosed

theorem cons (ha : a.Told es) (h : Continued terms g o as more) :
    Continued terms g o (a :: as) (es ++ more) := by
  cases h with
  | closed h text =>
    rw [← List.append_assoc]
    exact .closed (.cons ha h) text
  | unknown h hf =>
    rw [← List.append_assoc]
    exact .unknown (.cons ha h) hf

end Continued

def Row.Told (terms : Terms) (row : Row) (es : List Event) : Prop :=
  ∃ more, es = .start row.group.name :: more ∧
    Continued terms row.group row.outcome row.attempts more

-- ---------------------------------------------------------------------------
-- Listeners
-- ---------------------------------------------------------------------------

/-- What a run announces: that something of these names starts or has ended well, and what became
of an attempt that did not. -/
inductive Announced (names : List String) (as : List Attempt) : Event → Prop
  | start {name : String} (h : name ∈ names) : Announced names as (.start name)
  | complete {name : String} (h : name ∈ names) : Announced names as (.complete name)
  | warning {name : String} (h : name ∈ names) : Announced names as (.complete s!"{name} (warning)")
  | failure {a : Attempt} (h : a ∈ as) (hw : ¬a.Well) (text : String) :
      Announced names as (.error text)

theorem Announced.closing {names : List String} {as : List Attempt} {o : Outcome}
    {name : String} (h : name ∈ names) (hw : o.status.ok = false → ∃ a ∈ as, ¬a.Well)
    (text : String) : Announced names as (closing o name text) := by
  unfold Plan.closing
  split
  · exact .complete h
  · exact .warning h
  · next hs hs' =>
    obtain ⟨a, ha, hna⟩ := hw (by simpa [Status.ok] using ⟨hs, hs'⟩)
    exact .failure ha hna text

/-- A run that its listener broke off: what had been attempted until then, and what it refused. -/
def CutOff (r : Runner σ) (terms : Terms) (names : List String) (tasks : List Task) (s : Stage σ)
    (f : Fault) (u : Stage σ) : Prop :=
  ∃ as e, Attempts r terms s as u ∧
    Start Attempt.task (Attempt.stops terms.halt) tasks as ∧
      s.objection e = some f ∧ Announced names as e

namespace CutOff

variable {names names' : List String} {tasks : List Task} {s s' u : Stage σ} {f : Fault}
  {as : List Attempt}

theorem of_start {name : String} (hq : Quiet s u) (hn : name ∈ names)
    (he : u.objection (.start name) = some f) : CutOff r terms names tasks s f u :=
  ⟨[], _, .none hq, .none, hq.objection ▸ he, .start hn⟩

theorem mono (h : CutOff r terms names tasks s f u) (hn : names ⊆ names') :
    CutOff r terms names' tasks s f u := by
  obtain ⟨as, e, hrun, hstart, he, hann⟩ := h
  refine ⟨as, e, hrun, hstart, he, ?_⟩
  cases hann with
  | start h => exact .start (hn h)
  | complete h => exact .complete (hn h)
  | warning h => exact .warning (hn h)
  | failure ha hw text => exact .failure ha hw text

theorem append_left (h : CutOff r terms names tasks s f u) (more : List Task) :
    CutOff r terms names (tasks ++ more) s f u := by
  obtain ⟨as, e, hrun, hstart, he, hann⟩ := h
  exact ⟨as, e, hrun, hstart.append_left more, he, hann⟩

theorem beyond (hrun : Attempts r terms s as s') (hs : as.any (Attempt.stops terms.halt) = false)
    {as' : List Attempt} (hrun' : Attempts r terms s' as' u)
    (hstart : Start Attempt.task (Attempt.stops terms.halt) tasks as') {e : Event}
    (he : s.objection e = some f) (hann : Announced names (as ++ as') e) :
    CutOff r terms names (as.map (·.task) ++ tasks) s f u :=
  ⟨as ++ as', e, hrun.append hrun', hstart.after hs, he, hann⟩

theorem after (hrun : Attempts r terms s as s') (ho : s'.objection = s.objection)
    (hs : as.any (Attempt.stops terms.halt) = false) (h : CutOff r terms names tasks s' f u) :
    CutOff r terms names (as.map (·.task) ++ tasks) s f u := by
  obtain ⟨as', e, hrun', hstart, he, hann⟩ := h
  refine .beyond hrun hs hrun' hstart (ho ▸ he) ?_
  cases hann with
  | start h => exact .start h
  | complete h => exact .complete h
  | warning h => exact .warning h
  | failure ha hw text => exact .failure (List.mem_append_right as ha) hw text

end CutOff

end Provision.Plan
