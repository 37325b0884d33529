import Provision.Proofs.InstallationLaws
import Provision.Proofs.Plan.Calls
import Provision.Proofs.Recipe.Execution

/-!
# Dry runs

A dry run checks every task and hands nothing over. What it has against a task is what
calling the action would raise, before any command is handed over. So a plan whose dry run
does not end well has no run that does, and none that gets past the task where the dry run
stopped (`dryRun_sound`).
-/

namespace Provision

open Stage Outcome
open Recipe (Carries)

variable {σ τ : Type}

namespace Plan

-- ---------------------------------------------------------------------------
-- Attempts
-- ---------------------------------------------------------------------------

def Task.Admitted (terms : Terms) (t : Task) : Prop :=
  ∃ a, terms.registry.resolve t.action = .ok a ∧ a.checked terms.context t.options = .ok ()

/-- A run stops at this task, if it gets there: no action is registered for it, or something is
wrong with the call and errors are to halt the run. -/
def Task.Barred (terms : Terms) (t : Task) : Prop :=
  (∃ f, terms.registry.resolve t.action = .error f) ∨ terms.halt = true ∧ ¬t.Admitted terms

namespace Attempt.Made

variable {r : Runner σ} {terms : Terms} {a : Attempt}

theorem error_of_not_admitted (h : a.Made r terms) (hn : ¬a.task.Admitted terms) :
    ∀ o, a.outcome = some o → o.status = .error := by
  cases h with
  | unknown => nofun
  | @known t action o s s' ha ho =>
    rintro _ ⟨⟩
    cases hc : action.checked terms.context t.options with
    | ok _ => exact absurd ⟨action, ha, hc⟩ hn
    | error f =>
      have herr := (taskOutcome_of_refused (r := r) hc s).1
      rwa [ho] at herr

theorem admitted_of_well (h : a.Made r terms) (hw : a.Well) : a.task.Admitted terms := by
  refine Classical.byContradiction fun hn => ?_
  obtain ⟨o, ho, hok⟩ := hw
  rw [h.error_of_not_admitted hn o ho] at hok
  cases hok

theorem well_of_admitted (h : a.Made r terms) (hd : terms.dryRun = true)
    (ht : a.task.Admitted terms) : a.Well := by
  obtain ⟨action, hta, hc⟩ := ht
  cases h with
  | unknown hf => cases hf.symm.trans hta
  | @known t action' o s s' ha ho =>
    cases ha.symm.trans hta
    have hs := (taskOutcome_of_passed (r := r) hc hd s).1
    rw [ho] at hs
    exact ⟨o, rfl, by rw [hs]; rfl⟩

theorem stops_of_barred (h : a.Made r terms) (hb : a.task.Barred terms) :
    a.stops terms.halt = true := by
  obtain ⟨f, hf⟩ | ⟨hh, hn⟩ := hb
  · cases h with
    | unknown => rfl
    | known ha => cases hf.symm.trans ha
  · have herr := h.error_of_not_admitted hn
    unfold stops
    cases ho : a.outcome with
    | none => rfl
    | some o => simp [hh, herr o ho]

theorem barred_of_stops (h : a.Made r terms) (hd : terms.dryRun = true)
    (hs : a.stops terms.halt = true) : a.task.Barred terms := by
  have hn : ¬a.task.Admitted terms := by
    intro ht
    rw [(h.well_of_admitted hd ht).not_stops] at hs
    cases hs
  cases h with
  | unknown hf => exact .inl ⟨_, hf⟩
  | known =>
    obtain ⟨hh, -⟩ : terms.halt = true ∧ _ := by simpa [stops] using hs
    exact .inr ⟨hh, hn⟩

end Attempt.Made

-- ---------------------------------------------------------------------------
-- Two runs of one plan
-- ---------------------------------------------------------------------------

/-- Two runs that go by the same plan, but for what they find in files and whether they are dry. -/
structure Terms.Alike (terms terms' : Terms) : Prop where
  registry : terms'.registry = terms.registry
  halt : terms'.halt = terms.halt
  checked : ∀ (a : Action) (options : Entries),
    a.checked terms'.context options = a.checked terms.context options

namespace Terms.Alike

variable {terms terms' : Terms} (h : terms.Alike terms') {t : Task}
include h

theorem admitted_iff : t.Admitted terms' ↔ t.Admitted terms := by
  unfold Task.Admitted
  simp only [h.registry, h.checked]

theorem barred_iff : t.Barred terms' ↔ t.Barred terms := by
  unfold Task.Barred
  rw [h.registry, h.halt, h.admitted_iff]

end Terms.Alike

/-- What a dry run has against a task is what calling its action raises, and then the action has
done nothing yet. -/
structure Foreseen (a : Action) (dry : Outcome) (u : Stage τ)
    (called : Except Fault Outcome × Stage τ) : Prop where
  blamed : dry.status = .error → ∃ f, dry.fault = some f
  raised_iff : ∀ f, dry.status = .error ∧ dry.fault = some f ↔ called.1 = .error f
  untouched : ∀ f, called.1 = .error f → called.2 = u ∧ a.Objected f

section
variable {r : Runner σ} {r' : Runner τ} {terms terms' : Terms} (h : terms.Alike terms')
  (hd : terms.dryRun = true) {tree : Tree} {s s' : Stage σ} {u u' : Stage τ}
  {result result' : Except Raised Outcome} {as bs : List Attempt}
include h hd

theorem foreseen (a : Action) (t : Task) (s : Stage σ) (u : Stage τ) :
    Foreseen a ((taskOutcome r terms a t).run s).1 u ((call r' terms' a t).run u) := by
  have hchecked := h.checked a t.options
  cases hc : a.checked terms.context t.options with
  | error f =>
    obtain ⟨hs, hf⟩ := taskOutcome_of_refused (r := r) hc s
    rw [call_of_refused (hchecked.trans hc)]
    refine ⟨fun _ => ⟨f, hf⟩, fun f' => ?_, ?_⟩
    · simp [hs, hf]
    · rintro _ ⟨⟩
      exact ⟨rfl, Action.objected hc⟩
  | ok _ =>
    obtain ⟨hs, hf⟩ := taskOutcome_of_passed (r := r) hc hd s
    obtain ⟨o, ho, -⟩ := call_of_passed (r := r') (hchecked.trans hc) u
    exact ⟨by simp [hs], by simp [hs, ho], by simp [ho]⟩

/-- Where a dry run does not end well, no run does. -/
theorem Trace.not_ok (hdry : Trace r terms tree s s' result as)
    (hreal : Trace r' terms' tree u u' result' bs) {o o' : Outcome} (ho : Carries result o)
    (ho' : Carries result' o') (hbad : o.status.ok = false) : o'.status.ok = false := by
  refine eq_false_of_ne_true fun hok => ?_
  -- A run that is well has attempted every task, so there is nothing to be had against any.
  obtain ⟨hmap, hwell⟩ := (hreal.ok_iff o' ho').1 hok
  have hadmitted : ∀ t ∈ tree.tasks, t.Admitted terms := by
    rw [← hmap]
    intro t ht
    obtain ⟨b, hb, rfl⟩ := List.mem_map.1 ht
    exact h.admitted_iff.1 ((hreal.thread.made b hb).admitted_of_well (hwell b hb))
  have hdrywell : ∀ a ∈ as, a.Well := by
    intro a ha
    refine (hdry.thread.made a ha).well_of_admitted hd (hadmitted _ ?_)
    exact hdry.start.isPrefix.subset (List.mem_map.2 ⟨a, ha, rfl⟩)
  have hgo := any_stops_of_well hdrywell terms.halt
  have hall := (hdry.ok_iff o ho).2 ⟨(hdry.reach o ho).map_eq hgo, hdrywell⟩
  simp [hall] at hbad

/-- Where a dry run stops, every run has stopped. -/
theorem Trace.stops_early (hdry : Trace r terms tree s s' result as)
    (hreal : Trace r' terms' tree u u' result' bs) {k : Nat} {a : Attempt} (ha : as[k]? = some a)
    (hs : a.stops terms.halt = true) :
    bs.length ≤ k + 1 ∧ ∀ o', Carries result' o' →
      ∃ j ≤ k, ∃ b, bs[j]? = some b ∧ b.stops terms'.halt = true ∧ bs.length = j + 1 := by
  -- What stops a dry run is the task, and that is the same in both.
  have hbarred := (hdry.thread.made a (List.mem_of_getElem? ha)).barred_of_stops hd hs
  have htask := hdry.start.getElem? ha
  have hk : ∀ b, bs[k]? = some b → b.stops terms'.halt = true := by
    intro b hb
    have hsame : b.task = a.task := Option.some.inj ((hreal.start.getElem? hb).symm.trans htask)
    refine (hreal.thread.made b (List.mem_of_getElem? hb)).stops_of_barred ?_
    rw [hsame]
    exact h.barred_iff.2 hbarred
  refine ⟨hreal.start.length_le hk, fun o' ho' => (hreal.reach o' ho').stopped ?_ hk⟩
  exact (List.getElem?_eq_some_iff.1 htask).1

end

-- ---------------------------------------------------------------------------
-- Plans
-- ---------------------------------------------------------------------------

namespace Engine

variable {e : Engine} {tree : Tree} {st : Setting} {t : Recipe.Target} {d : Recipe.Document}

structure Rehearsed (e : Engine) (tree : Tree) (st : Setting) (t : Recipe.Target) (r : Runner σ)
    (r' : Runner τ) (files files' : Files) (s : Stage σ) (u : Stage τ) : Prop where
  untouched : Untouched s ((e.execute r files { dryRun := true }).run s).2
  again : (((e.execute r files { dryRun := true }).run s).1.2.execute r' files' {}).run u =
    (e.execute r' files' {}).run u
  foreseen : ∀ (k : Task) (a : Action), e.registry.resolve k.action = .ok a →
    ∀ (s : Stage σ) (u : Stage τ),
      Foreseen a ((taskOutcome r (e.terms st t files { dryRun := true }) a k).run s).1 u
        ((call r' (e.terms st t files' {}) a k).run u)
  not_ok : ∀ o o', Carries ((e.execute r files { dryRun := true }).run s).1.1 o →
    Carries ((e.execute r' files' {}).run u).1.1 o' → o.status.ok = false → o'.status.ok = false
  stops : ∃ as bs,
    Trace r (e.terms st t files { dryRun := true }) tree s
      ((e.execute r files { dryRun := true }).run s).2
      ((e.execute r files { dryRun := true }).run s).1.1 as ∧
    Trace r' (e.terms st t files' {}) tree u ((e.execute r' files' {}).run u).2
      ((e.execute r' files' {}).run u).1.1 bs ∧
    ∀ k a, as[k]? = some a → a.stops st.haltOnError.truthy = true →
      bs.length ≤ k + 1 ∧ ∀ o', Carries ((e.execute r' files' {}).run u).1.1 o' →
        ∃ j ≤ k, ∃ b, bs[j]? = some b ∧ b.stops st.haltOnError.truthy = true ∧ bs.length = j + 1

/-- A dry run is sound, whoever the runners are and whatever is in the files. It hands nothing
over and makes no difference to later runs. What it has against a task is what calling the action
would raise before anything is handed over. When it does not end well no real run does, and where
it stops every real run has stopped. -/
theorem dryRun_sound (h : e.Ready tree st t d) (r : Runner σ) (r' : Runner τ)
    (files files' : Files) (s : Stage σ) (u : Stage τ) :
    e.Rehearsed tree st t r r' files files' s u := by
  have halike : (e.terms st t files { dryRun := true }).Alike (e.terms st t files' {}) :=
    ⟨rfl, rfl, fun _ _ => rfl⟩
  obtain ⟨as, hdry⟩ := execute_trace h r files { dryRun := true } s
  obtain ⟨bs, hreal⟩ := execute_trace h r' files' {} u
  refine ⟨?_, execute_again h .., fun k a _ s u => Plan.foreseen halike rfl a k s u, ?_,
    as, bs, hdry, hreal, ?_⟩
  · exact execute_keeps lasting_untouched
      (fun terms a t hd => call_keeps_of_dryRun lasting_untouched hd a t) e s
  · exact fun o o' ho ho' => Trace.not_ok halike rfl hdry hreal ho ho'
  · exact fun k a ha hs => Trace.stops_early halike rfl hdry hreal ha hs

def strayTried : (Except Raised Outcome × Engine) × Stage (List Command) :=
  (stray.execute ({} : Rehearsal).toRunner default { dryRun := true }).run (.opened [] .zero)

theorem strayTried_result : ∃ o, strayTried.1.1 = .error (.bubbled o) ∧ o.status.ok = false :=
  ⟨_, rfl, rfl⟩

theorem stray_rehearsed : stray.Ready strayTasks straySetting default default ∧
    Untouched (.opened [] .zero) strayTried.2 ∧
      (∃ o, Carries strayTried.1.1 o ∧ o.status.ok = false) ∧
      ∃ o, Carries strayed.1.1 o ∧ o.status.ok = false := by
  have hready : stray.Ready strayTasks straySetting default default := ⟨rfl, rfl, rfl, rfl⟩
  have hsound := dryRun_sound hready ({} : Rehearsal).toRunner ({} : Rehearsal).toRunner default
    default (.opened [] .zero) (.opened [] .zero)
  obtain ⟨o, ho, hbad⟩ := strayTried_result
  obtain ⟨o', ho', -⟩ := strayed_result
  have hdry : Carries strayTried.1.1 o := .inr ho
  have hreal : Carries strayed.1.1 o' := .inr ho'
  exact ⟨hready, hsound.untouched, ⟨o, hdry, hbad⟩, o', hreal, hsound.not_ok o o' hdry hreal hbad⟩

end Engine

end Plan

end Provision
