import Provision.Plan.Build
import Provision.Proofs.StageLaws

/-!
# What hooks leave behind

`Triple` states what a hook comes to from one build: a result and a build, or a fault.
There is a law for each thing that a hook can do. A setting that is not complete takes
every assignment, so the only faults are those that a hook throws by itself and those
of whoever is asked.
-/

namespace Provision.Plan.Hook

variable {π α β : Type} {b b' : Build π}

/-- From this build, a hook ends with a result and a build as said by `Q`, or with a fault as
said by `E`. -/
structure Triple (x : Hook π α) (b : Build π) (Q : α → Build π → Prop) (E : Fault → Prop) :
    Prop where
  ends : match x.run.run b with
    | (.ok a, b') => Q a b'
    | (.error f, _) => E f

variable {Q : α → Build π → Prop} {E : Fault → Prop}

theorem Triple.pure {a : α} (h : Q a b) : Triple (pure a) b Q E := ⟨h⟩

theorem Triple.throw {f : Fault} (h : E f) : Triple (throw f : Hook π α) b Q E := ⟨h⟩

theorem Triple.bind {x : Hook π α} {f : α → Hook π β} {P : α → Build π → Prop}
    {Q : β → Build π → Prop} (hx : Triple x b P E) (hf : ∀ a b', P a b' → Triple (f a) b' Q E) :
    Triple (x >>= f) b Q E := by
  obtain ⟨hx⟩ := hx
  constructor
  rw [run_bind]
  cases hr : x.run.run b with
  | mk result b' =>
    rw [hr] at hx
    cases result with
    | error e => exact hx
    | ok a => exact (hf a b' hx).ends

theorem Triple.imp {x : Hook π α} {P : α → Build π → Prop} (hx : Triple x b P E)
    (hq : ∀ a b', P a b' → Q a b') : Triple x b Q E := by
  obtain ⟨hx⟩ := hx
  constructor
  cases hr : x.run.run b with
  | mk result b' =>
    rw [hr] at hx
    cases result with
    | error e => exact hx
    | ok a => exact hq a b' hx

theorem Triple.get {f : Build π → Hook π α} (h : Triple (f b) b Q E) :
    Triple (get >>= f) b Q E := ⟨h.ends⟩

theorem Triple.ok {x : Hook π α} {a : α} (hx : Triple x b Q E) (h : x.run.run b = (.ok a, b')) :
    Q a b' := by
  have he := hx.ends
  rwa [h] at he

theorem Triple.error {x : Hook π α} {f : Fault} (hx : Triple x b Q E)
    (h : x.run.run b = (.error f, b')) : E f := by
  have he := hx.ends
  rwa [h] at he

-- ---------------------------------------------------------------------------
-- What a hook can do
-- ---------------------------------------------------------------------------

theorem triple_modify (g : Build π → Build π) :
    Triple (modify g) b (fun _ b' => b' = g b) E := ⟨rfl⟩

theorem triple_note (r : Record) :
    Triple (note r) b (fun _ b' => b' = { b with records := b.records ++ [r] }) E := ⟨rfl⟩

theorem triple_assign (ho : b.setting.frozen = false) (a : Assignment) :
    Triple (assign a) b (fun _ b' => b' = { b with setting := b.setting.write a }) E := by
  have ha : b.setting.assign a = .ok (b.setting.write a) := by simp [Setting.assign, ho]
  refine .get ?_
  rw [ha]
  exact triple_modify _

theorem triple_register {a : Action} {registry : Registry} {records : List Record}
    (h : b.registry.register a = ⟨registry, none, records⟩) :
    Triple (register a) b
      (fun _ b' => b' = { b with registry, records := b.records ++ records }) E := by
  refine .get ?_
  rw [h]
  exact .bind (triple_modify _) fun _ _ h => .pure h

theorem ask_run (question : π → Except Fault α × π) :
    (ask question).run.run b =
      ((question b.asked).1, { b with asked := (question b.asked).2 }) := by
  have hg : (get : Hook π (Build π)).run.run b = (.ok b, b) := rfl
  simp only [ask, run_bind, hg]
  generalize question b.asked = answered
  obtain ⟨result, s⟩ := answered
  cases result <;> rfl

theorem triple_ask {question : π → Except Fault α × π}
    (hE : ∀ f s, question b.asked = (.error f, s) → E f) :
    Triple (ask question) b
      (fun a b' => ∃ s, question b.asked = (.ok a, s) ∧ b' = { b with asked := s }) E := by
  constructor
  rw [ask_run]
  cases hq : question b.asked with
  | mk result s =>
    cases result with
    | error f => exact hE f s hq
    | ok a => exact ⟨s, rfl, rfl⟩

end Provision.Plan.Hook
