import Provision.Journal.Writing
import Provision.Proofs.StageLaws

/-!
# What journaled work comes to

Records are only added to, so what such work comes to is said without them.
-/

namespace Provision

def Fault.IsMishap (f : Fault) : Prop := ∃ m text, f = .mishap m text

namespace Journaled

variable {α β : Type} {Q : α → Prop} {E : Fault → Prop}

/-- Work ends with a result as said by `Q`, or with a fault as said by `E`. -/
structure Ends (work : Journaled α) (Q : α → Prop) (E : Fault → Prop) : Prop where
  ends : ∀ records, match (work.run.run records).1 with
    | .ok a => Q a
    | .error f => E f

theorem Ends.pure {a : α} (h : Q a) : Ends (pure a) Q E := ⟨fun _ => h⟩

theorem Ends.throw {f : Fault} (h : E f) : Ends (throw f : Journaled α) Q E := ⟨fun _ => h⟩

theorem Ends.bind {work : Journaled α} {f : α → Journaled β} {Q : β → Prop} {P : α → Prop}
    (h : Ends work P E) (hf : ∀ a, P a → Ends (f a) Q E) : Ends (work >>= f) Q E := by
  constructor
  intro records
  have hw := h.ends records
  rw [run_bind]
  cases hr : work.run.run records with
  | mk result records' =>
    rw [hr] at hw
    cases result with
    | error e => exact hw
    | ok a => exact (hf a hw).ends records'

theorem Ends.pure_bind {a : α} {f : α → Journaled β} {Q : β → Prop} (h : Ends (f a) Q E) :
    Ends (Pure.pure a >>= f) Q E := ⟨h.ends⟩

theorem Ends.throw_bind {e : Fault} {f : α → Journaled β} {Q : β → Prop} (h : E e) :
    Ends (MonadExcept.throw e >>= f) Q E := ⟨fun _ => h⟩

theorem Ends.imp {work : Journaled α} {P : α → Prop} {D : Fault → Prop} (h : Ends work P D)
    (hq : ∀ a, P a → Q a) (he : ∀ f, D f → E f) : Ends work Q E := by
  constructor
  intro records
  have hw := h.ends records
  cases hr : (work.run.run records).1 with
  | ok a =>
    rw [hr] at hw
    exact hq a hw
  | error f =>
    rw [hr] at hw
    exact he f hw

theorem Ends.imp_error {work : Journaled α} {D : Fault → Prop} (h : Ends work Q D)
    (he : ∀ f, D f → E f) : Ends work Q E := h.imp (fun _ hq => hq) he

theorem ends_note (r : Record) : Ends (note r) (fun _ => True) E := ⟨fun _ => trivial⟩

theorem ends_lift {x : Except Fault α} (hq : ∀ a, x = .ok a → Q a) (he : ∀ f, x = .error f → E f) :
    Ends (liftM x : Journaled α) Q E := by
  constructor
  intro records
  cases x with
  | ok a => exact hq a rfl
  | error f => exact he f rfl

theorem Ends.ok {work : Journaled α} {a : α} {records : List Record} (h : Ends work Q E)
    (hw : work.outcome = (.ok a, records)) : Q a := by
  have ha := h.ends []
  rw [show (work.run.run []).1 = .ok a from congrArg Prod.fst hw] at ha
  exact ha

theorem Ends.error {work : Journaled α} {f : Fault} {records : List Record} (h : Ends work Q E)
    (hw : work.outcome = (.error f, records)) : E f := by
  have ha := h.ends []
  rw [show (work.run.run []).1 = .error f from congrArg Prod.fst hw] at ha
  exact ha

-- ---------------------------------------------------------------------------
-- Faults from elsewhere
-- ---------------------------------------------------------------------------

/-- Work that finds these records ends in a mishap. -/
def Strays (records : List Record) (work : Journaled α) : Prop :=
  ∃ e : Fault, e.IsMishap ∧ (work.run.run records).1 = .error e

variable {records later : List Record} {work : Journaled α} {f : α → Journaled β}

theorem strays_of_error {e : Fault} (h : work.run.run records = (.error e, later)) :
    Strays records work ↔ e.IsMishap := by
  unfold Strays
  rw [h]
  constructor
  · rintro ⟨e', he, h'⟩
    cases h'
    exact he
  · intro he
    exact ⟨e, he, rfl⟩

theorem strays_of_ok {a : α} (h : work.run.run records = (.ok a, later)) :
    ¬ Strays records work := by
  rintro ⟨e, -, he⟩
  rw [h] at he
  cases he

theorem strays_pure {a : α} : ¬ Strays records (pure a) := strays_of_ok rfl

theorem Ends.not_strays (h : Ends work Q E) (he : ∀ e, E e → ¬ e.IsMishap) :
    ¬ Strays records work := by
  rintro ⟨e, hm, hr⟩
  have hw := h.ends records
  rw [hr] at hw
  exact he e hw hm

theorem Ends.strays_iff {P : Prop} (h : Ends work (fun _ => ¬ P) (fun e => e.IsMishap ↔ P)) :
    Strays records work ↔ P := by
  have hw := h.ends records
  cases hr : work.run.run records with
  | mk result later =>
    rw [hr] at hw
    cases result with
    | ok a => exact iff_of_false (strays_of_ok hr) hw
    | error e => exact (strays_of_error hr).trans hw

/-- Work that may end in faults as said by `E` and in mishaps does not end in mishaps exactly when
it never strays. -/
theorem Ends.iff_not_strays (h : Ends work Q (fun e => E e ∨ e.IsMishap))
    (he : ∀ e, E e → ¬ e.IsMishap) : Ends work Q E ↔ ∀ records, ¬ Strays records work := by
  constructor
  · exact fun hw records => hw.not_strays he
  · refine fun hn => ⟨fun records => ?_⟩
    have hw := h.ends records
    cases hr : (work.run.run records).1 with
    | ok a =>
      rw [hr] at hw
      exact hw
    | error e =>
      rw [hr] at hw
      exact hw.resolve_right fun hm => hn records ⟨e, hm, hr⟩

theorem strays_bind : Strays records (work >>= f) ↔
    Strays records work ∨
      ∃ a later, work.run.run records = (.ok a, later) ∧ Strays later (f a) := by
  cases hw : work.run.run records with
  | mk result later =>
    have hb := run_bind work f records
    rw [hw] at hb
    cases result with
    | error e =>
      rw [strays_of_error hb, strays_of_error hw]
      constructor
      · exact .inl
      · rintro (he | ⟨a, later', h, -⟩)
        · exact he
        · cases h
    | ok a =>
      constructor
      · rintro ⟨e, he, h⟩
        exact .inr ⟨a, later, rfl, e, he, (congrArg Prod.fst hb).symm.trans h⟩
      · rintro (h | ⟨a', later', h, e, he, h'⟩)
        · exact absurd h (strays_of_ok hw)
        · cases h
          exact ⟨e, he, (congrArg Prod.fst hb).trans h'⟩

theorem strays_note_bind {r : Record} {f : Unit → Journaled β} :
    Strays records (note r >>= f) ↔ Strays (records ++ [r]) (f ()) := Iff.rfl

theorem strays_pure_bind {a : α} :
    Strays records (pure a >>= f) ↔ Strays records (f a) := Iff.rfl

theorem strays_throw_bind {e : Fault} :
    Strays records ((throw e : Journaled α) >>= f) ↔ e.IsMishap := strays_of_error rfl

theorem strays_lift {x : Except Fault α} :
    Strays records (liftM x : Journaled α) ↔ ∃ e : Fault, e.IsMishap ∧ x = .error e := by
  cases x with
  | error e =>
    refine (strays_of_error (e := e) rfl).trans ⟨fun he => ⟨e, he, rfl⟩, ?_⟩
    rintro ⟨e', he, h⟩
    cases h
    exact he
  | ok a =>
    refine iff_of_false (strays_of_ok (a := a) rfl) ?_
    rintro ⟨e, -, h⟩
    cases h

theorem strays_lift_bind {x : Except Fault α} :
    Strays records ((liftM x : Journaled α) >>= f) ↔
      (∃ e : Fault, e.IsMishap ∧ x = .error e) ∨ ∃ a, x = .ok a ∧ Strays records (f a) := by
  rw [strays_bind, strays_lift]
  refine or_congr_right ⟨?_, ?_⟩
  · rintro ⟨a, later, h, hs⟩
    cases x with
    | error e => cases h
    | ok a' =>
      cases h
      exact ⟨a, rfl, hs⟩
  · rintro ⟨a, rfl, hs⟩
    exact ⟨a, records, rfl, hs⟩

end Journaled

end Provision
