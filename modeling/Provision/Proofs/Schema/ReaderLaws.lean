import Mathlib.Data.List.Forall2
import Provision.Proofs.SchemaLaws

/-!
# What a reader takes

`Holds` says what a record has under a key with two spellings, and `Lacks` that it has
neither. With them the laws of this module say which values a reader takes (`Takes`), for
each way to put readers together.
-/

namespace Provision.Schema

variable {α β : Type} {es : Entries} {key second used used' : String} {r : Reader α}
  {v w : Value} {vs : List Value}

-- ---------------------------------------------------------------------------
-- Keys with two spellings
-- ---------------------------------------------------------------------------

inductive Holds (es : Entries) (key second : String) : String → Value → Prop
  | first {v : Value} : Entries.get? key es = some v → Holds es key second key v
  | second {v : Value} : Entries.get? key es = none → Entries.get? second es = some v →
      Holds es key second second v

def Lacks (es : Entries) (key second : String) : Prop :=
  Entries.get? key es = none ∧ Entries.get? second es = none

def Has (es : Entries) (key second : String) (P : Value → Prop) : Prop :=
  ∃ used v, Holds es key second used v ∧ P v

def MayHave (es : Entries) (key second : String) (P : Value → Prop) : Prop :=
  ∀ used v, Holds es key second used v → P v

theorem lookup?_eq_some_iff :
    lookup? es key second = some (used, v) ↔ Holds es key second used v := by
  unfold lookup?
  cases h : Entries.get? key es with
  | some w =>
    constructor
    · rintro ⟨⟩
      exact .first h
    · rintro (h' | ⟨h', -⟩)
      · rw [← h, h']
      · simp [h] at h'
  | none =>
    simp only [Option.map_eq_some_iff, Prod.mk.injEq]
    constructor
    · rintro ⟨w, h', rfl, rfl⟩
      exact .second h h'
    · rintro (h' | ⟨-, h'⟩)
      · simp [h] at h'
      · exact ⟨v, h', rfl, rfl⟩

theorem lookup?_eq_none_iff : lookup? es key second = none ↔ Lacks es key second := by
  unfold lookup? Lacks
  cases Entries.get? key es <;> simp

theorem Holds.unique (h : Holds es key second used v) (h' : Holds es key second used' w) :
    used = used' ∧ v = w := by
  have := (lookup?_eq_some_iff.2 h).symm.trans (lookup?_eq_some_iff.2 h')
  simpa using this

theorem Holds.used_mem (h : Holds es key second used v) : used ∈ [key, second] := by
  cases h <;> simp

theorem Holds.not_lacks (h : Holds es key second used v) : ¬Lacks es key second := by
  rw [← lookup?_eq_none_iff, lookup?_eq_some_iff.2 h]
  simp

theorem required_of_lacks (h : Lacks es key second) :
    required es key second r = .error [⟨[key], .present⟩] := by
  rw [required, lookup?_eq_none_iff.2 h]

theorem required_of_holds (h : Holds es key second used v) :
    required es key second r = .under used (r v) := by
  rw [required, lookup?_eq_some_iff.2 h]

theorem withDefault_of_lacks (h : Lacks es key second) (a : α) :
    withDefault es key second r a = .ok a := by
  rw [withDefault, lookup?_eq_none_iff.2 h]

theorem withDefault_of_holds (h : Holds es key second used v) (a : α) :
    withDefault es key second r a = .under used (r v) := by
  rw [withDefault, lookup?_eq_some_iff.2 h]

theorem lacks_or_holds (es : Entries) (key second : String) :
    Lacks es key second ∨ ∃ used v, Holds es key second used v := by
  cases h : lookup? es key second with
  | none => exact .inl (lookup?_eq_none_iff.1 h)
  | some found => exact .inr ⟨found.1, found.2, lookup?_eq_some_iff.1 h⟩

-- ---------------------------------------------------------------------------
-- What is taken
-- ---------------------------------------------------------------------------

def Takes (r : Reader α) (v : Value) : Prop := ∃ a, r v = .ok a

theorem and_ok_iff {f : Checked (α → β)} {c : Checked α} :
    (∃ b, f.and c = .ok b) ↔ (∃ g, f = .ok g) ∧ ∃ a, c = .ok a := by
  simp only [Checked.and_eq_ok]
  constructor
  · rintro ⟨_, g, a, hg, ha, -⟩
    exact ⟨⟨g, hg⟩, a, ha⟩
  · rintro ⟨⟨g, hg⟩, a, ha⟩
    exact ⟨g a, g, a, hg, ha, rfl⟩

theorem required_ok_iff :
    (∃ a, required es key second r = .ok a) ↔ Has es key second (Takes r) := by
  simp only [required_eq_ok, lookup?_eq_some_iff]
  constructor
  · rintro ⟨a, used, v, hv, ha⟩
    exact ⟨used, v, hv, a, ha⟩
  · rintro ⟨used, v, hv, a, ha⟩
    exact ⟨a, used, v, hv, ha⟩

theorem withDefault_eq_ok {a b : α} :
    withDefault es key second r b = .ok a ↔
      (Lacks es key second ∧ a = b) ∨ ∃ used v, Holds es key second used v ∧ r v = .ok a := by
  rcases lacks_or_holds es key second with h | ⟨used, v, h⟩
  · rw [withDefault_of_lacks h]
    constructor
    · rintro ⟨⟩
      exact .inl ⟨h, rfl⟩
    · rintro (⟨-, rfl⟩ | ⟨_, _, h', -⟩)
      · rfl
      · exact absurd h h'.not_lacks
  · rw [withDefault_of_holds h, Checked.under_eq_ok]
    constructor
    · exact fun ha => .inr ⟨used, v, h, ha⟩
    · rintro (⟨h', -⟩ | ⟨_, _, h', ha⟩)
      · exact absurd h' h.not_lacks
      · exact (h.unique h').2 ▸ ha

theorem withDefault_ok_iff {b : α} :
    (∃ a, withDefault es key second r b = .ok a) ↔ MayHave es key second (Takes r) := by
  rcases lacks_or_holds es key second with h | ⟨used, v, h⟩
  · rw [withDefault_of_lacks h]
    exact ⟨fun _ _ _ h' => absurd h h'.not_lacks, fun _ => ⟨b, rfl⟩⟩
  · simp only [withDefault_of_holds h, Checked.under_eq_ok]
    exact ⟨fun ha _ _ h' => (h.unique h').2 ▸ ha, fun ha => ha used v h⟩

theorem record_takes_iff {name : String} {fields : Entries → Checked α} :
    Takes (record name fields) v ↔ ∃ es, v = .dict es ∧ ∃ a, fields es = .ok a := by
  simp only [Takes, record_eq_ok]
  constructor
  · rintro ⟨a, es, hv, ha⟩
    exact ⟨es, hv, a, ha⟩
  · rintro ⟨es, hv, a, ha⟩
    exact ⟨a, es, hv, ha⟩

theorem itemsFrom_eq_ok {i : Nat} {as : List α} :
    itemsFrom r i vs = .ok as ↔ List.Forall₂ (fun v a => r v = .ok a) vs as := by
  induction vs generalizing i as with
  | nil => simp [itemsFrom, eq_comm]
  | cons v vs ih =>
    simp only [itemsFrom, Checked.and_eq_ok, cons_under_eq_ok, ih, List.forall₂_cons_left_iff]
    constructor
    · rintro ⟨_, rest, ⟨a, ha, rfl⟩, hrest, rfl⟩
      exact ⟨a, rest, ha, hrest, rfl⟩
    · rintro ⟨a, rest, ha, hrest, rfl⟩
      exact ⟨_, rest, ⟨a, ha, rfl⟩, hrest, rfl⟩

theorem list_eq_ok {as : List α} :
    list r v = .ok as ↔ ∃ vs, v = .list vs ∧ List.Forall₂ (fun v a => r v = .ok a) vs as := by
  cases v <;> simp [list, need, itemsFrom_eq_ok]

theorem exists_forall₂_iff {P : Value → α → Prop} :
    (∃ as, List.Forall₂ P vs as) ↔ ∀ w ∈ vs, ∃ a, P w a := by
  induction vs with
  | nil => simp
  | cons v vs ih =>
    rw [List.forall_mem_cons, ← ih]
    constructor
    · rintro ⟨_, _ | ⟨ha, has⟩⟩
      exact ⟨⟨_, ha⟩, _, has⟩
    · rintro ⟨⟨a, ha⟩, as, has⟩
      exact ⟨a :: as, .cons ha has⟩

theorem list_takes_iff : Takes (list r) v ↔ ∃ vs, v = .list vs ∧ ∀ w ∈ vs, Takes r w := by
  simp only [Takes, list_eq_ok, ← exists_forall₂_iff]
  constructor
  · rintro ⟨as, vs, hv, has⟩
    exact ⟨vs, hv, as, has⟩
  · rintro ⟨vs, hv, as, has⟩
    exact ⟨as, vs, hv, has⟩

end Provision.Schema
