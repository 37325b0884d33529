import Provision.Schema

/-!
# What a reader has accepted

Each law reads the success of one way to put readers together as what it says about
the data.
-/

namespace Provision.Schema

variable {α β : Type} {a : α} {es : Entries} {key second : String} {r : Reader α} {v : Value}

namespace Checked

theorem and_eq_ok {f : Checked (α → β)} {c : Checked α} {b : β} :
    f.and c = .ok b ↔ ∃ g a, f = .ok g ∧ c = .ok a ∧ g a = b := by
  cases f <;> cases c <;> simp [Checked.and]

theorem ensure_eq_ok {c : Checked α} {rule : α → Option String} :
    c.ensure rule = .ok a ↔ c = .ok a ∧ rule a = none := by
  cases c with
  | error ps => simp [ensure]
  | ok b =>
    cases hr : rule b with
    | none =>
      simp only [ensure, hr, Except.ok.injEq]
      exact ⟨fun h => ⟨h, h ▸ hr⟩, And.left⟩
    | some text =>
      simp only [ensure, hr, Except.ok.injEq, reduceCtorEq, false_iff]
      rintro ⟨rfl, hn⟩
      simp [hr] at hn

theorem under_eq_ok {c : Checked α} : c.under key = .ok a ↔ c = .ok a := by
  cases c <;> simp [under]

end Checked

theorem required_eq_ok :
    required es key second r = .ok a ↔
      ∃ used v, lookup? es key second = some (used, v) ∧ r v = .ok a := by
  unfold required
  cases lookup? es key second with
  | none => simp
  | some found =>
    obtain ⟨used, w⟩ := found
    rw [Checked.under_eq_ok]
    constructor
    · exact fun h => ⟨used, w, rfl, h⟩
    · rintro ⟨_, _, ⟨⟩, h⟩
      exact h

theorem record_eq_ok {name : String} {fields : Entries → Checked α} :
    record name fields v = .ok a ↔ ∃ es, v = .dict es ∧ fields es = .ok a := by
  cases v <;> simp [record, need]

def Worded (s : String) : Prop := s ≠ "" ∧ Text.hasSurrogate s = false

instance {s : String} : Decidable (Worded s) := inferInstanceAs (Decidable (_ ∧ _))

theorem nonEmpty_eq_ok {s : String} : nonEmpty v = .ok s ↔ v = .str s ∧ Worded s := by
  unfold Worded
  cases v with
  | str s' =>
    simp only [nonEmpty, looked, need, Value.str.injEq]
    constructor
    · intro h
      split at h
      · cases h
      · next hs =>
        split at h
        · cases h
        · next hne =>
          cases h
          exact ⟨rfl, hne, Bool.eq_false_iff.2 hs⟩
    · rintro ⟨rfl, hne, hs⟩
      simp [hs, hne]
  | _ => simp [nonEmpty, need]

theorem nonEmpty_str_eq_ok {s s' : String} : nonEmpty (.str s) = .ok s' ↔ s = s' ∧ Worded s' := by
  rw [nonEmpty_eq_ok, Value.str.injEq]

theorem optional_string_ofOption (o : Option String) :
    optional string (.ofOption o) = .ok o := by
  cases o <;> rfl

-- ---------------------------------------------------------------------------
-- Lists
-- ---------------------------------------------------------------------------

theorem cons_under_eq_ok {c : Checked α} {cons : List α → List α} :
    List.cons <$> Checked.under key c = .ok cons ↔ ∃ a, c = .ok a ∧ List.cons a = cons := by
  cases c with
  | error ps => simp [Checked.under, Functor.map, Except.map]
  | ok a => simp [Checked.under, Functor.map, Except.map]

theorem forall_mem_of_itemsFrom {P : α → Prop} (hr : ∀ v a, r v = .ok a → P a) {i : Nat}
    {vs : List Value} {as : List α} (h : itemsFrom r i vs = .ok as) : ∀ a ∈ as, P a := by
  induction vs generalizing i as with
  | nil =>
    cases h
    simp
  | cons v vs ih =>
    obtain ⟨_, rest, hcons, hrest, rfl⟩ := Checked.and_eq_ok.1 h
    obtain ⟨a, ha, rfl⟩ := cons_under_eq_ok.1 hcons
    exact List.forall_mem_cons.2 ⟨hr v a ha, ih hrest⟩

theorem forall_mem_of_list {P : α → Prop} (hr : ∀ v a, r v = .ok a → P a) {as : List α}
    (h : list r v = .ok as) : ∀ a ∈ as, P a := by
  cases v with
  | list items => exact forall_mem_of_itemsFrom hr h
  | _ => cases h

theorem list_map_eq_ok {write : α → Value} {P : α → Prop}
    (h : ∀ a b, r (write a) = .ok b ↔ a = b ∧ P a) (as bs : List α) :
    list r (.list (as.map write)) = .ok bs ↔ as = bs ∧ ∀ a ∈ as, P a := by
  show itemsFrom r 0 (as.map write) = .ok bs ↔ _
  generalize 0 = i
  induction as generalizing i bs with
  | nil => simp [itemsFrom]
  | cons a as ih =>
    simp only [List.map_cons, itemsFrom, Checked.and_eq_ok, cons_under_eq_ok, ih, h,
      List.forall_mem_cons]
    constructor
    · rintro ⟨_, _, ⟨_, ⟨rfl, ha⟩, rfl⟩, ⟨rfl, has⟩, rfl⟩
      exact ⟨rfl, ha, has⟩
    · rintro ⟨rfl, ha, has⟩
      exact ⟨_, _, ⟨a, ⟨rfl, ha⟩, rfl⟩, ⟨rfl, has⟩, rfl⟩

end Provision.Schema
