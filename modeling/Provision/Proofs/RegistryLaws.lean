import Mathlib.Data.List.Basic
import Mathlib.Data.List.Induction
import Provision.Registry

/-!
# The views of a registry

Registering an action writes it under its name and appends a name that is new (`get?_assign`,
`names_assign`). So all that a registry shows can be told from the actions that were registered, in
their order, the refused ones among them (`Keeps`).
-/

namespace Provision

def ActionName.Known (name : String) : Prop := ∃ key : ActionName, key.text = name

theorem ActionName.lookup?_eq_none_iff {name : String} : lookup? name = none ↔ ¬Known name := by
  rw [← Option.not_isSome_iff_eq_none, Option.isSome_iff_exists]
  exact not_congr (exists_congr fun _ => lookup?_eq_some_iff)

namespace Registry

open ActionName (Known lookup?_eq_some_iff lookup?_eq_none_iff text_injective)

variable {r : Registry} {a b : Action} {as : List Action} {key : ActionName} {name : String}

-- ---------------------------------------------------------------------------
-- Entries
-- ---------------------------------------------------------------------------

theorem lookup_put (key other : ActionName) (a : Action) (es : List (ActionName × Action)) :
    (put key a es).lookup other = if other = key then some a else es.lookup other := by
  have hne {k other : ActionName} (h : other ≠ k) : (other == k) = false := beq_false_of_ne h
  induction es with
  | nil => by_cases h : other = key <;> simp [put, List.lookup_cons, h, hne]
  | cons e es ih =>
    obtain ⟨k, b⟩ := e
    by_cases hk : k = key
    · subst hk
      by_cases h : other = k <;> simp [put, List.lookup_cons, h, hne]
    · by_cases h : other = k
      · subst h
        simp [put, hk]
      · simp [put, hk, List.lookup_cons, h, hne, ih]

theorem keys_put (key : ActionName) (a : Action) (es : List (ActionName × Action)) :
    (put key a es).map (·.1) =
      if key ∈ es.map (·.1) then es.map (·.1) else es.map (·.1) ++ [key] := by
  induction es with
  | nil => simp [put]
  | cons e es ih =>
    obtain ⟨k, b⟩ := e
    by_cases hk : k = key
    · simp [put, hk]
    · rw [put, if_neg hk, List.map_cons, ih, List.map_cons]
      by_cases hm : key ∈ es.map (·.1) <;> simp [hm, Ne.symm hk]

theorem get?_text (r : Registry) (key : ActionName) :
    r.get? key.text = r.actions.lookup key := by
  rw [get?, lookup?_eq_some_iff.2 rfl, Option.bind_some]

theorem get?_of_not_known (h : ¬Known name) : r.get? name = none := by
  rw [get?, lookup?_eq_none_iff.2 h, Option.bind_none]

theorem mem_names_iff : name ∈ r.names ↔ (r.get? name).isSome = true := by
  by_cases h : Known name
  · obtain ⟨key, rfl⟩ := h
    rw [get?_text, List.lookup_isSome_iff, names, List.mem_map]
    constructor
    · rintro ⟨e, he, htext⟩
      exact ⟨e, he, by simp [text_injective htext]⟩
    · rintro ⟨e, he, hkey⟩
      exact ⟨e, he, by rw [eq_of_beq hkey]⟩
  · rw [get?_of_not_known h]
    refine iff_of_false (fun hm => h ?_) (by simp)
    obtain ⟨e, -, htext⟩ := List.mem_map.1 hm
    exact ⟨e.1, htext⟩

-- ---------------------------------------------------------------------------
-- One registration
-- ---------------------------------------------------------------------------

def assign (r : Registry) (key : ActionName) (a : Action) : Registry :=
  { r with actions := put key a r.actions }

theorem register_of_known (r : Registry) (h : key.text = a.name) :
    ∃ records, r.register a = ⟨r.assign key a, none, records⟩ := by
  rw [register, lookup?_eq_some_iff.2 h]
  exact ⟨_, rfl⟩

theorem register_of_not_known (r : Registry) (h : ¬Known a.name) :
    r.register a = ⟨r, some (unknownName a.name), []⟩ := by
  rw [register, lookup?_eq_none_iff.2 h]

theorem registry_of_known (r : Registry) (h : key.text = a.name) :
    (r.register a).registry = r.assign key a := by
  obtain ⟨records, hr⟩ := r.register_of_known h
  rw [hr]

theorem registry_of_not_known (r : Registry) (h : ¬Known a.name) :
    (r.register a).registry = r := by
  rw [r.register_of_not_known h]

theorem get?_assign (r : Registry) (key : ActionName) (a : Action) (name : String) :
    (r.assign key a).get? name = if name = key.text then some a else r.get? name := by
  by_cases h : Known name
  · obtain ⟨other, rfl⟩ := h
    rw [get?_text, get?_text, assign, lookup_put]
    by_cases hk : other = key
    · simp [hk]
    · rw [if_neg hk, if_neg fun ht => hk (text_injective ht)]
  · rw [get?_of_not_known h, get?_of_not_known h, if_neg fun ht => h ⟨key, ht.symm⟩]

theorem names_assign (r : Registry) (key : ActionName) (a : Action) :
    (r.assign key a).names =
      if key.text ∈ r.names then r.names else r.names ++ [key.text] := by
  have hmap (r : Registry) : r.names = (r.actions.map (·.1)).map ActionName.text := by
    rw [names, List.map_map]
    rfl
  have hmem : key.text ∈ r.names ↔ key ∈ r.actions.map (·.1) := by
    rw [hmap, List.mem_map_of_injective fun _ _ h => text_injective h]
  rw [hmap (r.assign key a), assign, keys_put]
  by_cases hk : key ∈ r.actions.map (·.1)
  · rw [if_pos hk, if_pos (hmem.2 hk), hmap]
  · rw [if_neg hk, if_neg (mt hmem.1 hk), List.map_append, ← hmap]
    rfl

-- ---------------------------------------------------------------------------
-- A row of registrations
-- ---------------------------------------------------------------------------

/-- A registry after some registrations, each tried whatever came of those before it. -/
def after (r : Registry) (as : List Action) : Registry :=
  as.foldl (fun r a => (r.register a).registry) r

theorem engine_after (r : Registry) (as : List Action) : (r.after as).engine = r.engine := by
  induction as generalizing r with
  | nil => rfl
  | cons a as ih =>
    refine (ih _).trans ?_
    dsimp only
    by_cases h : Known a.name
    · obtain ⟨key, hkey⟩ := h
      rw [r.registry_of_known hkey]
      rfl
    · rw [r.registry_of_not_known h]

theorem find?_reverse_concat (as : List Action) (a : Action) (name : String) :
    (as ++ [a]).reverse.find? (fun b => b.name = name) =
      if a.name = name then some a else as.reverse.find? (fun b => b.name = name) := by
  rw [List.reverse_append, List.reverse_singleton, List.singleton_append, List.find?_cons]
  by_cases hn : a.name = name <;> simp [hn]

/-- A registry that shows what a row of registrations has left in it. -/
structure Keeps (as : List Action) (r : Registry) : Prop where
  get : ∀ name a, r.get? name = some a ↔
    Known name ∧ as.reverse.find? (fun b => b.name = name) = some a
  ordered : r.names.Pairwise fun m n =>
    (as.map (·.name)).idxOf m < (as.map (·.name)).idxOf n

namespace Keeps

theorem empty (engine : String) : Keeps [] (empty engine) where
  get name a := by
    cases h : ActionName.lookup? name <;> simp [get?, Registry.empty, h]
  ordered := .nil

theorem mem_names_iff (h : Keeps as r) :
    name ∈ r.names ↔ Known name ∧ name ∈ as.map (·.name) := by
  rw [Registry.mem_names_iff, Option.isSome_iff_exists]
  simp only [h.get, exists_and_left, ← Option.isSome_iff_exists, List.find?_isSome,
    List.mem_reverse, List.mem_map, decide_eq_true_eq]

theorem ordered_append (h : Keeps as r) (bs : List Action) : r.names.Pairwise fun m n =>
    ((as ++ bs).map (·.name)).idxOf m < ((as ++ bs).map (·.name)).idxOf n := by
  refine h.ordered.imp_of_mem fun hm hn hlt => ?_
  rwa [List.map_append, List.idxOf_append_of_mem (h.mem_names_iff.1 hm).2,
    List.idxOf_append_of_mem (h.mem_names_iff.1 hn).2]

theorem assign (h : Keeps as r) (hkey : key.text = a.name) :
    Keeps (as ++ [a]) (r.assign key a) := by
  constructor
  · intro name b
    rw [get?_assign, find?_reverse_concat, hkey]
    by_cases hn : a.name = name
    · rw [if_pos hn.symm, if_pos hn]
      exact (and_iff_right ⟨key, hkey.trans hn⟩).symm
    · rw [if_neg (Ne.symm hn), if_neg hn]
      exact h.get name b
  · rw [names_assign, hkey]
    split
    · exact h.ordered_append [a]
    · next hnew =>
      have hfresh : a.name ∉ as.map (·.name) := fun hm =>
        hnew (h.mem_names_iff.2 ⟨⟨key, hkey⟩, hm⟩)
      refine List.pairwise_append.2
        ⟨h.ordered_append [a], List.pairwise_singleton .., fun m hm n hn => ?_⟩
      obtain rfl := List.mem_singleton.1 hn
      have hplace := (h.mem_names_iff.1 hm).2
      rw [List.map_append, List.idxOf_append_of_mem hplace, List.idxOf_append_of_notMem hfresh]
      exact Nat.lt_add_right _ (List.idxOf_lt_length_of_mem hplace)

theorem refuse (h : Keeps as r) (ha : ¬Known a.name) : Keeps (as ++ [a]) r := by
  refine ⟨fun name b => ?_, h.ordered_append [a]⟩
  rw [h.get, find?_reverse_concat]
  refine and_congr_right fun hname => ?_
  rw [if_neg fun hn : a.name = name => ha (hn ▸ hname)]

theorem register (h : Keeps as r) (a : Action) :
    Keeps (as ++ [a]) (r.register a).registry := by
  by_cases ha : Known a.name
  · obtain ⟨key, hkey⟩ := ha
    rw [r.registry_of_known hkey]
    exact h.assign hkey
  · rw [r.registry_of_not_known ha]
    exact h.refuse ha

theorem after (engine : String) (as : List Action) :
    Keeps as ((Registry.empty engine).after as) := by
  induction as using List.reverseRecOn with
  | nil => exact .empty engine
  | append_singleton as a ih =>
    rw [Registry.after, List.foldl_append]
    exact ih.register a

end Keeps

structure Agrees (as : List Action) (r : Registry) : Prop extends Keeps as r where
  resolve_ok : ∀ name a, r.resolve name = .ok a ↔ r.get? name = some a
  resolve_error : ∀ name f, r.resolve name = .error f ↔
    r.get? name = none ∧ f = .unknownAction name r.engine
  contains : ∀ v, r.contains v = true ↔ ∃ name, v = .str name ∧ (r.get? name).isSome = true
  mem_names : ∀ name, name ∈ r.names ↔ (r.get? name).isSome = true
  nodup : r.names.Nodup
  size : r.size = r.names.length

theorem resolve_of_get?_none (h : r.get? name = none) :
    r.resolve name = .error (.unknownAction name r.engine) := by
  rw [resolve, h]

theorem resolve_of_get?_some (h : r.get? name = some a) : r.resolve name = .ok a := by
  rw [resolve, h]

theorem Keeps.agrees (h : Keeps as r) : Agrees as r where
  toKeeps := h
  resolve_ok name a := by
    cases hg : r.get? name with
    | none => simp [resolve_of_get?_none hg]
    | some b => simp [resolve_of_get?_some hg]
  resolve_error name f := by
    cases hg : r.get? name with
    | none => simp [resolve_of_get?_none hg, eq_comm]
    | some b => simp [resolve_of_get?_some hg]
  contains v := by
    cases v with
    | str name => simp [Registry.contains]
    | _ => simp [Registry.contains]
  mem_names _ := Registry.mem_names_iff
  nodup := by
    refine h.ordered.imp ?_
    rintro name _ hlt rfl
    exact Nat.lt_irrefl _ hlt
  size := (List.length_map ..).symm

/-- Whatever registrations have been tried, all views of a registry tell of the same names, and of
the last action registered under each. The names are listed once each, in the order in which they
were first registered. A registration is refused exactly when its name is not known, and then it
leaves the registry as it was. -/
theorem views_agree (engine : String) (as : List Action) :
    Agrees as ((empty engine).after as) ∧ ((empty engine).after as).engine = engine ∧
    ∀ a, ((∃ f, (((empty engine).after as).register a).raised = some f) ↔ ¬Known a.name) ∧
      ∀ f, (((empty engine).after as).register a).raised = some f →
        f = unknownName a.name ∧
          (((empty engine).after as).register a).registry = (empty engine).after as := by
  refine ⟨(Keeps.after engine as).agrees, engine_after .., fun a => ?_⟩
  by_cases h : Known a.name
  · obtain ⟨key, hkey⟩ := h
    obtain ⟨records, hr⟩ := ((empty engine).after as).register_of_known hkey
    rw [hr]
    exact ⟨iff_of_false (by simp) (not_not.2 ⟨key, hkey⟩), by simp⟩
  · rw [register_of_not_known _ h]
    refine ⟨iff_of_true ⟨_, rfl⟩ h, ?_⟩
    rintro f ⟨⟩
    exact ⟨rfl, rfl⟩

end Registry

end Provision
