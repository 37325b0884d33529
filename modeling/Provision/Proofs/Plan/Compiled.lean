import Provision.Plan.Engine
import Provision.Proofs.Plan.HookLaws

/-!
# What compiling leaves behind

Compiling that ends well has run all hooks, and what they have built has passed the
check (`Build.Sound`, `compile_ok`). The tree is then what the skips leave of all groups.
Compiling that fails leaves no tree (`compile_cases`).
-/

namespace Provision

theorem bind_ok {ε α β : Type} {x : Except ε α} {f : α → Except ε β} {c : β} :
    x >>= f = .ok c ↔ ∃ a, x = .ok a ∧ f a = .ok c := by
  cases x <;> simp [bind, Except.bind]

theorem error_bind {ε α β : Type} (e : ε) (f : α → Except ε β) :
    (Except.error e >>= f) = .error e := rfl

theorem ite_error_eq_ok {ε α : Type} {c : Prop} [Decidable c] {e : ε} {x : Except ε α} {a : α} :
    (if c then .error e else x) = .ok a ↔ ¬c ∧ x = .ok a := by
  by_cases h : c <;> simp [h]

theorem bind_error {ε α β : Type} {x : Except ε α} {f : α → Except ε β} {e : ε} :
    x >>= f = .error e ↔ x = .error e ∨ ∃ a, x = .ok a ∧ f a = .error e := by
  cases x <;> simp [bind, Except.bind]

theorem ite_error_eq_error {ε α : Type} {c : Prop} [Decidable c] {e e' : ε} {x : Except ε α} :
    (if c then .error e else x) = .error e' ↔ c ∧ e = e' ∨ ¬c ∧ x = .error e' := by
  by_cases h : c <;> simp [h]

theorem Setting.items_ofStrings (ss : List String) :
    items (.ofStrings ss) = .ok (ss.map .str) := by
  cases ss <;> rfl

namespace Setting

variable {s s' : Setting} {a : Assignment}

theorem assign_ok_iff :
    s.assign a = .ok s' ↔ (s.frozen = false ∨ isRunMark a = true) ∧ s' = s.write a := by
  unfold assign
  cases s.frozen <;> cases isRunMark a <;> simp [eq_comm]

theorem assign_of_frozen (hs : s.frozen = true) (ha : isRunMark a = false) :
    s.assign a = .error (readOnly a) := by
  simp [assign, hs, ha]

theorem assign_error {f : Fault} (h : s.assign a = .error f) : f.isCondition = true := by
  unfold assign at h
  split at h <;> cases h
  rfl

end Setting

namespace Plan

open Recipe (Document Group)

theorem names_ofStrings (ss : List String) : names (.ofStrings ss) = .ok ss := by
  have hfind : (ss.map Value.str).find? (!hashable ·) = none := by simp [hashable]
  have hnames : (ss.map Value.str).filterMap Value.asString? = ss := by
    simp [List.filterMap_map, Function.comp_def, Value.asString?]
  simp [names, Setting.items_ofStrings, bind, Except.bind, hfind, hnames]

variable {π : Type} {b : Build π} {d : Document} {groups : List Group} {st : Setting}

/-- What a build must be like for a tree to be made from it. -/
structure Build.Sound (b : Build π) (d : Document) (groups : List Group) : Prop where
  actions : b.registry.size ≠ 0
  groups : b.groups d = .ok groups
  target : ∃ t, b.setting.target = some t ∧ t.aliasName ≠ ""
  skipActions : isList b.setting.skipActions = true
  skipGroups : isList b.setting.skipGroups = true
  incomplete : b.setting.frozen = false

theorem Build.checked_sound (h : b.checked d = .ok (groups, st)) :
    b.Sound d groups ∧ st = { b.setting with initialized := .bool true } := by
  simp only [Build.checked, invalid, invalidContext, error_bind, ite_error_eq_ok, bind_ok] at h
  obtain ⟨hsize, gs, hg, ht, ha, hs, st', hst, h⟩ := h
  cases h
  obtain ⟨hopen, rfl⟩ := Setting.assign_ok_iff.1 hst
  refine ⟨⟨hsize, hg, ?_, by simpa using ha, by simpa using hs, ?_⟩, rfl⟩
  · cases hb : b.setting.target with
    | none => simp [hb] at ht
    | some t => exact ⟨t, rfl, by simpa [hb] using ht⟩
  · rcases hopen with hopen | hmark
    · exact hopen
    · cases hmark

theorem Build.groups_error {f : Fault} (h : b.groups d = .error f) : f.isCondition = true := by
  unfold Build.groups at h
  split at h
  · dsimp only at h
    split at h <;> cases h
    rfl
  · cases h
    rfl
  · cases h
    rfl

theorem Build.checked_error {f : Fault} (h : b.checked d = .error f) : f.isCondition = true := by
  simp only [Build.checked, invalid, invalidContext, error_bind, ite_error_eq_error, bind_error] at h
  rcases h with ⟨-, rfl⟩ | ⟨-, hg | ⟨_, -, h⟩⟩
  · rfl
  · exact Build.groups_error hg
  · rcases h with ⟨-, rfl⟩ | ⟨-, ⟨-, rfl⟩ | ⟨-, ⟨-, rfl⟩ | ⟨-, hs | ⟨_, -, ⟨⟩⟩⟩⟩⟩
    · rfl
    · rfl
    · rfl
    · exact Setting.assign_error hs

namespace Engine

structure Ready (e : Engine) (groups : Tree) (st : Setting) (t : Recipe.Target)
    (d : Recipe.Document) : Prop where
  tree : e.tree = some groups
  setting : e.setting = some st
  target : st.target = some t
  document : e.document = some d

variable {m : Make π} {e : Engine} {src : Source} {choices : Choices} {asked : π}

/-- What has come about when a recipe has been compiled. -/
structure Compiled (m : Make π) (e : Engine) (src : Source) (choices : Choices) (asked : π)
    (b : Build π) (gs : List Group) (sk : Skips) : Prop where
  hooks : (runHooks m src.document Phase.all).run.run (slate m.type src choices asked) = (.ok (), b)
  sound : b.Sound src.document gs
  skips : skips b.setting = .ok sk
  engine : (e.compile m src choices asked).engine = e.holding src.document b
    { b.setting with initialized := .bool true } (some (Tree.ofGroups sk gs))
  asked : (e.compile m src choices asked).asked = b.asked

/-- Why compiling fails: nothing was validated, a hook stopped, the check found something, or
what is to be skipped cannot be read. -/
inductive Failed (m : Make π) (src : Source) (choices : Choices) (asked : π) : Fault → Prop
  | unvalidated (hv : src.validated.truthy = false) : Failed m src choices asked unvalidated
  | hooks {f : Fault} {b : Build π}
      (hr : (runHooks m src.document Phase.all).run.run (slate m.type src choices asked) =
        (.error f, b)) : Failed m src choices asked f
  | unchecked {f : Fault} {b : Build π}
      (hr : (runHooks m src.document Phase.all).run.run (slate m.type src choices asked) =
        (.ok (), b))
      (hc : b.checked src.document = .error f) : Failed m src choices asked f
  | unreadable {f : Fault} {b : Build π} {groups : List Group} {st : Setting}
      (hr : (runHooks m src.document Phase.all).run.run (slate m.type src choices asked) =
        (.ok (), b))
      (hc : b.checked src.document = .ok (groups, st)) (hs : Plan.skips st = .error f) :
      Failed m src choices asked f

theorem compile_unvalidated (hv : src.validated.truthy = false) :
    e.compile m src choices asked = ⟨e, .error unvalidated, asked, [], []⟩ := by
  simp [compile, hv]

/-- Compiling what was validated fails and leaves no tree, or all has come about. -/
theorem compile_cases (m : Make π) (e : Engine) (choices : Choices) (asked : π)
    (hv : src.validated.truthy = true) :
    (∃ (f : Fault) (b : Build π) (setting : Setting),
        (e.compile m src choices asked).result = .error f ∧ Failed m src choices asked f ∧
        (e.compile m src choices asked).engine = e.holding src.document b setting none) ∨
      (e.compile m src choices asked).result = .ok () ∧
        ∃ b groups sk, Compiled m e src choices asked b groups sk := by
  cases hr : (runHooks m src.document Phase.all).run.run (slate m.type src choices asked) with
  | mk result b =>
    cases result with
    | error f =>
      refine .inl ⟨f, b, b.setting, ?_, .hooks hr, ?_⟩
      · simp [compile, hv, hr]
      · simp [compile, hv, hr]
    | ok _ =>
      cases hc : b.checked src.document with
      | error f =>
        refine .inl ⟨f, b, b.setting, ?_, .unchecked hr hc, ?_⟩
        · simp [compile, hv, hr, hc]
        · simp [compile, hv, hr, hc]
      | ok checked =>
        obtain ⟨groups, st⟩ := checked
        cases hs : Plan.skips st with
        | error f =>
          refine .inl ⟨f, b, st, ?_, .unreadable hr hc hs, ?_⟩
          · simp [compile, hv, hr, hc, hs]
          · simp [compile, hv, hr, hc, hs]
        | ok sk =>
          obtain ⟨hb, rfl⟩ := Build.checked_sound hc
          refine .inr ⟨?_, b, groups, sk, hr, hb, hs, ?_, ?_⟩
          · simp [compile, hv, hr, hc, hs]
          · simp [compile, hv, hr, hc, hs]
          · simp [compile, hv, hr, hc, hs]

theorem compile_ok (h : (e.compile m src choices asked).result = .ok ()) :
    ∃ b groups sk, Compiled m e src choices asked b groups sk := by
  cases hv : src.validated.truthy with
  | false => simp [compile_unvalidated hv] at h
  | true =>
    obtain ⟨f, b, setting, hf, -, -⟩ | ⟨-, hc⟩ := compile_cases m e choices asked hv
    · rw [hf] at h
      cases h
    · exact hc

theorem compile_error {f : Fault} (h : (e.compile m src choices asked).result = .error f) :
    Failed m src choices asked f := by
  cases hv : src.validated.truthy with
  | false =>
    obtain rfl : unvalidated = f := by simpa [compile_unvalidated hv] using h
    exact .unvalidated hv
  | true =>
    obtain ⟨g, b, setting, hg, hfailed, -⟩ | ⟨hok, -⟩ := compile_cases m e choices asked hv
    · obtain rfl : g = f := Except.error.inj (hg.symm.trans h)
      exact hfailed
    · rw [hok] at h
      cases h

theorem Compiled.ready {b : Build π} {groups : List Group} {sk : Skips}
    (h : Compiled m e src choices asked b groups sk) :
    ∃ t, (e.compile m src choices asked).engine.Ready (Tree.ofGroups sk groups)
      { b.setting with initialized := .bool true } t src.document := by
  obtain ⟨t, ht, -⟩ := h.sound.target
  rw [h.engine]
  exact ⟨t, rfl, rfl, ht, rfl⟩

end Engine

end Plan

end Provision
