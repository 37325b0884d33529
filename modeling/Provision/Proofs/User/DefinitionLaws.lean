import Provision.User.Definition

/-!
# What a user definition says

The permission sets of a definition are a list of texts, or there are none
(`permissionSets_eq_ok_iff`). All keys that are no instructions are fields of the record, and it
is written out as soon as there is one (`recordValues_eq_empty_iff`).
-/

namespace Provision.User

variable {definition : Entries} {permsets : List String}

theorem texts?_eq_some_iff {items : List Value} {texts : List String} :
    texts? items = some texts ↔ items = texts.map .str := by
  induction items generalizing texts with
  | nil => cases texts <;> simp [texts?]
  | cons v items ih =>
    cases v with
    | str s =>
      cases texts with
      | nil => simp [texts?]
      | cons t texts =>
        rw [texts?, Option.map_eq_some_iff]
        simp only [ih]
        grind
    | _ => cases texts <;> simp [texts?]

theorem permissionSets_eq_ok_iff :
    permissionSets definition = .ok permsets ↔
      ((definition.getD "permsets").truthy = false ∧ permsets = []) ∨
        definition.getD "permsets" = .ofStrings permsets := by
  unfold permissionSets
  dsimp only
  cases h : (definition.getD "permsets").truthy with
  | false =>
    -- Of lists of names only the empty one counts as none.
    have hempty : definition.getD "permsets" = .ofStrings permsets → permsets = [] := by
      intro hv
      rw [hv] at h
      simpa [Value.ofStrings, Value.truthy] using h
    simp only [Bool.not_false, ↓reduceIte, Except.ok.injEq, true_and]
    rw [or_iff_left_of_imp hempty, eq_comm]
  | true =>
    simp only [Bool.not_true, Bool.false_eq_true, ↓reduceIte, Bool.true_eq_false, false_and,
      false_or]
    cases definition.getD "permsets" with
    | list items =>
      dsimp only
      rw [Value.ofStrings, Value.list.injEq, ← texts?_eq_some_iff]
      cases texts? items <;> simp
    | _ => simp [Value.ofStrings]

theorem pairChars_ne_nil (key : String) (value : Value) : pairChars key value ≠ [] := by
  simp [pairChars]

theorem joinChars_eq_nil_iff {between : List Char} {texts : List (List Char)}
    (h : ∀ text ∈ texts, text ≠ []) : Value.joinChars between texts = [] ↔ texts = [] := by
  match texts with
  | [] => simp [Value.joinChars]
  | [text] => simpa [Value.joinChars] using h
  | text :: next :: rest => simpa [Value.joinChars] using fun htext => absurd htext (h text (by simp))

theorem recordValues_eq_empty_iff :
    recordValues definition = "" ↔ ∀ key ∈ Entries.keys definition, key ∈ instructions := by
  have hne : ∀ text ∈ (recordFields definition).map fun e => pairChars e.1 e.2, text ≠ [] := by
    intro text htext
    obtain ⟨e, -, rfl⟩ := List.mem_map.1 htext
    exact pairChars_ne_nil _ _
  rw [recordValues, String.ofList_eq_empty_iff, joinChars_eq_nil_iff hne]
  simp [recordFields, Entries.keys]

end Provision.User
