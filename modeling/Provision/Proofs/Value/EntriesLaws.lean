import Provision.Value

/-!
# Merging entries

Where entries are merged into others, those that are new count (`get?_merge`). A merge
into nothing has every key once, whatever was merged.
-/

namespace Provision.Entries

variable {key : String} {v : Value} {old new es : Entries}

theorem get?_eq_none_iff : es.get? key = none ↔ key ∉ keys es := by
  induction es with
  | nil => simp [get?, keys]
  | cons e rest ih =>
    obtain ⟨k, w⟩ := e
    by_cases h : k = key
    · simp [get?, keys, h]
    · simpa [get?, keys, h, Ne.symm h] using ih

theorem mem_keys_of_get? (h : es.get? key = some v) : key ∈ keys es := by
  refine Classical.byContradiction fun hk => ?_
  rw [get?_eq_none_iff.2 hk] at h
  cases h

theorem get?_append : get? key (old ++ new) = (get? key old).or (get? key new) := by
  induction old with
  | nil => rfl
  | cons e old ih =>
    obtain ⟨k, w⟩ := e
    by_cases h : k = key
    · simp [get?, h]
    · simpa [get?, h] using ih

theorem get?_merge_of_not_mem (h : key ∉ keys new) : get? key (merge old new) = old.get? key := by
  induction new generalizing old with
  | nil => rfl
  | cons e new ih =>
    obtain ⟨hk, hnew⟩ := not_or.1 (mt List.mem_cons.2 h)
    have hrest := @ih (old.put e.1 e.2) hnew
    rwa [get?_put_of_ne hk] at hrest

/-- A merge holds what is new, and what was there where nothing new is. -/
theorem get?_merge (hn : (keys new).Nodup) :
    get? key (merge old new) = (new.get? key).or (old.get? key) := by
  induction new generalizing old with
  | nil => rfl
  | cons e new ih =>
    obtain ⟨k, w⟩ := e
    obtain ⟨hk, hn⟩ := List.nodup_cons.1 hn
    by_cases hkey : k = key
    · subst hkey
      calc get? k (merge (old.put k w) new) = get? k (old.put k w) := get?_merge_of_not_mem hk
        _ = some w := get?_put_self k w old
        _ = (get? k ((k, w) :: new)).or (old.get? k) := by simp [get?]
    · have hput : get? key (old.put k w) = old.get? key := get?_put_of_ne (Ne.symm hkey) w old
      have hcons : get? key ((k, w) :: new) = get? key new := by simp [get?, hkey]
      rw [hcons, ← hput]
      exact ih hn

theorem get?_merge_congr {old' : Entries} (h : get? key old = get? key old') (new : Entries) :
    get? key (merge old new) = get? key (merge old' new) := by
  induction new generalizing old old' with
  | nil => exact h
  | cons e new ih => exact ih (by simp only [get?_put, h])

theorem get?_of_mem (hn : (keys es).Nodup) (h : (key, v) ∈ es) : es.get? key = some v := by
  induction es with
  | nil => cases h
  | cons e es ih =>
    obtain ⟨k, w⟩ := e
    obtain ⟨hk, hn⟩ := List.nodup_cons.1 hn
    obtain heq | h := List.mem_cons.1 h
    · cases heq
      simp [get?]
    · have hne : k ≠ key := by
        rintro rfl
        exact hk (List.mem_map.2 ⟨_, h, rfl⟩)
      simp [get?, hne, ih hn h]

theorem nodup_keys_merge (h : (keys old).Nodup) : (keys (merge old new)).Nodup := by
  induction new generalizing old with
  | nil => exact h
  | cons e new ih =>
    refine ih ?_
    rw [keys_put]
    split
    · exact h
    · next hk =>
      have hother : ∀ k ∈ keys old, ∀ k' ∈ [e.1], k ≠ k' := by
        intro k hmem k' hk' heq
        exact hk (List.mem_singleton.1 hk' ▸ heq ▸ hmem)
      exact List.nodup_append.2 ⟨h, by simp, hother⟩

theorem nodup_keys_ofPairs (pairs : List (String × Value)) : (keys (ofPairs pairs)).Nodup :=
  nodup_keys_merge List.nodup_nil

end Provision.Entries
