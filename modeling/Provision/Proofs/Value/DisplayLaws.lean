import Provision.Value.Display

/-!
# The text of a value says something

Only the empty string is written as the empty text.
-/

namespace Provision

namespace Decimal

theorem unsigned_ne_nil (l : Layout) (d : Digits) : l.unsigned d ≠ [] := by
  unfold Layout.unsigned
  dsimp only
  repeat' split
  all_goals simp

theorem write_ne_empty {l : Layout} (hn : l.notANumber ≠ "") (hi : l.infinite ≠ "") (x : Float) :
    l.write x ≠ "" := by
  have hsigned : ∀ (negative : Bool) (cs : List Char), cs ≠ [] →
      String.ofList (if negative then '-' :: cs else cs) ≠ "" := by
    intro negative cs hcs
    cases negative <;> simp [hcs]
  unfold Layout.write
  dsimp only
  split
  · exact hn
  · exact hsigned _ _ (by simpa using hi)
  · exact hsigned _ _ (unsigned_ne_nil l _)

end Decimal

namespace Value

theorem int_text_ne_empty (n : Int) : toString n ≠ "" := by
  cases n with
  | ofNat n =>
    have h : toString (Int.ofNat n) = n.repr := rfl
    rw [h]
    exact Nat.repr_ne_empty
  | negSucc n => simp [toString, Int.repr]

theorem text_eq_empty_iff {v : Value} : v.text = "" ↔ v = .str "" := by
  constructor
  · intro h
    cases v with
    | null => simp [text, nested, scalarText] at h
    | bool b => cases b <;> simp [text, nested, scalarText] at h
    | int n =>
      simp only [text, nested, scalarText, String.ofList_toList] at h
      exact absurd h (int_text_ne_empty n)
    | float x =>
      simp only [text, nested, scalarText, String.ofList_toList] at h
      exact absurd h (Decimal.write_ne_empty (by decide) (by decide) x)
    | str s => exact congrArg Value.str h
    | list items => simp [text, nested] at h
    | dict entries => simp [text, nested] at h
  · rintro rfl
    rfl

theorem text_ne_empty {v : Value} (h : v.truthy = true) : v.text ≠ "" := by
  intro ht
  rw [text_eq_empty_iff.1 ht] at h
  cases h

end Value

end Provision
