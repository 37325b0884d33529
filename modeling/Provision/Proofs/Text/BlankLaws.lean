import Mathlib.Data.List.TakeWhile
import Provision.Text.Blank

/-!
# What is left of a text without its blanks

Nothing is left of a text exactly when it is blank (`trim_eq_empty_iff`), and a text without
blanks is left as it is. From one that stands between blanks only these are taken
(`trim_between`).
-/

namespace Provision.Text

variable {cs : List Char} {s : String}

theorem trimEnd_eq_nil_iff : trimEnd cs = [] ↔ ∀ c ∈ cs, isBlank c = true := by
  simp [trimEnd, List.dropWhile_eq_nil_iff]

theorem forall_mem_trimStart_iff :
    (∀ c ∈ trimStart cs, isBlank c = true) ↔ ∀ c ∈ cs, isBlank c = true := by
  constructor
  · intro h c hc
    rw [← List.takeWhile_append_dropWhile (p := isBlank) (l := cs)] at hc
    obtain hc | hc := List.mem_append.1 hc
    · exact List.mem_takeWhile_imp hc
    · exact h c hc
  · intro h c hc
    exact h c ((List.dropWhile_sublist _).subset hc)

theorem trim_eq_empty_iff : trim s = "" ↔ isBlankText s = true := by
  rw [trim, ← String.toList_eq_nil_iff, String.toList_ofList, trimEnd_eq_nil_iff,
    forall_mem_trimStart_iff, isBlankText, List.all_eq_true]

theorem dropWhile_isBlank_of_bare (h : ∀ c ∈ cs, isBlank c = false) :
    cs.dropWhile isBlank = cs := by
  cases cs with
  | nil => rfl
  | cons c cs => simp [h c List.mem_cons_self]

theorem trim_of_bare (h : ∀ c ∈ cs, isBlank c = false) :
    trim (String.ofList cs) = String.ofList cs := by
  have hr : ∀ c ∈ cs.reverse, isBlank c = false := fun c hc => h c (List.mem_reverse.1 hc)
  rw [trim, String.toList_ofList, trimStart, dropWhile_isBlank_of_bare h, trimEnd,
    dropWhile_isBlank_of_bare hr, List.reverse_reverse]

theorem trimEnd_between {b : List Char} {y : Char} (hb : ∀ c ∈ b, isBlank c = true)
    (hy : isBlank y = false) (cs : List Char) : trimEnd (cs ++ y :: b) = cs ++ [y] := by
  have hb' : ∀ c ∈ b.reverse, isBlank c = true := fun c hc => hb c (List.mem_reverse.1 hc)
  simp [trimEnd, List.dropWhile_append_of_pos hb', hy]

theorem trim_between {b b' : List Char} {x y : Char} (hb : ∀ c ∈ b, isBlank c = true)
    (hb' : ∀ c ∈ b', isBlank c = true) (hx : isBlank x = false) (hy : isBlank y = false)
    (cs : List Char) (hs : s.toList = b ++ x :: (cs ++ y :: b')) :
    trim s = String.ofList (x :: (cs ++ [y])) := by
  have hstart : trimStart s.toList = x :: cs ++ y :: b' := by
    rw [hs, trimStart, List.dropWhile_append_of_pos hb, List.dropWhile_cons_of_neg (by simp [hx])]
    rfl
  rw [trim, hstart, trimEnd_between hb' hy]
  rfl

end Provision.Text
