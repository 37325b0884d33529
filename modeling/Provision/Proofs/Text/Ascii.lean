import Provision.Text.Hex
import Provision.Text.Points

/-!
# ASCII texts

A text in ASCII holds no half of a surrogate pair, and it neither adds one nor takes
one away where it is put before or behind another text.
-/

namespace Provision.Text

variable {cs ds : List Char} {c : Char}

def Ascii (cs : List Char) : Prop := ∀ c ∈ cs, c.toNat < 0x80

instance (cs : List Char) : Decidable (Ascii cs) :=
  List.decidableBAll (fun c : Char => c.toNat < 0x80) cs

theorem ascii_nil : Ascii [] := by simp [Ascii]

theorem ascii_cons : Ascii (c :: cs) ↔ c.toNat < 0x80 ∧ Ascii cs := List.forall_mem_cons

theorem ascii_append : Ascii (cs ++ ds) ↔ Ascii cs ∧ Ascii ds := List.forall_mem_append

theorem Ascii.mono (h : Ascii cs) (hs : ds ⊆ cs) : Ascii ds := fun c hc => h c (hs hc)

theorem Ascii.flatMap {α : Type} {f : α → List Char} {as : List α} (h : ∀ a ∈ as, Ascii (f a)) :
    Ascii (as.flatMap f) := by
  intro c hc
  obtain ⟨a, ha, hc⟩ := List.mem_flatMap.1 hc
  exact h a ha c hc

theorem ascii_replicate (n : Nat) (h : c.toNat < 0x80) : Ascii (List.replicate n c) := by
  intro d hd
  obtain rfl := List.eq_of_mem_replicate hd
  exact h

theorem hexDigit_ascii : ∀ n < 16, (hexDigit n).toNat < 0x80 := by decide

theorem hexChars_ascii (width n : Nat) : Ascii (hexChars width n) := by
  induction width generalizing n with
  | zero => exact ascii_nil
  | succ width ih =>
    refine ascii_append.2 ⟨ih _, ascii_cons.2 ⟨hexDigit_ascii _ ?_, ascii_nil⟩⟩
    exact Nat.mod_lt _ (by decide)

-- ---------------------------------------------------------------------------
-- Surrogates
-- ---------------------------------------------------------------------------

theorem ne_mark_of_ascii (h : c.toNat < 0x80) : c ≠ mark := by
  rintro rfl
  exact absurd h (by decide)

theorem points_cons_of_ne (hc : c ≠ mark) (ds : List Char) :
    points (c :: ds) = c.toNat :: points ds := by
  rw [points, pieces_cons_of_ne ds hc]
  rfl

theorem points_mark_cons (c : Char) (ds : List Char) :
    points (mark :: c :: ds) = pointOf [mark, c] :: points ds := by
  simp [points, pieces]

theorem any_points_ascii_append (h : Ascii cs) (ds : List Char) :
    (points (cs ++ ds)).any isSurrogate = (points ds).any isSurrogate := by
  induction cs with
  | nil => rfl
  | cons c cs ih =>
    obtain ⟨hc, hcs⟩ := ascii_cons.1 h
    have hlow : isSurrogate c.toNat = false := by
      have hle : ¬0xd800 ≤ c.toNat := by omega
      simp [isSurrogate, hle]
    rw [List.cons_append, points_cons_of_ne (ne_mark_of_ascii hc), List.any_cons, hlow, ih hcs]
    rfl

theorem any_points_of_ascii (h : Ascii cs) : (points cs).any isSurrogate = false := by
  rw [← List.append_nil cs, any_points_ascii_append h]
  rfl

theorem any_points_append_ascii (h : Ascii ds) (cs : List Char) :
    (points (cs ++ ds)).any isSurrogate = (points cs).any isSurrogate := by
  fun_induction pieces cs with
  | case1 => exact any_points_of_ascii h
  | case2 c =>
    by_cases hc : c = mark
    · -- A mark at the end takes the next character with it, which is no stand-in.
      subst hc
      cases ds with
      | nil => rfl
      | cons d ds =>
        obtain ⟨hd, hds⟩ := ascii_cons.1 h
        have hn : d.toNat - standInDistance = 0 := by
          unfold standInDistance
          omega
        rw [List.singleton_append, points_mark_cons, List.any_cons, any_points_of_ascii hds]
        simp only [pointOf, hn]
        decide
    · rw [List.singleton_append, points_cons_of_ne hc, points_cons_of_ne hc, List.any_cons,
        any_points_of_ascii h]
      rfl
  | case3 d rest ih =>
    rw [List.cons_append, List.cons_append, points_mark_cons, points_mark_cons, List.any_cons,
      List.any_cons, ih]
  | case4 c d rest hc ih =>
    rw [List.cons_append, points_cons_of_ne hc, points_cons_of_ne hc, List.any_cons, List.any_cons,
      ih]

theorem hasSurrogate_ascii_append {s t : String} (h : Ascii s.toList) :
    hasSurrogate (s ++ t) = hasSurrogate t := by
  rw [hasSurrogate, String.toList_append]
  exact any_points_ascii_append h t.toList

theorem hasSurrogate_append_ascii {s t : String} (h : Ascii t.toList) :
    hasSurrogate (s ++ t) = hasSurrogate s := by
  rw [hasSurrogate, String.toList_append]
  exact any_points_append_ascii h s.toList

theorem hasSurrogate_of_ascii {s : String} (h : Ascii s.toList) : hasSurrogate s = false :=
  any_points_of_ascii h

theorem ofPoint_of_ascii (h : c.toNat < 0x80) : ofPoint c.toNat = [c] := by
  have hs : isSurrogate c.toNat = false := by
    simp only [isSurrogate, Bool.and_eq_false_iff, decide_eq_false_iff_not]
    omega
  rw [ofPoint, if_neg (ne_true_of_eq_false hs), if_neg (by omega), Char.ofNat_toNat]

theorem ofChars_of_ascii (h : Ascii cs) : ofChars cs = cs := by
  unfold ofChars
  induction cs with
  | nil => rfl
  | cons c cs ih =>
    obtain ⟨hc, hcs⟩ := ascii_cons.1 h
    rw [List.flatMap_cons, ofPoint_of_ascii hc, ih hcs]
    rfl

end Provision.Text
