import Provision.Proofs.Text.Ascii
import Provision.Text.Case

/-!
# Case and size of ASCII texts

In an ASCII text each character is a code point, and only the letters from A to Z have
a lower case of their own.
-/

namespace Provision.Text

variable {s : String} {cs : List Char}

theorem pieces_of_ascii (h : Ascii cs) : pieces cs = cs.map fun c => [c] := by
  induction cs with
  | nil => rfl
  | cons c cs ih =>
    obtain ⟨hc, hcs⟩ := ascii_cons.1 h
    rw [pieces_cons_of_ne cs (ne_mark_of_ascii hc), ih hcs, List.map_cons]

theorem size_of_ascii (h : Ascii s.toList) : size s = s.length := by
  rw [size, pieces_of_ascii h, List.length_map, String.length_toList]

theorem drop_of_ascii (h : Ascii s.toList) (n : Nat) :
    drop n s = String.ofList (s.toList.drop n) := by
  rw [drop, pieces_of_ascii h, ← List.map_drop, ← List.flatMap_def, List.flatMap_singleton']

theorem forall_ascii {P : Char → Prop} (h : ∀ n < 0x80, P (Char.ofNat n)) {c : Char}
    (hc : c.toNat < 0x80) : P c := by
  have := h c.toNat hc
  rwa [Char.ofNat_toNat] at this

theorem lowerChars_of_ascii {c : Char} (hc : c.toNat < 0x80) : lowerChars c = [c.toLower] :=
  forall_ascii (P := fun c => lowerChars c = [c.toLower]) (by decide) hc

theorem lowerFrom_of_ascii (h : Ascii cs) (before : List Char) :
    lowerFrom before cs = cs.map Char.toLower := by
  induction cs generalizing before with
  | nil => rfl
  | cons c cs ih =>
    obtain ⟨hc, hcs⟩ := ascii_cons.1 h
    have hsigma : c ≠ '\u03a3' := by
      rintro rfl
      exact absurd hc (by decide)
    rw [lowerFrom, if_neg hsigma, lowerChars_of_ascii hc, ih hcs, List.map_cons,
      List.singleton_append]

theorem toLower_ascii (h : Ascii cs) : Ascii (cs.map Char.toLower) := by
  intro c hc
  obtain ⟨d, hd, rfl⟩ := List.mem_map.1 hc
  exact forall_ascii (P := fun c => c.toLower.toNat < 0x80) (by decide) (h d hd)

theorem lower_of_ascii (h : Ascii s.toList) :
    lower s = String.ofList (s.toList.map Char.toLower) := by
  rw [lower, lowerFrom_of_ascii h]

theorem isAlphanum_lt {c : Char} (h : c.isAlphanum = true) : c.toNat < 0x80 := by
  have hranges : ((c.val ≥ 'A'.val ∧ c.val ≤ 'Z'.val : Bool) ||
      (c.val ≥ 'a'.val && c.val ≤ 'z'.val) || (c.val ≥ '0'.val && c.val ≤ '9'.val)) = true := h
  simp only [Bool.or_eq_true, Bool.and_eq_true, decide_eq_true_eq, UInt32.le_iff_toNat_le,
    ge_iff_le] at hranges
  change ((65 ≤ c.toNat ∧ c.toNat ≤ 90) ∨ (97 ≤ c.toNat ∧ c.toNat ≤ 122)) ∨
    (48 ≤ c.toNat ∧ c.toNat ≤ 57) at hranges
  omega

end Provision.Text
