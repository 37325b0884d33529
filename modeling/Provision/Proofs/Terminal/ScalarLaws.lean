import Provision.Proofs.Json.Ascii

/-!
# Texts of characters alone

A text of which every code point is a character is shown as it is. A terminal without
colours takes codes out of it, and what is left is again such a text
(`Scalar.stripCodes`).
-/

namespace Provision

open Text

namespace Text

variable {cs ds : List Char}

/-- Every code point of a text is a character: a mark is there only to stand for itself. -/
inductive Scalar : List Char → Prop
  | nil : Scalar []
  | char {c : Char} {cs : List Char} (hc : c ≠ mark) (h : Scalar cs) : Scalar (c :: cs)
  | marks {cs : List Char} (h : Scalar cs) : Scalar (mark :: mark :: cs)

theorem scalar_of_ascii (h : Ascii cs) : Scalar cs := by
  induction cs with
  | nil => exact .nil
  | cons c cs ih =>
    obtain ⟨hc, hcs⟩ := ascii_cons.1 h
    exact .char (ne_mark_of_ascii hc) (ih hcs)

theorem Scalar.append (h : Scalar cs) (hd : Scalar ds) : Scalar (cs ++ ds) := by
  induction h with
  | nil => exact hd
  | char hc _ ih => exact .char hc ih
  | marks _ ih => exact .marks ih

theorem Scalar.hasSurrogate (h : Scalar cs) : hasSurrogate (String.ofList cs) = false := by
  rw [Text.hasSurrogate, String.toList_ofList]
  induction h with
  | nil => rfl
  | @char c cs hc _ ih =>
    have hlow : isSurrogate c.toNat = false := by
      have hv := c.valid
      simp only [isSurrogate, Bool.and_eq_false_iff, decide_eq_false_iff_not]
      rcases hv with hv | ⟨hv, -⟩
      · exact .inl (Nat.not_le.2 hv)
      · exact .inr (Nat.not_le.2 hv)
    rw [points_cons_of_ne hc, List.any_cons, hlow, ih]
    rfl
  | marks _ ih =>
    rw [points_mark_cons, List.any_cons, ih]
    decide

theorem scalar_of_forall_ne (h : ∀ c ∈ cs, c ≠ mark) : Scalar cs := by
  induction cs with
  | nil => exact .nil
  | cons c cs ih =>
    obtain ⟨hc, hcs⟩ := List.forall_mem_cons.1 h
    exact .char hc (ih hcs)

theorem Scalar.left_of_append (h : Scalar (cs ++ ds)) (hd : ∀ c ∈ ds, c ≠ mark) : Scalar cs := by
  generalize hall : cs ++ ds = all at h
  induction h generalizing cs with
  | nil => exact (List.append_eq_nil_iff.1 hall).1 ▸ .nil
  | char hc _ ih =>
    cases cs with
    | nil => exact .nil
    | cons first rest =>
      obtain ⟨rfl, hrest⟩ := List.cons_eq_cons.1 hall
      exact .char hc (ih hrest)
  | marks _ ih =>
    match cs with
    | [] => exact .nil
    | [first] =>
      obtain ⟨-, rfl⟩ := List.cons_eq_cons.1 hall
      exact absurd rfl (hd mark List.mem_cons_self)
    | first :: second :: rest =>
      simp only [List.cons_append, List.cons.injEq] at hall
      obtain ⟨hfirst, hsecond, hrest⟩ := hall
      rw [hfirst, hsecond]
      exact .marks (ih hrest)

theorem pieces_of_forall_ne (h : ∀ c ∈ cs, c ≠ mark) : pieces cs = cs.map fun c => [c] := by
  induction cs with
  | nil => rfl
  | cons c cs ih =>
    obtain ⟨hc, hcs⟩ := List.forall_mem_cons.1 h
    rw [pieces_cons_of_ne cs hc, ih hcs, List.map_cons]

theorem mem_escapePoint {quote d : Char} {n : Nat} (h : d ∈ escapePoint quote n) :
    d.toNat < 0x80 ∨ d = Char.ofNat n := by
  have hhex {width : Nat} {first : Char} (hf : first.toNat < 0x80)
      (hd : d ∈ backslash :: first :: hexChars width n) : d.toNat < 0x80 :=
    ascii_cons.2 ⟨by decide, ascii_cons.2 ⟨hf, hexChars_ascii width n⟩⟩ d hd
  have hshort {first : Char} (hf : first.toNat < 0x80) (hd : d ∈ [backslash, first]) :
      d.toNat < 0x80 :=
    ascii_cons.2 ⟨by decide, ascii_cons.2 ⟨hf, ascii_nil⟩⟩ d hd
  unfold escapePoint at h
  repeat' split at h
  · rcases List.mem_cons.1 h with rfl | h
    · exact .inl (by decide)
    · exact .inr (List.mem_singleton.1 h)
  · exact .inl (hshort (by decide) h)
  · exact .inl (hshort (by decide) h)
  · exact .inl (hshort (by decide) h)
  · exact .inr (List.mem_singleton.1 h)
  · exact .inl (hhex (by decide) h)
  · exact .inl (hhex (by decide) h)
  · exact .inl (hhex (by decide) h)

theorem quotedChars_ne_mark (h : ∀ c ∈ cs, c ≠ mark) : ∀ d ∈ quotedChars cs, d ≠ mark := by
  have hquote : quoteMark cs ≠ mark := by
    unfold quoteMark
    split <;> decide
  intro d hd
  rw [quotedChars, List.mem_cons, List.mem_append, List.mem_singleton] at hd
  rcases hd with rfl | hd | rfl
  · exact hquote
  · obtain ⟨n, hn, hd⟩ := List.mem_flatMap.1 hd
    rw [points, pieces_of_forall_ne h, List.map_map] at hn
    obtain ⟨c, hc, rfl⟩ := List.mem_map.1 hn
    rcases mem_escapePoint hd with hlow | rfl
    · exact ne_mark_of_ascii hlow
    · rw [Function.comp_apply, pointOf, Char.ofNat_toNat]
      exact h c hc
  · exact hquote

theorem take_ne_mark {s : String} (n : Nat) (h : ∀ c ∈ s.toList, c ≠ mark) :
    ∀ c ∈ (take n s).toList, c ≠ mark := by
  intro c hc
  rw [take, String.toList_ofList, pieces_of_forall_ne h, List.mem_flatten] at hc
  obtain ⟨piece, hpiece, hc⟩ := hc
  obtain ⟨d, hd, rfl⟩ := List.mem_map.1 (List.mem_of_mem_take hpiece)
  exact List.mem_singleton.1 hc ▸ h d hd

theorem Scalar.of_append (h : Scalar (cs ++ ds)) (hc : ∀ c ∈ cs, c ≠ mark) : Scalar ds := by
  induction cs with
  | nil => exact h
  | cons c cs ih =>
    obtain ⟨hfirst, hrest⟩ := List.forall_mem_cons.1 hc
    rw [List.cons_append] at h
    generalize cs ++ ds = all at h ih
    cases h with
    | char _ h => exact ih h hrest
    | marks => exact absurd rfl hfirst

end Text

namespace Terminal

variable {cs : List Char}

theorem takeWhile_append_drop (p : Char → Bool) (ds : List Char) :
    ds.takeWhile p ++ ds.drop (ds.takeWhile p).length = ds := by
  have h := List.takeWhile_append_dropWhile (p := p) (l := ds)
  have hdrop : (ds.takeWhile p ++ ds.dropWhile p).drop (ds.takeWhile p).length =
      ds.dropWhile p := List.drop_left
  rw [h] at hdrop
  rw [hdrop, h]

theorem codeLength?_split {n : Nat} (h : codeLength? cs = some n) :
    ∃ code, cs = code ++ cs.drop n ∧ ∀ c ∈ code, c ≠ mark := by
  have hlow {c top : Char} (ht : top.toNat < 0x80) (hc : c ≤ top) : c ≠ mark :=
    ne_mark_of_ascii (Nat.lt_of_le_of_lt hc ht)
  unfold codeLength? at h
  dsimp only at h
  have hcs := takeWhile_append_drop (fun c => '0' ≤ c && c ≤ '?') cs
  have hparameters := List.all_takeWhile (p := fun c => '0' ≤ c && c ≤ '?') (l := cs)
  generalize cs.takeWhile (fun c => '0' ≤ c && c ≤ '?') = parameters at h hcs hparameters
  generalize cs.drop parameters.length = rest at h hcs
  have hrest := takeWhile_append_drop (fun c => ' ' ≤ c && c ≤ '/') rest
  have hbetween := List.all_takeWhile (p := fun c => ' ' ≤ c && c ≤ '/') (l := rest)
  generalize rest.takeWhile (fun c => ' ' ≤ c && c ≤ '/') = between at h hrest hbetween
  cases hd : rest.drop between.length with
  | nil => simp [hd] at h
  | cons c tail =>
    rw [hd] at h hrest
    obtain ⟨⟨-, hc⟩, rfl⟩ : ('@' ≤ c ∧ c ≤ '~') ∧ parameters.length + between.length + 1 = n := by
      simpa using h
    have hcode : cs = (parameters ++ between ++ [c]) ++ tail := by
      rw [← hcs, ← hrest]
      simp
    refine ⟨parameters ++ between ++ [c], ?_, ?_⟩
    · have hlength : parameters.length + between.length + 1 =
          (parameters ++ between ++ [c]).length := by simp [Nat.add_assoc]
      rw [hcode, hlength, List.drop_left]
    · intro d hd
      rw [List.mem_append, List.mem_append, List.mem_singleton] at hd
      rcases hd with (hd | hd) | rfl
      · have h := List.all_eq_true.1 hparameters d hd
        simp only [Bool.and_eq_true, decide_eq_true_eq] at h
        exact hlow (by decide) h.2
      · have h := List.all_eq_true.1 hbetween d hd
        simp only [Bool.and_eq_true, decide_eq_true_eq] at h
        exact hlow (by decide) h.2
      · exact hlow (by decide) hc

theorem stripCodes_cons_of_ne {c : Char} (hc : c ≠ '\x1b') (cs : List Char) :
    stripCodes (c :: cs) = c :: stripCodes cs := by
  rw [stripCodes]
  exact fun _ h => absurd h hc

theorem scalar_stripCodes (h : Scalar cs) : Scalar (stripCodes cs) := by
  induction hn : cs.length using Nat.strongRecOn generalizing cs with
  | ind n ih =>
    subst hn
    cases h with
    | nil => simpa [stripCodes] using Scalar.nil
    | @marks rest h =>
      have hmark : mark ≠ '\x1b' := by decide
      rw [stripCodes_cons_of_ne hmark, stripCodes_cons_of_ne hmark]
      exact .marks (ih rest.length (by simp only [List.length_cons]; omega) h rfl)
    | @char c rest hc h =>
      unfold stripCodes
      split
      · next rest' heq =>
        obtain ⟨rfl, rfl⟩ := List.cons_eq_cons.1 heq
        split
        · next n hcode =>
          obtain ⟨code, hsplit, hmark⟩ := codeLength?_split hcode
          have hbracket : Scalar (['['] ++ rest') := h
          have hrest : Scalar rest' := hbracket.of_append (List.forall_mem_singleton.2 (by decide))
          rw [hsplit] at hrest
          refine ih (rest'.drop n).length ?_ (hrest.of_append hmark) rfl
          simp only [List.length_drop, List.length_cons]
          omega
        · exact .char hc (ih _ (Nat.lt_succ_self _) h rfl)
      · next c' rest' hne heq =>
        obtain ⟨rfl, rfl⟩ := List.cons_eq_cons.1 heq
        exact .char hc (ih _ (Nat.lt_succ_self _) h rfl)
      · next heq => cases heq

theorem hasSurrogate_shown (color : Bool) {text : String} (h : Scalar text.toList) :
    hasSurrogate (shown color text) = false := by
  unfold shown
  split
  · rw [← String.ofList_toList (s := text)]
    exact h.hasSurrogate
  · exact (scalar_stripCodes h).hasSurrogate

end Terminal

end Provision
