import Provision.Files.Naming
import Provision.Files.Path
import Provision.Proofs.Text.Ascii

/-!
# Names and their paths

The system can be asked for a path exactly when it can be asked for each of its names
(`badName?_text_eq_none_iff`), and names that are put in between only make a path longer
(`byteCount_between_le`). Both rest on how code points are told apart at a slash
(`points_slash`).
-/

namespace Provision.Files

open Text (Ascii isSurrogate mark points)

variable {cs ds : List Char} {s : String} {names : List String}

-- ---------------------------------------------------------------------------
-- Code points at a slash
-- ---------------------------------------------------------------------------

/-- A slash is a code point of its own, unless a mark without its stand-in stands before it and
takes it along. What comes behind the slash is read afresh either way. -/
theorem points_slash (cs : List Char) :
    ∃ seam, (seam = [] ∨ seam = ['/'.toNat]) ∧
      ∀ ds, points (cs ++ '/' :: ds) = points cs ++ (seam ++ points ds) := by
  have hslash : '/' ≠ mark := by decide
  fun_induction Text.pieces cs with
  | case1 => exact ⟨['/'.toNat], .inr rfl, Text.points_cons_of_ne hslash⟩
  | case2 c =>
    by_cases hc : c = mark
    · subst hc
      refine ⟨[], .inl rfl, fun ds => ?_⟩
      have hlone : Text.pointOf [mark, '/'] = Text.pointOf [mark] := by decide
      rw [List.singleton_append, Text.points_mark_cons, hlone]
      rfl
    · refine ⟨['/'.toNat], .inr rfl, fun ds => ?_⟩
      rw [List.singleton_append, Text.points_cons_of_ne hc, Text.points_cons_of_ne hslash,
        Text.points_cons_of_ne hc]
      rfl
  | case3 d rest ih =>
    obtain ⟨seam, hseam, hrest⟩ := ih
    refine ⟨seam, hseam, fun ds => ?_⟩
    rw [List.cons_append, List.cons_append, Text.points_mark_cons, Text.points_mark_cons, hrest]
    rfl
  | case4 c d rest hc ih =>
    obtain ⟨seam, hseam, hrest⟩ := ih
    refine ⟨seam, hseam, fun ds => ?_⟩
    rw [List.cons_append, Text.points_cons_of_ne hc, Text.points_cons_of_ne hc, hrest]
    rfl

-- ---------------------------------------------------------------------------
-- Texts that the system can be asked for
-- ---------------------------------------------------------------------------

/-- No surrogates but those that stand for bytes, and no null character. -/
def Nameable (cs : List Char) : Prop :=
  (∀ n ∈ points cs, isSurrogate n = true → isByte n = true) ∧ '\x00' ∉ cs

theorem badName?_eq_none_iff : badName? s = none ↔ Nameable s.toList := by
  have hwritable : Text.unwritableFrom? isByte 0 (points s.toList) = none ↔ _ :=
    Text.unwritableFrom?_eq_none_iff
  rw [badName?, Nameable, ← hwritable]
  cases Text.unwritableFrom? isByte 0 (points s.toList) <;> simp

theorem nameable_of_ascii (h : Ascii cs) (hnull : '\x00' ∉ cs) : Nameable cs := by
  refine ⟨fun n hn hs => ?_, hnull⟩
  have hnone := List.any_eq_false.1 (Text.any_points_of_ascii h) n hn
  exact absurd hs hnone

theorem nameable_nil : Nameable [] := nameable_of_ascii Text.ascii_nil (by simp)

theorem nameable_slash : Nameable (cs ++ '/' :: ds) ↔ Nameable cs ∧ Nameable ds := by
  obtain ⟨seam, hseam, hpoints⟩ := points_slash cs
  have hplain : ∀ n ∈ seam, isSurrogate n = true → isByte n = true := by
    obtain rfl | rfl := hseam <;> decide
  have hnull : '\x00' ∈ cs ++ '/' :: ds ↔ '\x00' ∈ cs ∨ '\x00' ∈ ds := by simp
  rw [Nameable, hpoints, List.forall_mem_append, List.forall_mem_append, hnull, not_or]
  constructor
  · rintro ⟨⟨hc, -, hd⟩, hc', hd'⟩
    exact ⟨⟨hc, hc'⟩, hd, hd'⟩
  · rintro ⟨⟨hc, hc'⟩, hd, hd'⟩
    exact ⟨⟨hc, hplain, hd⟩, hc', hd'⟩

theorem nameable_intercalate :
    Nameable ("/".intercalate names).toList ↔ ∀ n ∈ names, Nameable n.toList := by
  induction names with
  | nil => exact iff_of_true nameable_nil (by simp)
  | cons n names ih =>
    cases names with
    | nil => simp
    | cons next rest =>
      rw [String.intercalate_cons_cons, String.append_assoc, String.toList_append,
        String.toList_append, List.forall_mem_cons, ← ih]
      exact nameable_slash

theorem nameable_root (root : Root) (cs : List Char) :
    Nameable ((Path.Root.text root).toList ++ cs) ↔ Nameable cs := by
  have hslash (cs : List Char) : Nameable ([] ++ '/' :: cs) ↔ Nameable cs :=
    nameable_slash.trans (and_iff_right nameable_nil)
  cases root with
  | relative => rfl
  | slash => exact hslash cs
  | doubleSlash => exact (hslash ('/' :: cs)).trans (hslash cs)

/-- The system can be asked for a path exactly when it can be asked for each of its names. -/
theorem badName?_text_eq_none_iff {p : Path} :
    badName? p.text = none ↔ ∀ n ∈ p.names, badName? n = none := by
  have hwhole : Nameable (Path.Root.text p.root ++ "/".intercalate p.names).toList ↔
      ∀ n ∈ p.names, Nameable n.toList := by
    rw [String.toList_append, nameable_root, nameable_intercalate]
  simp only [badName?_eq_none_iff]
  rw [← hwhole, Path.text]
  split
  · next hempty =>
    rw [hempty]
    exact iff_of_true (nameable_of_ascii (by decide) (by decide)) nameable_nil
  · rfl

-- ---------------------------------------------------------------------------
-- The length of a path
-- ---------------------------------------------------------------------------

def pointWidth (n : Nat) : Nat := if isByte n then 1 else (Text.pointBytes n).length

def width : List Nat → Nat
  | [] => 0
  | n :: ns => pointWidth n + width ns

theorem width_append (ns ms : List Nat) : width (ns ++ ms) = width ns + width ms := by
  induction ns with
  | nil => exact (Nat.zero_add _).symm
  | cons n ns ih => rw [List.cons_append, width, ih, width, Nat.add_assoc]

theorem foldl_pointWidth (ns : List Nat) (k : Nat) :
    ns.foldl (fun k n => k + pointWidth n) k = k + width ns := by
  induction ns generalizing k with
  | nil => rfl
  | cons n ns ih => rw [List.foldl_cons, ih, width, Nat.add_assoc]

theorem byteCount_eq_width (s : String) : byteCount s = width (points s.toList) := by
  rw [← Nat.zero_add (width _)]
  exact foldl_pointWidth (points s.toList) 0

theorem pointWidth_of_ascii {c : Char} (h : c.toNat < 0x80) : pointWidth c.toNat = 1 := by
  have hbyte : isByte c.toNat = false := by
    simp only [isByte, Bool.and_eq_false_iff, decide_eq_false_iff_not]
    omega
  rw [pointWidth, hbyte, if_neg Bool.false_ne_true, Text.pointBytes, if_pos h]
  rfl

theorem width_points_of_ascii (h : Ascii cs) : width (points cs) = cs.length := by
  induction cs with
  | nil => rfl
  | cons c cs ih =>
    obtain ⟨hc, hcs⟩ := Text.ascii_cons.1 h
    rw [Text.points_cons_of_ne (Text.ne_mark_of_ascii hc), width, pointWidth_of_ascii hc, ih hcs,
      List.length_cons, Nat.add_comm]

theorem byteCount_of_ascii (h : Ascii s.toList) : byteCount s = s.toList.length := by
  rw [byteCount_eq_width, width_points_of_ascii h]

theorem width_between_le (cs ms ds : List Char) :
    width (points (cs ++ '/' :: ds)) ≤ width (points (cs ++ '/' :: (ms ++ '/' :: ds))) := by
  obtain ⟨seam, -, hcs⟩ := points_slash cs
  obtain ⟨seam', -, hms⟩ := points_slash ms
  rw [hcs, hcs, hms]
  simp only [width_append]
  omega

def way (names : List String) : List Char := names.flatMap fun n => '/' :: n.toList

theorem way_cons (n : String) (names : List String) :
    way (n :: names) = '/' :: (n.toList ++ way names) := rfl

theorem way_append (names more : List String) : way (names ++ more) = way names ++ way more :=
  List.flatMap_append

theorem toList_text_slash (h : names ≠ []) : (Path.text ⟨.slash, names⟩).toList = way names := by
  have hwhole : (Path.Root.text .slash ++ "/".intercalate names).toList = way names := by
    rw [String.toList_append]
    induction names with
    | nil => exact absurd rfl h
    | cons n names ih =>
      cases names with
      | nil => simp [Path.Root.text, way]
      | cons next rest =>
        rw [way_cons, ← ih (by simp), String.intercalate_cons_cons]
        simp [Path.Root.text]
  have hne : Path.Root.text .slash ++ "/".intercalate names ≠ "" := by
    intro hempty
    rw [hempty] at hwhole
    cases names with
    | nil => exact h rfl
    | cons n names => simp [way] at hwhole
  rw [Path.text]
  dsimp only
  rw [if_neg hne, hwhole]

theorem byteCount_text_of_ascii (h : names ≠ []) (ha : ∀ n ∈ names, Ascii n.toList) :
    byteCount (Path.text ⟨.slash, names⟩) = (way names).length := by
  rw [byteCount_eq_width, toList_text_slash h, width_points_of_ascii]
  exact Ascii.flatMap fun n hn => Text.ascii_cons.2 ⟨by decide, ha n hn⟩

/-- Names that are put in between make a path no shorter. -/
theorem byteCount_between_le (above between : List String) (n : String) :
    byteCount (Path.text ⟨.slash, above ++ [n]⟩) ≤
      byteCount (Path.text ⟨.slash, above ++ between ++ [n]⟩) := by
  rw [byteCount_eq_width, byteCount_eq_width, toList_text_slash (by simp),
    toList_text_slash (by simp), way_append, way_append, way_append, way_cons, List.append_assoc]
  cases between with
  | nil => exact Nat.le_refl _
  | cons m between =>
    rw [way_cons, List.cons_append]
    exact width_between_le ..

end Provision.Files
