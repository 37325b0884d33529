import Provision.Files
import Provision.Proofs.Files.NamingLaws

/-!
# Looking something up

What a look-up comes upon stands under directories all the way from the root, where two dots have
led upwards (`stat_ok`). Under such directories a look-up finds what stands there, and only the
length of the path can keep it from that (`Walked.stat_ne_tooLong`).
-/

namespace Provision.Files

variable {f : Files} {here rest there names above : List String} {n : String} {p : Path}
  {e : Entry}

structure Plain (n : String) : Prop where
  ne_up : n ≠ ".."
  short : byteCount n ≤ nameLimit

structure Walked (f : Files) (names : List String) : Prop where
  directory : ∀ above, above <+: names → above ≠ names → f.entry? above = some .directory
  plain : ∀ n ∈ names, Plain n

/-- A directory that is there, as are all those above it. -/
structure Standing (f : Files) (names : List String) : Prop where
  walked : Walked f names
  there : f.entry? names = some .directory

theorem walked_nil : Walked f [] where
  directory _ h hne := absurd (List.prefix_nil.1 h) hne
  plain _ h := absurd h List.not_mem_nil

theorem Walked.of_above (h : Walked f names) (hp : above <+: names) : Walked f above where
  directory a ha hne := by
    refine h.directory a (ha.trans hp) ?_
    rintro rfl
    exact hne (ha.eq_of_length_le hp.length_le)
  plain n hn := h.plain n (hp.subset hn)

theorem Standing.of_above (h : Standing f names) (hp : above <+: names) : Standing f above where
  walked := h.walked.of_above hp
  there := by
    by_cases heq : above = names
    · rw [heq]
      exact h.there
    · exact h.walked.directory above hp heq

theorem Standing.walked_concat (h : Standing f names) (hn : Plain n) :
    Walked f (names ++ [n]) where
  directory a ha hne := by
    obtain rfl | ha := List.prefix_concat_iff.1 ha
    · exact absurd rfl hne
    · exact (h.of_above ha).there
  plain m hm := by
    obtain hm | hm := List.mem_append.1 hm
    · exact h.walked.plain m hm
    · rw [List.mem_singleton.1 hm]
      exact hn

-- ---------------------------------------------------------------------------
-- Walking
-- ---------------------------------------------------------------------------

/-- Where names lead from a place, with two dots leading upwards. -/
def follow (here rest : List String) : List String :=
  rest.foldl (fun acc n => if n = ".." then acc.dropLast else acc ++ [n]) here

theorem follow_cons (here rest : List String) (n : String) :
    follow here (n :: rest) = follow (if n = ".." then here.dropLast else here ++ [n]) rest := rfl

theorem mem_of_mem_follow (h : n ∈ follow here rest) : n ∈ here ∨ n ∈ rest := by
  induction rest generalizing here with
  | nil => exact .inl h
  | cons m rest ih =>
    rw [follow_cons] at h
    obtain h | h := ih h
    · split at h
      · have hp : here.dropLast <+: here := List.dropLast_prefix here
        exact .inl (hp.subset h)
      · obtain h | h := List.mem_append.1 h
        · exact .inl h
        · exact .inr (List.mem_cons.2 (.inl (List.mem_singleton.1 h)))
    · exact .inr (List.mem_cons_of_mem m h)

theorem walkTo_ok (hw : Walked f here) (h : f.walkTo here rest = .ok there) :
    there = follow here rest ∧ Walked f there := by
  induction rest generalizing here with
  | nil =>
    cases h
    exact ⟨rfl, hw⟩
  | cons n rest ih =>
    unfold walkTo at h
    split at h
    · cases h
    · cases h
    · cases h
    · next hd =>
      rw [follow_cons]
      split at h
      · cases h
      · next hshort =>
        split at h
        · next hup =>
          rw [if_pos hup]
          have hp : here.dropLast <+: here := List.dropLast_prefix here
          exact ih (hw.of_above hp) h
        · next hup =>
          rw [if_neg hup]
          exact ih (Standing.walked_concat ⟨hw, hd⟩ ⟨hup, Nat.not_lt.1 hshort⟩) h

/-- Plain names are walked to their end under directories that are there. -/
theorem walkTo_append (hw : Walked f (here ++ rest)) :
    f.walkTo here rest = .ok (here ++ rest) := by
  induction rest generalizing here with
  | nil =>
    rw [List.append_nil]
    rfl
  | cons n rest ih =>
    have hd : f.entry? here = some .directory :=
      hw.directory here (List.prefix_append ..) (by simp)
    have hn : Plain n := hw.plain n (by simp)
    have hsplit : here ++ n :: rest = here ++ [n] ++ rest := by simp
    rw [hsplit] at hw ⊢
    rw [walkTo, hd]
    dsimp only
    rw [if_neg (Nat.not_lt.2 hn.short), if_neg hn.ne_up, ih hw]

theorem Walked.climb_eq (hw : Walked f names) : Path.climb names = names :=
  (walkTo_ok walked_nil (walkTo_append hw)).1.symm

-- ---------------------------------------------------------------------------
-- What is come upon
-- ---------------------------------------------------------------------------

theorem stat_eq (f : Files) (p : Path) :
    f.stat p =
      if (badName? p.text).isSome then .error .absent
      else if pathLimit < byteCount p.text then .error .tooLong
      else match f.walkTo [] (f.cwd.join p).names with
      | .error m => .error m
      | .ok names => match f.entry? names with
        | none => .error .absent
        | some e => .ok e := by
  unfold stat
  split
  · rfl
  · split
    · rfl
    · cases f.walkTo [] (f.cwd.join p).names <;> rfl

theorem stat_ok (h : f.stat p = .ok e) :
    badName? p.text = none ∧ Walked f (Path.climb (f.cwd.join p).names) ∧
      f.entry? (Path.climb (f.cwd.join p).names) = some e := by
  rw [stat_eq] at h
  split at h
  · cases h
  · next hbad =>
    split at h
    · cases h
    · split at h
      · cases h
      · next names hwalk =>
        obtain ⟨rfl, hw⟩ := walkTo_ok walked_nil hwalk
        split at h
        · cases h
        · next e' hentry =>
          cases h
          exact ⟨Option.not_isSome_iff_eq_none.1 hbad, hw, hentry⟩

theorem stat_eq_tooLong (hbad : badName? p.text = none) (hlong : pathLimit < byteCount p.text) :
    f.stat p = .error .tooLong := by
  rw [stat_eq, hbad, if_neg (by simp), if_pos hlong]

theorem Walked.stat_ne_tooLong (hw : Walked f names)
    (hshort : byteCount (Path.text ⟨.slash, names⟩) ≤ pathLimit) :
    f.stat ⟨.slash, names⟩ ≠ .error .tooLong := by
  have hwalk : f.walkTo [] (f.cwd.join ⟨.slash, names⟩).names = .ok names := walkTo_append hw
  rw [stat_eq, hwalk, if_neg (Nat.not_lt.2 hshort)]
  dsimp only
  split
  · nofun
  · split <;> nofun

/-- Under directories that are there, a look-up finds what stands there. -/
theorem Walked.stat_eq_ok_iff (hw : Walked f names)
    (hbad : badName? (Path.text ⟨.slash, names⟩) = none)
    (hshort : byteCount (Path.text ⟨.slash, names⟩) ≤ pathLimit) :
    f.stat ⟨.slash, names⟩ = .ok e ↔ f.entry? names = some e := by
  have hwalk : f.walkTo [] (f.cwd.join ⟨.slash, names⟩).names = .ok names := walkTo_append hw
  rw [stat_eq, hbad, hwalk, if_neg (by simp), if_neg (Nat.not_lt.2 hshort)]
  dsimp only
  cases f.entry? names <;> simp

-- ---------------------------------------------------------------------------
-- The first file
-- ---------------------------------------------------------------------------

theorem isFile_eq_true_iff :
    f.isFile p = .ok true ↔ ∃ bytes, f.stat p = .ok (.file bytes) := by
  unfold isFile
  split
  · next bytes h => exact iff_of_true rfl ⟨bytes, h⟩
  · next h => simp [h]
  · next hnot _ =>
    refine iff_of_false nofun ?_
    rintro ⟨bytes, h⟩
    exact hnot bytes h

theorem isFile_eq_false_iff :
    f.isFile p = .ok false ↔
      (¬∃ bytes, f.stat p = .ok (.file bytes)) ∧ f.stat p ≠ .error .tooLong := by
  unfold isFile
  split
  · next bytes h => exact iff_of_false nofun fun hnot => hnot.1 ⟨bytes, h⟩
  · next h => exact iff_of_false nofun fun hnot => hnot.2 h
  · next hnot hlong =>
    refine iff_of_true rfl ⟨?_, hlong⟩
    rintro ⟨bytes, h⟩
    exact hnot bytes h

variable {paths : List Path}

theorem firstFile?_eq_none_iff :
    f.firstFile? paths = .ok none ↔ ∀ q ∈ paths, f.isFile q = .ok false := by
  induction paths with
  | nil => simp [firstFile?]
  | cons q paths ih =>
    rw [firstFile?, List.forall_mem_cons, ← ih]
    cases f.isFile q with
    | error fault => exact iff_of_false nofun nofun
    | ok found =>
      cases found with
      | true => exact iff_of_false nofun nofun
      | false => exact (and_iff_right rfl).symm

theorem firstFile?_eq_some_iff :
    f.firstFile? paths = .ok (some p) ↔
      ∃ n : Nat, paths[n]? = some p ∧ f.isFile p = .ok true ∧
        ∀ m < n, ∀ q, paths[m]? = some q → f.isFile q = .ok false := by
  induction paths with
  | nil => simp [firstFile?]
  | cons q paths ih =>
    rw [firstFile?]
    constructor
    · intro h
      cases hq : f.isFile q with
      | error fault =>
        rw [hq] at h
        cases h
      | ok found =>
        rw [hq] at h
        cases found with
        | true =>
          cases h
          exact ⟨0, rfl, hq, by simp⟩
        | false =>
          obtain ⟨n, hn, hp, hbefore⟩ := ih.1 h
          refine ⟨n + 1, hn, hp, fun m hm q' hq' => ?_⟩
          cases m with
          | zero =>
            cases hq'
            exact hq
          | succ m => exact hbefore m (Nat.lt_of_succ_lt_succ hm) q' hq'
    · rintro ⟨n, hn, hp, hbefore⟩
      cases n with
      | zero =>
        cases hn
        rw [hp]
        rfl
      | succ n =>
        rw [hbefore 0 (Nat.succ_pos n) q rfl]
        exact ih.2 ⟨n, hn, hp, fun m hm => hbefore (m + 1) (Nat.succ_lt_succ hm)⟩

-- ---------------------------------------------------------------------------
-- Paths from the root
-- ---------------------------------------------------------------------------

theorem badStep?_eq_none {root : Root} (h : ∀ n ∈ rest, badName? n = none) :
    badStep? root here rest = none := by
  induction rest generalizing here with
  | nil => rfl
  | cons n rest ih =>
    obtain ⟨hn, hrest⟩ := List.forall_mem_cons.1 h
    rw [badStep?]
    split
    · exact ih hrest
    · rw [hn]
      exact ih hrest

theorem resolve_eq_ok (h : ∀ n ∈ p.names, badName? n = none) :
    f.resolve p = .ok (Path.absolute f.cwd p) := by
  rw [resolve, badStep?_eq_none h]

theorem mem_absolute {cwd : Path} (h : n ∈ (Path.absolute cwd p).names) :
    n ∈ cwd.names ∨ n ∈ p.names := by
  have hmem : n ∈ [] ∨ n ∈ (cwd.join p).names := mem_of_mem_follow h
  obtain h | h := hmem
  · exact absurd h List.not_mem_nil
  · unfold Path.join at h
    split at h
    · exact List.mem_append.1 h
    · exact .inr h

end Provision.Files
