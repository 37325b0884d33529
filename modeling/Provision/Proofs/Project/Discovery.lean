import Mathlib.Data.Nat.Find
import Mathlib.Logic.Function.Iterate
import Provision.Project.File
import Provision.Proofs.Files.LookupLaws

/-!
# The nearest project file

The search for a project file comes up with that of the nearest directory that has one, at most
twenty directories and the root of all being looked at (`Nearest`). It gives no answer at all where
the system refuses to look before one is found. From a directory that is there, this happens
exactly when the path of its own project file is too long (`nearest_project_file_iff`).
-/

namespace Provision.Project

open Files (Path Standing Walked badName? byteCount pathLimit)

variable {files : Files} {root : Path} {start found : Option Path} {n : Nat}

-- ---------------------------------------------------------------------------
-- Levels
-- ---------------------------------------------------------------------------

def projectFile (directory : Path) : Path := directory.append fileName

def HasFile (files : Files) (directory : Path) : Prop :=
  ∃ bytes, files.stat (projectFile directory) = .ok (.file bytes)

/-- The system does not tell what lies in the place of the project file. -/
def Hidden (files : Files) (directory : Path) : Prop :=
  files.stat (projectFile directory) = .error .tooLong

/-- A level above the beginning of a search. The limit has not been passed, nor has the root of
all. -/
structure InReach (root : Path) (n : Nat) : Prop where
  limit : n < searchLimit
  depth : n ≤ root.names.length

/-- A level that a search comes to, having found no file on the way. -/
structure Reached (files : Files) (root : Path) (n : Nat) : Prop where
  inReach : InReach root n
  passed : ∀ m < n, ¬HasFile files (Path.parent^[m] root)

def Clear (files : Files) (root : Path) : Prop :=
  ∀ n, Reached files root n → ¬Hidden files (Path.parent^[n] root)

/-- The project file of the nearest directory in reach that has one, if there is any. -/
inductive Nearest (files : Files) (root : Path) : Option Path → Prop
  | found {n : Nat} (h : Reached files root n) (hf : HasFile files (Path.parent^[n] root)) :
    Nearest files root (some (projectFile (Path.parent^[n] root)))
  | missing (h : ∀ n, InReach root n → ¬HasFile files (Path.parent^[n] root)) :
    Nearest files root none

theorem InReach.of_le {m : Nat} (h : InReach root n) (hm : m ≤ n) : InReach root m where
  limit := Nat.lt_of_le_of_lt hm h.limit
  depth := Nat.le_trans hm h.depth

theorem projectFile_eq (directory : Path) :
    projectFile directory = ⟨directory.root, directory.names ++ [fileName]⟩ := by
  have htext : Path.ofText fileName = ⟨.relative, [fileName]⟩ := by decide
  rw [projectFile, Path.append, htext]
  rfl

theorem iterate_parent (n : Nat) (p : Path) :
    Path.parent^[n] p = ⟨p.root, List.dropLast^[n] p.names⟩ := by
  induction n generalizing p with
  | zero => rfl
  | succ n ih =>
    rw [Function.iterate_succ_apply, Function.iterate_succ_apply, ih]
    rfl

theorem iterate_dropLast_above (n : Nat) (names : List String) :
    List.dropLast^[n] names <+: names := by
  induction n with
  | zero => exact List.prefix_refl names
  | succ n ih =>
    have hp : (List.dropLast^[n] names).dropLast <+: List.dropLast^[n] names :=
      List.dropLast_prefix _
    rw [Function.iterate_succ_apply']
    exact hp.trans ih

-- ---------------------------------------------------------------------------
-- The search
-- ---------------------------------------------------------------------------

theorem getElem?_ancestors (fuel : Nat) (names : List String) (n : Nat) :
    (ancestors fuel names)[n]? =
      if n < fuel ∧ n ≤ names.length then some (List.dropLast^[n] names) else none := by
  induction fuel generalizing names n with
  | zero => simp [ancestors]
  | succ fuel ih =>
    rw [ancestors]
    cases n with
    | zero => simp
    | succ n =>
      rw [List.getElem?_cons_succ]
      cases names with
      | nil => simp
      | cons name names =>
        rw [if_neg (by simp), ih, Function.iterate_succ_apply, List.length_dropLast]
        simp only [List.length_cons, Nat.add_sub_cancel, Nat.succ_lt_succ_iff, Nat.succ_le_succ_iff]

theorem getElem?_candidates (hr : root.root = .slash) {p : Path} :
    (candidates root)[n]? = some p ↔ InReach root n ∧ p = projectFile (Path.parent^[n] root) := by
  rw [candidates, List.getElem?_map, getElem?_ancestors]
  split
  · next h =>
    rw [projectFile_eq, iterate_parent, hr, Option.map_some, Option.some_inj, eq_comm]
    exact (and_iff_right ⟨h.1, h.2⟩).symm
  · next h =>
    rw [Option.map_none]
    exact iff_of_false nofun fun hp => h ⟨hp.1.limit, hp.1.depth⟩

theorem isFile_eq_true_iff {directory : Path} :
    files.isFile (projectFile directory) = .ok true ↔ HasFile files directory :=
  Files.isFile_eq_true_iff

theorem isFile_eq_false_iff {directory : Path} :
    files.isFile (projectFile directory) = .ok false ↔
      ¬HasFile files directory ∧ ¬Hidden files directory :=
  Files.isFile_eq_false_iff

theorem not_hidden {directory : Path} {b : Bool}
    (h : files.isFile (projectFile directory) = .ok b) : ¬Hidden files directory := by
  cases b with
  | false => exact (isFile_eq_false_iff.1 h).2
  | true =>
    intro hr
    obtain ⟨bytes, hf⟩ := isFile_eq_true_iff.1 h
    rw [Hidden, hf] at hr
    cases hr

theorem firstFile?_candidates_none (hr : root.root = .slash) :
    files.firstFile? (candidates root) = .ok none ↔ Nearest files root none ∧ Clear files root := by
  have hall : (∀ p ∈ candidates root, files.isFile p = .ok false) ↔
      ∀ n, InReach root n → files.isFile (projectFile (Path.parent^[n] root)) = .ok false := by
    simp only [List.mem_iff_getElem?, getElem?_candidates hr]
    exact ⟨fun h n hn => h _ ⟨n, hn, rfl⟩, fun h p ⟨n, hn, hp⟩ => hp ▸ h n hn⟩
  rw [Files.firstFile?_eq_none_iff, hall]
  constructor
  · intro h
    exact ⟨.missing fun n hn => (isFile_eq_false_iff.1 (h n hn)).1,
      fun n hn => (isFile_eq_false_iff.1 (h n hn.inReach)).2⟩
  · rintro ⟨hnear, hclear⟩ n hn
    cases hnear with
    | missing hnone =>
      -- With no file anywhere, the search comes to all that is in reach.
      have hreached : Reached files root n :=
        ⟨hn, fun m hm => hnone m (hn.of_le (Nat.le_of_lt hm))⟩
      exact isFile_eq_false_iff.2 ⟨hnone n hn, hclear n hreached⟩

theorem firstFile?_candidates_some (hr : root.root = .slash) {p : Path} :
    files.firstFile? (candidates root) = .ok (some p) ↔
      Nearest files root (some p) ∧ Clear files root := by
  rw [Files.firstFile?_eq_some_iff]
  simp only [getElem?_candidates hr]
  constructor
  · rintro ⟨n, ⟨hn, rfl⟩, hfile, hbefore⟩
    have hmiss : ∀ m < n, files.isFile (projectFile (Path.parent^[m] root)) = .ok false :=
      fun m hm => hbefore m hm _ ⟨hn.of_le (Nat.le_of_lt hm), rfl⟩
    have hhas := isFile_eq_true_iff.1 hfile
    have hreached : Reached files root n := ⟨hn, fun m hm => (isFile_eq_false_iff.1 (hmiss m hm)).1⟩
    refine ⟨.found hreached hhas, fun k hk => ?_⟩
    -- The search does not come past the file.
    obtain hlt | rfl | hgt := Nat.lt_trichotomy k n
    · exact not_hidden (hmiss k hlt)
    · exact not_hidden hfile
    · exact absurd hhas (hk.passed n hgt)
  · rintro ⟨hnear, hclear⟩
    cases hnear with
    | @found n hn hf =>
      refine ⟨n, ⟨hn.inReach, rfl⟩, isFile_eq_true_iff.2 hf, ?_⟩
      rintro m hm _ ⟨hreach, rfl⟩
      have hreached : Reached files root m :=
        ⟨hreach, fun k hk => hn.passed k (Nat.lt_trans hk hm)⟩
      exact isFile_eq_false_iff.2 ⟨hn.passed m hm, hclear m hreached⟩

/-- The search comes up with the nearest project file if it may look wherever it comes to. -/
theorem firstFile?_candidates (hr : root.root = .slash) :
    files.firstFile? (candidates root) = .ok found ↔
      Nearest files root found ∧ Clear files root := by
  cases found with
  | none => exact firstFile?_candidates_none hr
  | some p => exact firstFile?_candidates_some hr

theorem exists_nearest (files : Files) (root : Path) : ∃ found, Nearest files root found := by
  classical
  by_cases h : ∃ n, InReach root n ∧ HasFile files (Path.parent^[n] root)
  · obtain ⟨hn, hf⟩ := Nat.find_spec h
    refine ⟨_, .found ⟨hn, fun m hm hm' => Nat.find_min h hm ⟨?_, hm'⟩⟩ hf⟩
    exact hn.of_le (Nat.le_of_lt hm)
  · exact ⟨none, .missing fun n hn hf => h ⟨n, hn, hf⟩⟩

-- ---------------------------------------------------------------------------
-- Directories that are there
-- ---------------------------------------------------------------------------

/-- The path of the project file in a directory is not too long. -/
def Fits (directory : Path) : Prop := byteCount (projectFile directory).text ≤ pathLimit

/-- The beginning of a search is a directory that is there, seen from the root. -/
structure Begins (files : Files) (root : Path) : Prop where
  fromRoot : root.root = .slash
  standing : Standing files root.names
  nameable : ∀ name ∈ root.names, badName? name = none

theorem plain_fileName : Files.Plain fileName := ⟨by decide, by decide⟩

namespace Begins

theorem projectFile_above (h : Begins files root) (n : Nat) :
    projectFile (Path.parent^[n] root) = ⟨.slash, List.dropLast^[n] root.names ++ [fileName]⟩ := by
  rw [projectFile_eq, iterate_parent, h.fromRoot]

theorem walked (h : Begins files root) (n : Nat) :
    Walked files (List.dropLast^[n] root.names ++ [fileName]) :=
  (h.standing.of_above (iterate_dropLast_above n root.names)).walked_concat plain_fileName

theorem badName?_above (h : Begins files root) (n : Nat) :
    badName? (projectFile (Path.parent^[n] root)).text = none := by
  rw [h.projectFile_above, Files.badName?_text_eq_none_iff]
  intro name hname
  obtain hname | hname := List.mem_append.1 hname
  · exact h.nameable name ((iterate_dropLast_above n root.names).subset hname)
  · rw [List.mem_singleton.1 hname]
    decide

theorem fits_above (h : Begins files root) (hf : Fits root) (n : Nat) :
    Fits (Path.parent^[n] root) := by
  obtain ⟨between, hnames⟩ := iterate_dropLast_above n root.names
  have hle := Files.byteCount_between_le (List.dropLast^[n] root.names) between fileName
  rw [hnames, ← h.projectFile_above n] at hle
  exact Nat.le_trans hle (h.projectFile_above 0 ▸ hf)

theorem clear (h : Begins files root) (hf : Fits root) : Clear files root := by
  intro n _
  have hshort := h.fits_above hf n
  rw [Fits, h.projectFile_above] at hshort
  rw [Hidden, h.projectFile_above]
  exact (h.walked n).stat_ne_tooLong hshort

theorem hidden (h : Begins files root) (hf : ¬Fits root) : Hidden files root :=
  Files.stat_eq_tooLong (h.badName?_above 0) (Nat.lt_of_not_le hf)

/-- A search that is not let to its end is refused at its beginning. -/
theorem firstFile?_of_not_fits (h : Begins files root) (hf : ¬Fits root) :
    files.firstFile? (candidates root) =
      .error (Files.Miss.tooLong.fault (projectFile root)) := by
  have hplace : projectFile root = ⟨.slash, root.names ++ [fileName]⟩ := h.projectFile_above 0
  have hstat : files.stat ⟨.slash, root.names ++ [fileName]⟩ = .error .tooLong := by
    rw [← hplace]
    exact h.hidden hf
  rw [hplace, candidates, searchLimit, ancestors, List.map_cons, Files.firstFile?, Files.isFile,
    hstat]
  rfl

theorem startingPoint_self (h : Begins files root) :
    startingPoint files (some root) = .ok root := by
  have hroot : Path.absolute files.cwd root = root := by
    rw [Path.absolute, Path.join, h.fromRoot, if_neg nofun, h.standing.walked.climb_eq,
      ← h.fromRoot]
  exact (Files.resolve_eq_ok h.nameable).trans (congrArg _ hroot)

theorem hasFile_iff (h : Begins files root) (hf : Fits root) (n : Nat) :
    HasFile files (Path.parent^[n] root) ↔
      ∃ bytes, files.entry? (projectFile (Path.parent^[n] root)).names = some (.file bytes) := by
  have hshort := h.fits_above hf n
  have hbad := h.badName?_above n
  rw [Fits, h.projectFile_above] at hshort
  rw [h.projectFile_above] at hbad
  rw [HasFile, h.projectFile_above]
  exact exists_congr fun bytes => (h.walked n).stat_eq_ok_iff hbad hshort

end Begins

theorem startingPoint_of_directory (hcwd : badName? files.cwd.text = none)
    (hd : files.stat (start.getD files.cwd) = .ok .directory) :
    ∃ root, startingPoint files start = .ok root ∧ Begins files root := by
  obtain ⟨hbad, hwalked, hthere⟩ := Files.stat_ok hd
  have hcwd := Files.badName?_text_eq_none_iff.1 hcwd
  have hbad := Files.badName?_text_eq_none_iff.1 hbad
  refine ⟨Path.absolute files.cwd (start.getD files.cwd), Files.resolve_eq_ok hbad, rfl,
    ⟨hwalked, hthere⟩, fun name hname => ?_⟩
  obtain hname | hname := Files.mem_absolute hname
  · exact hcwd name hname
  · exact hbad name hname

-- ---------------------------------------------------------------------------
-- The whole search
-- ---------------------------------------------------------------------------

theorem find?_of_startingPoint (h : startingPoint files start = .ok root) :
    find? files start = files.firstFile? (candidates root) := by
  rw [find?, h]
  rfl

theorem find?_eq_ok_iff :
    find? files start = .ok found ↔
      ∃ root, startingPoint files start = .ok root ∧ Nearest files root found ∧
        Clear files root := by
  unfold find?
  cases hs : startingPoint files start with
  | error fault => exact iff_of_false nofun nofun
  | ok root =>
    have hr : root.root = .slash := by
      rw [startingPoint, Files.resolve] at hs
      split at hs
      · cases hs
      · cases hs
        rfl
    refine (firstFile?_candidates hr).trans ⟨fun h => ⟨root, rfl, h⟩, ?_⟩
    rintro ⟨root', h, hfound⟩
    cases h
    exact hfound

/-- A search comes up with the project file of the nearest directory in reach that has one, or with
nothing if none has, exactly if the system lets it look wherever it comes to. From a directory that
is there the system does so if the path of the nearest project file is not too long, and then what
is looked up is what stands in the tree. Otherwise the search ends at once with a fault. -/
theorem nearest_project_file_iff (files : Files) (start : Option Path) :
    (∀ found, find? files start = .ok found ↔
      ∃ root, startingPoint files start = .ok root ∧ Nearest files root found ∧
        Clear files root) ∧
    (badName? files.cwd.text = none → files.stat (start.getD files.cwd) = .ok .directory →
      ∃ root, startingPoint files start = .ok root ∧
        (Fits root → (∃ found, find? files start = .ok found) ∧
          ∀ n, HasFile files (Path.parent^[n] root) ↔ ∃ bytes,
            files.entry? (projectFile (Path.parent^[n] root)).names = some (.file bytes)) ∧
        (¬Fits root → find? files start =
          .error (Files.Miss.tooLong.fault (projectFile root)))) := by
  refine ⟨fun _ => find?_eq_ok_iff, fun hcwd hd => ?_⟩
  obtain ⟨root, hs, hb⟩ := startingPoint_of_directory hcwd hd
  refine ⟨root, hs, fun hf => ⟨?_, hb.hasFile_iff hf⟩, fun hf => ?_⟩
  · obtain ⟨found, hnear⟩ := exists_nearest files root
    exact ⟨found, find?_eq_ok_iff.2 ⟨root, hs, hnear, hb.clear hf⟩⟩
  · exact (find?_of_startingPoint hs).trans (hb.firstFile?_of_not_fits hf)

/-- A working directory in which something else goes by the name of the project file, and a
directory below in which a directory does. The project file is above them. -/
def nested : Files where
  entries := [(["w", fileName], .file []), (["w", "a", fileName], .special),
    (["w", "a", "b", fileName], .directory)]
  cwd := ⟨.slash, ["w", "a"]⟩

/-- What is no file is passed over on the way up. -/
theorem nested_file_found :
    badName? nested.cwd.text = none ∧ nested.stat ⟨.relative, ["b"]⟩ = .ok .directory ∧
      find? nested (some ⟨.relative, ["b"]⟩) = .ok (some ⟨.slash, ["w", fileName]⟩) := by
  have hcwd : badName? nested.cwd.text = none := by decide
  have hd : nested.stat ⟨.relative, ["b"]⟩ = .ok .directory := rfl
  obtain ⟨search, answered⟩ := nearest_project_file_iff nested (some ⟨.relative, ["b"]⟩)
  obtain ⟨root, hs, hfits, -⟩ := answered hcwd hd
  cases hs
  obtain ⟨⟨found, hfound⟩, hfile⟩ := hfits (show byteCount _ ≤ pathLimit by decide)
  obtain ⟨root, hs, -, hclear⟩ := (search found).1 hfound
  cases hs
  refine ⟨hcwd, hd, (search _).2 ⟨_, rfl, ?_, hclear⟩⟩
  refine .found (n := 2) ⟨⟨by decide, by decide⟩, ?_⟩ ((hfile 2).2 ⟨[], rfl⟩)
  intro m hm
  rw [hfile]
  rintro ⟨bytes, h⟩
  match m with
  | 0 => cases h
  | 1 => cases h

def deepName : String := String.ofList (List.replicate 214 'd')

/-- A directory below eighteen others. Its path has 4085 bytes. -/
def deepDirectory : Path := ⟨.slash, List.replicate 19 deepName⟩

def deep : Files := ⟨[(deepDirectory.names, .directory)], ⟨.slash, []⟩⟩

theorem toList_deepName : deepName.toList = List.replicate 214 'd' := String.toList_ofList

theorem deepName_ascii : Text.Ascii deepName.toList := by
  rw [toList_deepName]
  exact Text.ascii_replicate 214 (by decide)

theorem not_mem_deepName {c : Char} (hc : c ≠ 'd') : c ∉ deepName.toList := by
  rw [toList_deepName]
  exact fun h => hc (List.eq_of_mem_replicate h)

theorem deepName_plain : Files.Plain deepName where
  ne_up h := not_mem_deepName (c := '.') (by decide) (h ▸ by decide)
  short := by
    rw [Files.byteCount_of_ascii deepName_ascii, toList_deepName, List.length_replicate]
    decide

theorem badName?_deepName : badName? deepName = none :=
  Files.badName?_eq_none_iff.2
    (Files.nameable_of_ascii deepName_ascii (not_mem_deepName (by decide)))

theorem deep_entry? {above : List String} (h : above <+: deepDirectory.names) :
    deep.entry? above = some .directory := by
  unfold Files.entry?
  split
  · next e he => rw [List.mem_singleton.1 (List.mem_of_find?_eq_some he)]
  · simp [deep, h]

theorem deep_no_file {names : List String} {bytes : List UInt8} :
    deep.entry? names ≠ some (.file bytes) := by
  unfold Files.entry?
  split
  · next e he =>
    rw [List.mem_singleton.1 (List.mem_of_find?_eq_some he)]
    nofun
  · split <;> nofun

theorem deep_begins : Begins deep deepDirectory where
  fromRoot := rfl
  standing := {
    walked := {
      directory _ h _ := deep_entry? h
      plain _ h := List.eq_of_mem_replicate h ▸ deepName_plain }
    there := deep_entry? (List.prefix_refl _) }
  nameable _ h := List.eq_of_mem_replicate h ▸ badName?_deepName

theorem length_way_deepName (k : Nat) :
    (Files.way (List.replicate k deepName)).length = 215 * k := by
  rw [Files.way, List.length_flatMap, List.map_replicate, List.length_cons, toList_deepName,
    List.length_replicate, List.sum_replicate_nat, Nat.mul_comm]

theorem deepDirectory_ascii : ∀ n ∈ deepDirectory.names, Text.Ascii n.toList :=
  fun _ h => List.eq_of_mem_replicate h ▸ deepName_ascii

theorem byteCount_deepDirectory : byteCount deepDirectory.text = 4085 :=
  (Files.byteCount_text_of_ascii (List.cons_ne_nil _ _) deepDirectory_ascii).trans
    (length_way_deepName 19)

theorem byteCount_deep_projectFile : byteCount (projectFile deepDirectory).text = 4100 := by
  have hascii : ∀ n ∈ deepDirectory.names ++ [fileName], Text.Ascii n.toList :=
    List.forall_mem_append.2 ⟨deepDirectory_ascii, List.forall_mem_singleton.2 (by decide)⟩
  have hplace : projectFile deepDirectory = ⟨.slash, deepDirectory.names ++ [fileName]⟩ :=
    projectFile_eq deepDirectory
  have hway : (Files.way deepDirectory.names).length = 4085 := length_way_deepName 19
  have hname : (Files.way [fileName]).length = 15 := by decide
  rw [hplace, Files.byteCount_text_of_ascii
    (List.append_ne_nil_of_right_ne_nil _ (List.cons_ne_nil _ _)) hascii,
    Files.way_append, List.length_append, hway, hname]

/-- There is no file to be found, but the search ends with a fault. -/
theorem deep_search_fails :
    badName? deep.cwd.text = none ∧ deep.stat deepDirectory = .ok .directory ∧
      startingPoint deep (some deepDirectory) = .ok deepDirectory ∧
      (∀ names bytes, deep.entry? names ≠ some (.file bytes)) ∧ Nearest deep deepDirectory none ∧
      find? deep (some deepDirectory) =
        .error (Files.Miss.tooLong.fault (projectFile deepDirectory)) := by
  have hbegins := deep_begins
  have hstart := hbegins.startingPoint_self
  have hbad : badName? deepDirectory.text = none :=
    Files.badName?_text_eq_none_iff.2 hbegins.nameable
  have hshort : byteCount deepDirectory.text ≤ pathLimit := by
    rw [byteCount_deepDirectory]
    decide
  have hlong : ¬Fits deepDirectory := by
    rw [Fits, byteCount_deep_projectFile]
    decide
  refine ⟨by decide, ?_, hstart, fun _ _ => deep_no_file, .missing ?_, ?_⟩
  · exact (hbegins.standing.walked.stat_eq_ok_iff hbad hshort).2 hbegins.standing.there
  · rintro n - ⟨bytes, hb⟩
    exact deep_no_file (Files.stat_ok hb).2.2
  · exact (find?_of_startingPoint hstart).trans (hbegins.firstFile?_of_not_fits hlong)

end Provision.Project
