import Provision.Journal.Settings
import Mathlib.Data.List.Basic

/-!
# The last settings win

Settings take down what earlier ones put up and nothing else, so a history of settings
leaves what its last ones would. The root lets through all that some own outlet wants: what
a record is held back by, then, is the outlet itself and the levels that were set at its
logger or above it.
-/

namespace Provision.Journal

namespace State

def consoles (state : State) : List Outlet := state.own.filter (·.path.isNone)

def files (state : State) : List Outlet := state.own.filter (·.path.isSome)

/-- No logger holds back records of this logger and level. The root is not asked. -/
def Admits (state : State) (logger : String) (level : Level) : Prop :=
  Level.notSet < level ∧ ∀ own ∈ state.nearest? logger, own ≤ level

instance (state : State) (logger : String) (level : Level) :
    Decidable (state.Admits logger level) :=
  inferInstanceAs (Decidable (_ ∧ ∀ own ∈ state.nearest? logger, own ≤ level))

theorem nearest?_eq_none_iff {state : State} {logger : String} :
    state.nearest? logger = none ↔
      ∀ name ∈ lineage logger, state.levelOf name = Level.notSet := by
  simp [nearest?]

/-! ## Levels -/

@[simp] theorem levelOf_setLevel_self (state : State) (logger : String) (level : Level) :
    (state.setLevel logger level).levelOf logger = level := by
  simp [levelOf, setLevel]

theorem lookup_filter_ne (levels : List (String × Level)) {logger other : String}
    (h : other ≠ logger) :
    (levels.filter (·.1 ≠ logger)).lookup other = levels.lookup other := by
  induction levels with
  | nil => rfl
  | cons entry rest ih =>
    obtain ⟨name, own⟩ := entry
    by_cases hname : name = logger
    · have hother : (other == name) = false := beq_false_of_ne (hname ▸ h)
      simpa [hname, List.lookup_cons, hname ▸ hother] using ih
    · rw [List.filter_cons_of_pos (by simpa using hname), List.lookup_cons, List.lookup_cons, ih]

theorem levelOf_setLevel_of_ne (state : State) {logger other : String} (level : Level)
    (h : other ≠ logger) : (state.setLevel logger level).levelOf other = state.levelOf other := by
  have hother : (other == logger) = false := beq_false_of_ne h
  rw [levelOf, setLevel, List.lookup_cons, hother, levelOf]
  exact congrArg (Option.getD · _) (lookup_filter_ne state.levels h)

/-! ## Outlets -/

theorem foldl_install (state : State) (outlets : List Outlet) :
    outlets.foldl install state =
      { state with handlers := state.handlers ++ outlets.map .own } := by
  induction outlets generalizing state with
  | nil => simp
  | cons o rest ih => simp [ih, install]

theorem foreign_of_handlers {state : State} {others : State} {outlets : List Outlet}
    (h : state.handlers = others.foreign ++ outlets.map .own) :
    state.foreign = others.foreign := by
  have hown : (outlets.map Handler.own).filter (!·.isOwn) = [] := by
    simp [List.filter_eq_nil_iff, Handler.isOwn]
  rw [foreign, h, List.filter_append, hown, List.append_nil]
  simp [foreign]

theorem own_of_handlers {state : State} {others : State} {outlets : List Outlet}
    (h : state.handlers = others.foreign ++ outlets.map .own) : state.own = outlets := by
  have hforeign : others.foreign.filterMap Handler.outlet? = [] := by
    rw [List.filterMap_eq_nil_iff]
    intro handler hhandler
    cases handler with
    | foreign _ => rfl
    | own o => simp [foreign, Handler.isOwn] at hhandler
  have hown : (outlets.map Handler.own).filterMap Handler.outlet? = outlets := by
    rw [List.filterMap_map]
    exact List.filterMap_some
  rw [own, h, List.filterMap_append, hforeign, hown, List.nil_append]

end State

/-! ## Settings -/

section Configure

variable (state : State) (s : Settings)

theorem handlers_configure :
    (configure state s).handlers = state.foreign ++ s.outlets.map .own := by
  simp [configure, State.foldl_install, State.cleared, State.setLevel]

theorem foreign_configure : (configure state s).foreign = state.foreign :=
  State.foreign_of_handlers (handlers_configure state s)

theorem own_configure : (configure state s).own = s.outlets :=
  State.own_of_handlers (handlers_configure state s)

theorem root_configure : (configure state s).root = lowest s.level s.outlets := rfl

theorem levelOf_configure_self :
    (configure state s).levelOf noisyLogger =
      if s.level ≤ Level.debug then Level.notSet else Level.warning :=
  State.levelOf_setLevel_self ..

theorem levelOf_configure_of_ne {logger : String} (h : logger ≠ noisyLogger) :
    (configure state s).levelOf logger = state.levelOf logger := by
  rw [configure, State.levelOf_setLevel_of_ne _ _ h, State.foldl_install]
  rfl

theorem configure_eq :
    configure state s =
      State.setLevel ⟨lowest s.level s.outlets, state.levels, state.foreign ++ s.outlets.map .own⟩
        noisyLogger (if s.level ≤ Level.debug then Level.notSet else Level.warning) := by
  rw [configure, State.foldl_install]
  rfl

/-- Settings forget what settings before them did. -/
theorem configure_configure (s' : Settings) :
    configure (configure state s) s' = configure state s' := by
  rw [configure_eq _ s', configure_eq state s', foreign_configure]
  simp [configure_eq state s, State.setLevel]

theorem configure_foldl (earlier : List Settings) :
    configure (earlier.foldl configure state) s = configure state s := by
  induction earlier generalizing state with
  | nil => rfl
  | cons first rest ih => rw [List.foldl_cons, ih, configure_configure]

end Configure

/-! ## Consoles and files -/

theorem outlets_console (s : Settings) : s.outlets.filter (·.path.isNone) = [s.console] := by
  unfold Settings.outlets Settings.file?
  cases present s.logFile <;> rfl

theorem outlets_file (s : Settings) : s.outlets.filter (·.path.isSome) = s.file?.toList := by
  unfold Settings.outlets Settings.file?
  cases present s.logFile <;> rfl

theorem consoles_configure (state : State) (s : Settings) :
    (configure state s).consoles = [s.console] := by
  rw [State.consoles, own_configure, outlets_console]

theorem files_configure (state : State) (s : Settings) :
    (configure state s).files = s.file?.toList := by
  rw [State.files, own_configure, outlets_file]

/-! ## The root -/

theorem lowest_eq_min? (level : Level) (outlets : List Outlet) :
    (level :: outlets.map (·.level)).min? = some (lowest level outlets) := by
  rw [List.min?_cons', lowest, List.foldl_map]

theorem root_configure_least (state : State) (s : Settings) :
    (configure state s).root ∈ (configure state s).own.map (·.level) ∧
      ∀ o ∈ (configure state s).own, (configure state s).root ≤ o.level := by
  obtain ⟨hmem, hle⟩ := List.min?_eq_some_iff.mp (lowest_eq_min? s.level s.outlets)
  have hconsole : s.level ∈ s.outlets.map (·.level) := by simp [Settings.outlets, Settings.console]
  rw [root_configure, own_configure]
  refine ⟨?_, fun o ho => hle _ (List.mem_cons_of_mem _ (List.mem_map_of_mem ho))⟩
  rcases List.mem_cons.mp hmem with heq | hmem
  · rwa [heq]
  · exact hmem

/-! ## Records -/

/-- An own outlet no lower than the root gets what the loggers admit and itself wants. -/
theorem State.passes_iff {state : State} {logger : String} {level : Level} {o : Outlet}
    (hroot : state.root ≤ o.level) :
    state.passes logger level o = true ↔ state.Admits logger level ∧ o.level ≤ level := by
  unfold State.passes State.threshold State.Admits
  cases state.nearest? logger with
  | none =>
    have hstep : o.level ≤ level → state.root ≤ level := Int.le_trans hroot
    simp only [Option.getD_none, Bool.and_eq_true, decide_eq_true_eq, Option.not_mem_none]
    tauto
  | some own => simp

/-- What settings let a record write to their outlets. -/
theorem emit_configure (state : State) (s : Settings) (t : Times) (r : Line) :
    (configure state s).emit t r =
      (s.outlets.filter fun o =>
        decide ((configure state s).Admits r.logger r.level ∧ o.level ≤ r.level)).map
        fun o => (o.path, o.layout.render t r) := by
  have hroot := (root_configure_least state s).2
  rw [State.emit, own_configure] at *
  congr 1
  apply List.filter_congr
  intro o ho
  rw [Bool.eq_iff_iff, State.passes_iff (hroot o ho), decide_eq_true_iff]

theorem lines_of_outlet (admitted : Prop) [Decidable admitted] (o : Outlet) (t : Times) (r : Line) :
    ([o].filter fun o => decide (admitted ∧ o.level ≤ r.level)).map
        (fun o => (o.path, o.layout.render t r)) =
      if admitted ∧ o.level ≤ r.level then [(o.path, o.layout.render t r)] else [] := by
  rw [List.filter_singleton]
  by_cases h : admitted ∧ o.level ≤ r.level
  · rw [decide_eq_true h]
    exact (if_pos h).symm
  · rw [decide_eq_false h]
    exact (if_neg h).symm

theorem emit_console (state : State) (s : Settings) (t : Times) (r : Line) :
    ((configure state s).emit t r).filter (·.1.isNone) =
      if (configure state s).Admits r.logger r.level ∧ s.level ≤ r.level then
        [(none, (consoleLayout s.level).render t r)]
      else [] := by
  rw [emit_configure, List.filter_map, List.filter_comm]
  have hconsole : s.outlets.filter ((fun line => line.1.isNone) ∘
      fun o => (o.path, o.layout.render t r)) = [s.console] := outlets_console s
  rw [hconsole]
  exact lines_of_outlet _ s.console t r

theorem emit_file (state : State) (s : Settings) (t : Times) (r : Line) :
    ((configure state s).emit t r).filter (·.1.isSome) =
      match present s.logFile with
      | none => []
      | some path =>
        if (configure state s).Admits r.logger r.level ∧ s.fileLevel.getD s.level ≤ r.level then
          [(some path, Layout.file.render t r)]
        else [] := by
  rw [emit_configure, List.filter_map, List.filter_comm]
  have hfile : s.outlets.filter ((fun line => line.1.isSome) ∘
      fun o => (o.path, o.layout.render t r)) = s.file?.toList := outlets_file s
  rw [hfile, Settings.file?]
  cases present s.logFile with
  | none => rfl
  | some path =>
    rw [Option.map_some, Option.toList_some]
    exact lines_of_outlet _ ⟨some path, s.fileLevel.getD s.level, .file⟩ t r

/-! ## Histories -/

/-- Whatever settings came before, the last ones alone decide: the outlets of others stay as
they were, there is one own console and one own file where a log file is set, and the root
is as low as the lowest of them. The noisy logger is left to the others only where the
console debugs, and no other logger is touched.

A record reaches the console and the file once each, by the level of each, if the loggers
admit it. Those that have no level of their own, and none above them, admit all that has a
level worth the name. Loggers below the noisy one are held back with it. -/
theorem last_settings_win (start : State) (earlier : List Settings) (last : Settings) :
    let after := configure (earlier.foldl configure start) last
    after = configure start last ∧
    after.foreign = start.foreign ∧
    after.consoles.map (·.level) = [last.level] ∧
    after.files.map (fun o => (o.path, o.level)) =
      (present last.logFile).toList.map
        (fun path => (some path, last.fileLevel.getD last.level)) ∧
    (after.root ∈ after.own.map (·.level) ∧ ∀ o ∈ after.own, after.root ≤ o.level) ∧
    (after.levelOf noisyLogger = Level.notSet ↔ last.level ≤ Level.debug) ∧
    (¬ last.level ≤ Level.debug → after.levelOf noisyLogger = Level.warning) ∧
    (∀ logger, logger ≠ noisyLogger → after.levelOf logger = start.levelOf logger) ∧
    (∀ logger level, (∀ name ∈ lineage logger, after.levelOf name = Level.notSet) →
      (after.Admits logger level ↔ Level.notSet < level)) ∧
    ∀ t r,
      ((after.emit t r).filter (·.1.isNone) =
        if after.Admits r.logger r.level ∧ last.level ≤ r.level then
          [(none, (consoleLayout last.level).render t r)]
        else []) ∧
      ((after.emit t r).filter (·.1.isSome) =
        match present last.logFile with
        | none => []
        | some path =>
          if after.Admits r.logger r.level ∧ last.fileLevel.getD last.level ≤ r.level then
            [(some path, Layout.file.render t r)]
          else []) := by
  intro after
  have hafter : after = configure start last := configure_foldl start last earlier
  clear_value after
  subst hafter
  refine ⟨rfl, foreign_configure start last, ?_, ?_, root_configure_least start last, ?_, ?_,
    fun logger h => levelOf_configure_of_ne start last h, ?_,
    fun t r => ⟨emit_console start last t r, emit_file start last t r⟩⟩
  · rw [consoles_configure]
    rfl
  · rw [files_configure, Settings.file?]
    cases present last.logFile <;> rfl
  · rw [levelOf_configure_self]
    split
    · simp_all
    · simp_all [Level.warning, Level.notSet]
  · intro h
    rw [levelOf_configure_self, if_neg h]
  · intro logger level h
    simp [State.Admits, State.nearest?_eq_none_iff.mpr h]

/-- The console is quiet, and the file gets the details all the same. -/
theorem quiet_console_files_details :
    let start : State := ⟨Level.warning, [], [.foreign "capture", .own ⟨none, Level.debug, .full⟩]⟩
    let record : Line := ⟨"sandboxctl.runner", Level.info, "ready", 7⟩
    let times : Times := ⟨"01:02:03", "2024-01-01 01:02:03,045"⟩
    let after := configure ([(⟨Level.debug, none, none⟩ : Settings)].foldl configure start)
      ⟨Level.error, some "run.log", some Level.info⟩
    after.foreign = [.foreign "capture"] ∧
      after.Admits record.logger record.level ∧
      (after.emit times record).filter (·.1.isNone) = [] ∧
      (after.emit times record).filter (·.1.isSome) =
        [(some "run.log", "2024-01-01 01:02:03,045 INFO  sandboxctl.runner | ready\n")] := by
  intro start record times after
  obtain ⟨-, hforeign, -, -, -, -, -, -, hadmits, hemit⟩ :=
    last_settings_win start [⟨Level.debug, none, none⟩]
      ⟨Level.error, some "run.log", some Level.info⟩
  have hrecord : after.Admits record.logger record.level :=
    (hadmits record.logger record.level (by decide +kernel)).mpr (by decide)
  obtain ⟨hconsole, hfile⟩ := hemit times record
  refine ⟨hforeign, hrecord, ?_, ?_⟩
  · rw [hconsole]
    decide +kernel
  · rw [hfile]
    decide +kernel

/-- The noisy logger holds back the loggers below it, and what has no level is never
written. -/
theorem held_back_records :
    let start : State := ⟨Level.warning, [], [.foreign "capture"]⟩
    let times : Times := ⟨"01:02:03", "2024-01-01 01:02:03,045"⟩
    let after := configure start ⟨Level.info, none, none⟩
    let chatty := configure start ⟨Level.notSet, none, none⟩
    ("asyncio.events" ≠ noisyLogger ∧ after.levelOf "asyncio.events" = Level.notSet ∧
      after.emit times ⟨"asyncio.events", Level.info, "m20", 7⟩ = []) ∧
    (chatty.levelOf "sandboxctl.x" = Level.notSet ∧
      chatty.emit times ⟨"sandboxctl.x", Level.notSet, "m0", 7⟩ = []) := by
  decide +kernel

end Provision.Journal
