import Provision.Journal
import Provision.Text.Case

/-!
# Where the journal goes

Records go to the console and, if a log file is set, to that file too. The last
settings win: own outlets of earlier settings are taken down first, and the
outlets of others are left alone. The root passes on what some own outlet wants.
A chatty logger is held to warnings unless the console debugs.

The console shows more about a record the lower its level is. The time of a
record is given from outside.
-/

namespace Provision.Journal

/-- The level of a name in settings. What is no name counts as a warning. -/
def parseLevel (name : Option String) : Level :=
  match name with
  | none => Level.warning
  | some n => (Level.settingNames.lookup (Text.upper n)).getD Level.warning

structure Settings where
  level : Level := Level.warning
  logFile : Option String := none
  fileLevel : Option Level := none
  deriving DecidableEq, Repr

def present (s : Option String) : Option String :=
  match s with
  | some "" => none
  | s => s

/-- Settings from the switches of a command line and the environment. A switch
goes before the environment, and the chattiest switch goes first. -/
def Settings.ofSwitches (debug verbose quiet : Bool) (env : List (String × String)) : Settings where
  level :=
    if debug then Level.debug
    else if verbose then Level.info
    else if quiet then Level.error
    else parseLevel (env.lookup "SBX_LOG_LEVEL")
  logFile := present (env.lookup "SBX_LOG_FILE")
  fileLevel := (present (env.lookup "SBX_LOG_FILE_LEVEL")).map fun n => parseLevel (some n)

inductive Layout where
  | full
  | timed
  | bare
  | file
  deriving DecidableEq, Repr

def Layout.format : Layout → String
  | .full => "%(asctime)s %(levelname)-5s %(name)s:%(lineno)d | %(message)s"
  | .timed => "%(asctime)s %(message)s"
  | .bare => "%(message)s"
  | .file => "%(asctime)s %(levelname)-5s %(name)s | %(message)s"

def Layout.timeFormat : Layout → Option String
  | .full => some "%H:%M:%S"
  | .timed => some "%H:%M:%S"
  | .bare => none
  | .file => none

def consoleLayout (level : Level) : Layout :=
  if level ≤ Level.debug then .full else if level ≤ Level.info then .timed else .bare

/-- An own outlet. The console has no path. -/
structure Outlet where
  path : Option String
  level : Level
  layout : Layout
  deriving DecidableEq, Repr

/-- What hangs at the root, where all put their outlets. Those of others are known by
name only. -/
inductive Handler where
  | foreign (name : String)
  | own (o : Outlet)
  deriving DecidableEq, Repr

def Handler.isOwn : Handler → Bool
  | .foreign _ => false
  | .own _ => true

def Handler.outlet? : Handler → Option Outlet
  | .foreign _ => none
  | .own o => some o

/-- The state of journalling. Loggers have a level of their own if one was set. -/
structure State where
  root : Level
  levels : List (String × Level)
  handlers : List Handler
  deriving DecidableEq, Repr

namespace State

/-- The level that was set for a logger, or the one that stands for none. -/
def levelOf (state : State) (logger : String) : Level :=
  (state.levels.lookup logger).getD Level.notSet

def setLevel (state : State) (logger : String) (level : Level) : State :=
  { state with levels := (logger, level) :: state.levels.filter (·.1 ≠ logger) }

def foreign (state : State) : List Handler := state.handlers.filter (!·.isOwn)

def own (state : State) : List Outlet := state.handlers.filterMap Handler.outlet?

def cleared (state : State) : State := { state with handlers := state.foreign }

def install (state : State) (o : Outlet) : State :=
  { state with handlers := state.handlers ++ [.own o] }

end State

def noisyLogger : String := "asyncio"

def Settings.console (s : Settings) : Outlet := ⟨none, s.level, consoleLayout s.level⟩

def Settings.file? (s : Settings) : Option Outlet :=
  (present s.logFile).map fun path => ⟨some path, s.fileLevel.getD s.level, .file⟩

def Settings.outlets (s : Settings) : List Outlet := s.console :: s.file?.toList

def lowest (level : Level) (outlets : List Outlet) : Level :=
  outlets.foldl (fun l o => min l o.level) level

def configure (state : State) (s : Settings) : State :=
  let state := s.outlets.foldl State.install state.cleared
  { state with root := lowest s.level s.outlets }.setLevel noisyLogger
    (if s.level ≤ Level.debug then Level.notSet else Level.warning)

/-! ## Records -/

/-- The names above a name that is read from its end, the nearest first. Each ends in front
of a dot. A dot in front of another dot parts nothing, and neither does one at the very
start. -/
def namesAbove : List Char → List String
  | [] => []
  | '.' :: [] => []
  | '.' :: c :: rest => String.ofList (c :: rest).reverse :: namesAbove rest
  | _ :: rest => namesAbove rest

def lineage (logger : String) : List String := logger :: namesAbove logger.toList.reverse

/-- The level that was set nearest to a logger, at it or above it, if any was. -/
def State.nearest? (state : State) (logger : String) : Option Level :=
  ((lineage logger).map state.levelOf).find? (· ≠ Level.notSet)

/-- The level from which on a logger passes records on. A logger without a level
of its own goes by the one above it, and in the end by the root. -/
def State.threshold (state : State) (logger : String) : Level :=
  (state.nearest? logger).getD state.root

/-- A record as a logger receives it, with the line of source it names. -/
structure Line where
  logger : String
  level : Level
  message : String
  line : Nat

structure Times where
  clock : String
  full : String

def levelColumn (l : Level) : String :=
  let name := Level.name l
  name ++ String.ofList (List.replicate (5 - name.length) ' ')

def Layout.render (layout : Layout) (t : Times) (r : Line) : String :=
  match layout with
  | .full => s!"{t.clock} {levelColumn r.level} {r.logger}:{r.line} | {r.message}\n"
  | .timed => s!"{t.clock} {r.message}\n"
  | .bare => s!"{r.message}\n"
  | .file => s!"{t.full} {levelColumn r.level} {r.logger} | {r.message}\n"

/-- Whether a record of this logger and level reaches an outlet. One that has no level
worth the name reaches none. -/
def State.passes (state : State) (logger : String) (level : Level) (o : Outlet) : Bool :=
  Level.notSet < level && state.threshold logger ≤ level && o.level ≤ level

def State.emit (state : State) (t : Times) (r : Line) : List (Option String × String) :=
  (state.own.filter (state.passes r.logger r.level)).map fun o => (o.path, o.layout.render t r)

end Provision.Journal
