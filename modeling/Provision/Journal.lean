/-!
# The journal

Records of what a run does, for whoever debugs it. A record names its channel,
how much it matters, and a message. Higher levels matter more.
-/

namespace Provision

abbrev Level := Int

namespace Level

def notSet : Level := 0

def debug : Level := 10

def info : Level := 20

def warning : Level := 30

def error : Level := 40

def critical : Level := 50

def names : List (Level × String) :=
  [(notSet, "NOTSET"), (debug, "DEBUG"), (info, "INFO"), (warning, "WARNING"),
    (error, "ERROR"), (critical, "CRITICAL")]

/-- The name of a level. A level between the usual ones shows its number. -/
def name (l : Level) : String := (names.lookup l).getD s!"Level {l}"

/-- Names that settings may use. Two levels have a second name. -/
def settingNames : List (String × Level) :=
  [("NOTSET", notSet), ("DEBUG", debug), ("INFO", info), ("WARN", warning),
    ("WARNING", warning), ("ERROR", error), ("CRITICAL", critical), ("FATAL", critical)]

end Level

inductive Channel where
  | engine
  | recipe
  | project
  | process
  | install
  | plan
  | sink
  deriving DecidableEq, Repr, Inhabited

def Channel.name : Channel → String
  | .engine => "engine"
  | .recipe => "recipe"
  | .project => "project"
  | .process => "process"
  | .install => "install"
  | .plan => "plan"
  | .sink => "sink"

structure Record where
  channel : Channel
  level : Level
  message : String
  deriving DecidableEq, Repr, Inhabited

namespace Record

def debug (c : Channel) (message : String) : Record := ⟨c, Level.debug, message⟩

def info (c : Channel) (message : String) : Record := ⟨c, Level.info, message⟩

def warning (c : Channel) (message : String) : Record := ⟨c, Level.warning, message⟩

def error (c : Channel) (message : String) : Record := ⟨c, Level.error, message⟩

end Record

end Provision
