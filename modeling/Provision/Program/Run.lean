import Provision.Interview.Console
import Provision.Journal.Settings
import Provision.Json.Writer
import Provision.Program.Invocation
import Provision.Program.Page
import Provision.Progress.Terminal
import Provision.Terminal.Screen

/-!
# A run of the program

What the program shows, what it writes to the journal and how it ends, as a function
of what it is started with. Questions are asked only if someone is there to answer
and the result is not wanted as data. What a command sends back while it works is
shown below the questions and above the result. A text that the terminal does not
take ends the run; where errors are shown, such a text is shown with escapes.
-/

namespace Provision.Program

open Interview (Console Prompter)
open Terminal (plainLine)

structure Start where
  files : Files
  /-- The variables of the environment. -/
  env : List (String × String)
  /-- Whether there is someone to ask. -/
  interactive : Bool
  console : Console
  /-- The second from which moments count. -/
  epoch : Int
  times : Journal.Times

def Start.color (s : Start) : Bool := s.console.color

inductive Ending where
  | done (ok : Bool)
  | misused (m : Misuse)
  /-- The user ended the dialogue. -/
  | aborted
  /-- Something went wrong that is nobody's business here. -/
  | broken (f : Fault)
  deriving DecidableEq, Repr

def Ending.code : Ending → Nat
  | .done true => 0
  | .done false => 1
  | .misused _ => 2
  | .aborted => 1
  | .broken _ => 1

def Ending.ofFault : Fault → Ending
  | .abort => .aborted
  | f => .broken f

def Ending.text : Ending → String
  | .misused m => s!"{usageText}\n\nError: {m.text}\n"
  | .aborted => "Aborted!\n"
  | _ => ""

def Ending.ofDenial : Denial → Ending
  | .misuse m => .misused m
  | .fault f => .broken f

structure Ended where
  ending : Ending
  output : String
  errors : String
  /-- A log file, and what is to be added to it. -/
  log : Option (Files.Path × String)

/-! ## The journal on the console -/

def logMiss? (files : Files) (path : Files.Path) : Option Files.Miss :=
  match files.stat path with
  | .ok .directory => some .isDirectory
  | .ok (.file _) => none
  | .ok .special => some .noDevice
  | .error .absent =>
    match files.stat path.parent with
    | .ok .directory => none
    | .ok (.file _) | .ok .special => some .notDirectory
    | .error m => some m
  | .error m => some m

def logPath? (files : Files) (settings : Journal.Settings) : Option Files.Path :=
  settings.logFile.map fun name => .absolute files.cwd (.ofText name)

def logFault? (files : Files) (settings : Journal.Settings) : Option Fault :=
  (logPath? files settings).bind fun path =>
    match Files.badName? path.text with
    | some bad => some bad.fault
    | none => (logMiss? files path).map (·.fault path)

/-- The files once the log file is open. It has come to be, if it was not there. -/
def withLog (files : Files) (settings : Journal.Settings) : Files :=
  match logPath? files settings with
  | none => files
  | some path =>
    match files.stat path with
    | .ok _ => files
    | .error _ => { files with entries := (path.names, .file []) :: files.entries }

def toLine (r : Record) : Journal.Line :=
  ⟨s!"{programName}.{r.channel.name}", r.level, r.message, 0⟩

def journalTexts (settings : Journal.Settings) (times : Journal.Times) (records : List Record) :
    String × String :=
  let state := Journal.configure ⟨Level.warning, [], []⟩ settings
  let written := records.flatMap fun r => state.emit times (toLine r)
  let (console, log) := written.partition (·.1.isNone)
  (String.join (console.map (·.2)), String.join (log.map (·.2)))

/-! ## The work -/

variable {σ : Type}

structure Finish where
  ending : Ending
  page : String

/-- A result that is shown, as far as that goes. -/
def Finish.showing (ok : Bool) (page : List String) : Finish :=
  match Terminal.written page with
  | (text, none) => ⟨.done ok, text⟩
  | (text, some f) => ⟨.ofFault f, text⟩

def Finish.of (color asData ok : Bool) (data : Except Fault Entries) (page : List String) :
    Finish :=
  if asData then
    match data with
    | .ok entries => .showing ok [plainLine color (Json.write .lines (.dict entries))]
    | .error f => ⟨.ofFault f, ""⟩
  else .showing ok page

def prompter? (s : Start) (asData : Bool) : Option (Prompter Console) :=
  if asData || !s.interactive then none else some Console.prompter

def validate (s : Start) (w : Recipe.Reference) (asData : Bool) : Play σ Finish := do
  let (result, records) := Validation.run s.files w
  Stage.noteAll records
  match result with
  | .error f => return ⟨.ofFault f, ""⟩
  | .ok v => return .of s.color asData v.ok (.ok v.entries) (Page.validation s.color v)

def plan (s : Start) (w : Recipe.Reference) (choices : Choices) (asData : Bool) :
    Play σ Finish := do
  let report := Preview.run s.files w choices (prompter? s asData) s.console
  Stage.noteAll report.records
  match report.result with
  | .error f => return ⟨.ofFault f, report.asked.shown⟩
  | .ok v =>
    let finish := Finish.of s.color asData v.ok v.entries (Page.preview s.color v)
    return { finish with page := report.asked.shown ++ finish.page }

def eventText (s : Start) (m : Manner) (asData : Bool) (e : Event) : String :=
  if asData || m.quiet then "" else e.shown m.verbose s.color

def install (s : Start) (m : Manner) (runner : Project → Runner σ) (w : Recipe.Reference)
    (choices : Choices) (run : RunChoices) (asData : Bool) : Play σ Finish := do
  let eventText := eventText s m asData
  modify fun stage => { stage with objection := fun e => Terminal.objection (eventText e) }
  let (result, console) ← Installation.run s.files w runner choices run (prompter? s asData)
    s.console
  let stage ← get
  let shown := console.shown ++ String.join (stage.events.map eventText)
  match result with
  | .error f => return ⟨.ofFault f, shown⟩
  | .ok i =>
    let finish := Finish.of s.color asData i.ok (i.entries s.epoch stage.now)
      (Page.installation s.color stage.now run.dryRun i)
    return { finish with page := shown ++ finish.page }

def perform (s : Start) (m : Manner) (runner : Project → Runner σ) (e : Errand) :
    Play σ Finish :=
  let w : Recipe.Reference := ⟨e.recipe, m.config⟩
  match e.job with
  | .validate => validate s w e.asData
  | .plan choices => plan s w choices e.asData
  | .install choices run => install s m runner w choices run e.asData

/-! ## The run -/

def said (text : String) : Ended := ⟨.done true, text ++ "\n", "", none⟩

def ended (ending : Ending) : Ended := ⟨ending, "", ending.text, none⟩

def runErrand (s : Start) (m : Manner) (settings : Journal.Settings)
    (runner : Project → Runner σ) (words : List String) : Play σ Ended := do
  match Errand.read words with
  | .error denial => return ended (.ofDenial denial)
  | .ok (.text text) => return said text
  | .ok (.act e) =>
    let finish ← perform s m runner e
    let (console, log) := journalTexts settings s.times (← get).records
    return ⟨finish.ending, finish.page, Text.escaped console ++ finish.ending.text,
      (logPath? s.files settings).map (·, log)⟩

def run (s : Start) (runner : Project → Runner σ) (words : List String) : Play σ Ended := do
  match Manner.read words with
  | .error denial => return ended (.ofDenial denial)
  | .ok (.text text) => return said text
  | .ok (.act (m, rest)) =>
    let settings := Journal.Settings.ofSwitches m.debug m.verbose m.quiet s.env
    match logFault? s.files settings with
    | some f => return ended (.broken f)
    | none => runErrand { s with files := withLog s.files settings } m settings runner rest

end Provision.Program
