import Provision.Command.Line
import Provision.Command.Output
import Provision.Runner
import Provision.Text.Utf8

/-!
# The platform's command line tool

A command becomes a line for a shell. It has failed when its process did not end
in time, wrote to its error output, ended with a code other than zero, or printed
a status other than zero. A failure is reported in the command's own words; what
the tool said is kept in the detail.

How a process ends is given by a function of its line, so the rules here hold for
all processes.
-/

namespace Provision

open Text (trim decodeUtf8Lenient)

inductive Ending where
  /-- It could not be launched. -/
  | refused (r : Raised)
  /-- It was still running when the time was up. -/
  | overdue (elapsed : Float)
  | ended (output errors : List UInt8) (code : Int) (elapsed : Float)

inductive ShellEvent where
  | launched (line : String) (directory : Option String)
  | killed

structure Tool where
  program : String := Command.defaultProgram
  /-- Seconds, or null for as long as it takes. -/
  timeout : Value := .null
  directory : Option String := none
  available : Bool := true
  launch : String → Ending

namespace Tool

def name : String := "sfdx"

/-- A time-out that is over before anything begins. -/
def instant : Value → Bool
  | .int n => n ≤ 0
  | .float x => x ≤ 0.0
  | .bool b => !b
  | _ => false

/-- The process for a line. A time-out of nothing leaves it no time. -/
def ending (t : Tool) (line : String) : Ending :=
  match t.launch line with
  | .refused r => .refused r
  | e => if instant t.timeout then .overdue 0.0 else e

def statusOk (status : Value) : Bool :=
  status.same (.int 0) || status.same .null

def firstGiven : Value → List Value → Value
  | v, [] => v
  | v, w :: rest => if v.truthy then v else firstGiven w rest

def codeText (code : Int) : Value := .str s!"Command exited with code {code}"

def withMessages (c : Command) (es : Entries) : Value := .dict (Entries.merge es c.messages)

def begun (c : Command) (line : String) (now : Moment) : Outcome :=
  (Outcome.begin s!"executeSfdxCommand:{c.command}" .executor {} now).withDetail
    (withMessages c [("cmd_raw", .str line)])

def failureLine (o : Outcome) (report : Value) (now : Moment) : String :=
  s!"[{o.durationText now}] FAILURE: {report.text}"

def opening (c : Command) : List String :=
  s!"[0.00s] Executing {c.command}" :: if c.progressMsg = "" then [] else [c.progressMsg]

/-- The report on a command that was not done in time: its outcome, what is said of it
and what is recorded. -/
def timedOut (t : Tool) (c : Command) (o : Outcome) (now : Moment) :
    Outcome × String × List Record :=
  let cause := s!"Command timed out after {t.timeout.text}s"
  let report := firstGiven (.str c.errorMsg) [.str cause]
  ((o.fail (.value report) (.dict [("timeout", t.timeout), ("cause", .str cause)]) now).outcome,
    failureLine o report now, [.warning .process s!"{c.command}: {cause}"])

def judged (c : Command) (o : Outcome) (parsed : Entries) (errors : String) (code : Int)
    (now : Moment) : Outcome × String × List Record :=
  let status := (parsed.get? "status").getD (.int 0)
  if errors ≠ "" ∨ code ≠ 0 ∨ !statusOk status then
    let cause := firstGiven (.str errors) [parsed.getD "message", codeText code]
    let report := firstGiven (.str c.errorMsg) [cause]
    ((o.fail (.value report) (.dict [("cause", cause), ("return_code", .int code),
        ("stderr", .str errors), ("error_name", (parsed.get? "name").getD (.str "")),
        ("cli_output", .dict parsed)]) now).outcome,
      failureLine o report now, [.debug .process s!"{c.command} failed: {cause.text}"])
  else
    ((o.succeed (.dict (Entries.merge [("return_code", .int code)] parsed)) now).outcome,
      s!"[{o.durationText now}] SUCCESS: {c.successMsg}", [])

/-- Adds the last message to a reply. An outcome that could not be reported does not
count. -/
def close (objection : Objection String) (last : String) (reply : Runner.Reply (List ShellEvent)) :
    Runner.Reply (List ShellEvent) :=
  match objection last with
  | some f => { reply with result := .error (.fault f) }
  | none => { reply with progress := reply.progress ++ [last] }

/-- Runs a command. It is launched only when what is said before has been heard. -/
def run (t : Tool) (c : Command) (now : Moment) (objection : Objection String)
    (log : List ShellEvent) : Runner.Reply (List ShellEvent) :=
  let line := c.line t.program
  let o := begun c line now
  let records := [Record.debug .process s!"Executing: {line}"]
  match objection.taken (opening c) with
  | (heard, some f) => ⟨.error (.fault f), heard, records, now, log⟩
  | (heard, none) =>
    let log := log ++ [.launched line t.directory]
    match t.ending line with
    | .refused r => ⟨.error r, heard, records, now, log⟩
    | .overdue elapsed =>
      let now := now.after elapsed
      let (o, last, more) := t.timedOut c o now
      close objection last ⟨.ok o, heard, records ++ more, now, log ++ [.killed]⟩
    | .ended output errors code elapsed =>
      let now := now.after elapsed
      match Command.parseOutput (decodeUtf8Lenient output) with
      | .error f => ⟨.error (.fault f), heard, records, now, log⟩
      | .ok parsed =>
        let (o, last, more) := judged c o parsed (trim (decodeUtf8Lenient errors)) code now
        close objection last ⟨.ok o, heard, records ++ more, now, log⟩

def toRunner (t : Tool) : Runner (List ShellEvent) := ⟨name, t.available, t.run⟩

end Tool

end Provision
