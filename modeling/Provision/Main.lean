import Std.Time.DateTime.Timestamp
import Provision.Program.Run
import Provision.Program.Sight
import Provision.Runner.Tool

/-!
# The program

Reads the files that a run may look at, runs, and shows what came of it. When the
typed lines do not suffice, another one is read and the run is repeated: it shows
what it showed before and goes on from there.

Nothing is launched from here, so the command line tool counts as not installed.
-/

namespace Provision.Main

open Program (Start)

def received (s : String) : String := String.ofList (Text.ofChars s.toList)

def sent (s : String) : String := String.ofList (Text.chars s)

def bytes? (path : Files.Path) : IO (Option (List UInt8)) := do
  try
    let bytes ← IO.FS.readBinFile (sent path.text)
    return some bytes.toList
  catch _ => return none

def look (files : Files) : List Files.Path → IO Files
  | [] => return files
  | path :: rest => do
    match files.stat path with
    | .ok _ => look files rest
    | .error _ =>
      match ← bytes? path with
      | some bytes => look { files with entries := (path.names, .file bytes) :: files.entries } rest
      | none => look files rest

def gather (w : Recipe.Reference) : Nat → Files → IO Files
  | 0, files => return files
  | n + 1, files => do gather w n (← look files (Program.sights files w))

def tool : Tool where
  available := false
  launch := fun _ => .refused (.fault (.mishap .system "Nothing can be launched from here"))

def times (epoch : Int) : Journal.Times :=
  let stamp := (Moment.zero.stamp epoch).toList
  let day := String.ofList (stamp.take 10)
  let clock := String.ofList ((stamp.drop 11).take 8)
  ⟨clock, s!"{day} {clock},000"⟩

def environment : IO (List (String × String)) := do
  let names := ["SBX_LOG_LEVEL", "SBX_LOG_FILE", "SBX_LOG_FILE_LEVEL"]
  let pairs ← names.mapM fun name => return (← IO.getEnv name).map fun v => (name, received v)
  return pairs.filterMap id

def start (words : List String) : IO Start := do
  let cwd := Files.Path.ofText (received ((← IO.getEnv "PWD").getD "/"))
  let here : Files := { entries := [(cwd.names, .directory)], cwd }
  let files ← match Program.reference? words with
    | some w => gather w Program.sightRounds here
    | none => pure here
  let epoch := (← Std.Time.Timestamp.now).toSecondsSinceUnixEpoch.val
  return {
    files, epoch
    env := ← environment
    interactive := ← (← IO.getStdin).isTty
    console := { color := ← (← IO.getStdout).isTty, echo := false, lines := [] }
    times := times epoch }

def addToLog (log : Option (Files.Path × String)) : IO Unit := do
  match log with
  | none => return
  | some (path, text) => (← IO.FS.Handle.mk (sent path.text) .append).putStr (sent text)

def close (e : Program.Ended) : IO UInt32 := do
  addToLog e.log
  (← IO.getStderr).putStr (sent e.errors)
  match e.ending with
  | .broken f => (← IO.getStderr).putStrLn s!"{f.name}: {sent (Text.escaped f.text)}"
  | _ => pure ()
  return UInt32.ofNat e.ending.code

/-- Runs, and shows what goes beyond the first characters. -/
partial def converse (s : Start) (words : List String) (shown : Nat) : IO UInt32 := do
  let (e, _) := (Program.run s (fun _ => tool.toRunner) words).run (.opened [] .zero)
  let stdout ← IO.getStdout
  let output := sent e.output
  stdout.putStr (String.ofList (output.toList.drop shown))
  stdout.flush
  if e.ending = .aborted && s.interactive then
    let line ← (← IO.getStdin).getLine
    if line = "" then close e
    else
      let typed := received (String.ofList (line.toList.filter (· ≠ '\n')))
      converse { s with console := { s.console with lines := s.console.lines ++ [typed] } } words
        output.length
  else close e

end Provision.Main

def main (words : List String) : IO UInt32 := do
  let words := words.map Provision.Main.received
  Provision.Main.converse (← Provision.Main.start words) words 0
