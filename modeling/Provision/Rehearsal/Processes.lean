import Provision.Runner.Tool
import Provision.Text.Occurs
import Provision.Text.Points

/-!
# Rehearsed processes

A script of processes: a line gets the first process whose mark it contains, each
time anew. A line that no mark fits ends well.
-/

namespace Provision.Rehearsal

structure Part where
  mark : String
  ending : Ending

def usualOutput : List UInt8 := "\x7b\"status\": 0, \"result\": \x7b\x7d\x7d".toUTF8.toList

def launch (script : List Part) (line : String) : Ending :=
  match script.find? fun p => Text.occurs (Text.points p.mark.toList) (Text.points line.toList) with
  | some p => p.ending
  | none => .ended usualOutput [] 0 0.0

end Provision.Rehearsal
