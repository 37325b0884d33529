import Provision.Json.Fault
import Provision.Text.Blank

/-!
# The output of a command

A command writes one JSON object to its output. What is JSON but no object, and
what is no JSON at all, is kept under a key of its own.
-/

namespace Provision.Command

/-- The entries of an output. What goes beyond the reader's limits is a fault. -/
def parseOutput (output : String) : Except Fault Entries :=
  let text := Text.trim output
  if text = "" then .ok []
  else match Json.read text with
  | .ok (.dict entries) => .ok entries
  | .ok v => .ok [("result", v)]
  | .error (.malformed ..) => .ok [("unparsed", .str text)]
  | .error e => .error (e.fault text)

end Provision.Command
