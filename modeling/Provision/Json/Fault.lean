import Provision.Fault
import Provision.Json.Reader

/-!
# Faults of JSON texts

What comes of a text that cannot be read. Only a malformed text is at fault as
JSON; the others go beyond what a reader takes.
-/

namespace Provision.Json

def ReadFault.mishap : ReadFault → Mishap
  | .malformed .. => .notJson
  | .oversized _ => .wrongValue
  | .tooDeep _ => .other "RecursionError"

def ReadFault.fault (e : ReadFault) (text : String) : Fault := .mishap e.mishap (e.message text)

end Provision.Json
