import Provision.Fault
import Provision.Journal

/-!
# Writing the journal

Work that may fail and that leaves records behind, whether or not it fails.
-/

namespace Provision

abbrev Journaled (α : Type) := ExceptT Fault (StateM (List Record)) α

namespace Journaled

def note (r : Record) : Journaled Unit := modify (· ++ [r])

def outcome {α : Type} (work : Journaled α) : Except Fault α × List Record := work.run.run []

end Journaled

end Provision
