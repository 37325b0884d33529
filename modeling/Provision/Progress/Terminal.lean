import Provision.Progress
import Provision.Terminal.Style

/-!
# Progress on a terminal

Beginnings, completions and failures are shown with a mark. What is going on in
between is shown only on request, and then not when there is nothing to say.
-/

namespace Provision.Event

open Terminal

def shown (verbose color : Bool) (e : Event) : String :=
  match e.kind with
  | .start => shownLine color { color := some .cyan } s!"▶ {e.text}"
  | .progress =>
    if verbose && e.text != "" then shownLine color { dim := true } s!"   {e.text}" else ""
  | .complete => shownLine color { color := some .green } s!"   ✓ {e.text}"
  | .error => shownLine color { color := some .red } s!"   ✗ {e.text}"

end Provision.Event
