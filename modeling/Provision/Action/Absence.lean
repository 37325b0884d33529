import Provision.Outcome
import Provision.Text.Occurs
import Provision.Value.Display

/-!
# Orgs that are not there

To delete an org that does not exist is no failure: it is gone already. The tool
says so in one of a few phrases, in whatever case, somewhere in its report.
-/

namespace Provision.Action

/-- How the tool says that an alias has no org behind it. -/
def absencePhrases : List String :=
  ["NamedOrgNotFound", "NoOrgFound", "No org configuration found",
    "No authorization information found"]

/-- A letter without its case. A few letters outside ASCII have one of ASCII as
their other case. -/
def foldLetter (c : Char) : Char :=
  match c with
  | '\u0130' => 'i'
  | '\u0131' => 'i'
  | '\u017f' => 's'
  | '\u212a' => 'k'
  | c => c.toLower

def folded (s : String) : List Char := s.toList.map foldLetter

/-- All that a failed outcome says about its cause, in one text. -/
def evidence (o : Outcome) : String :=
  let part (key : String) : String := ((o.detail.get? key).getD (.str "")).text
  " ".intercalate [o.message, part "cause", part "error_name", part "stderr"]

def saysAbsent (o : Outcome) : Bool :=
  absencePhrases.any fun p => Text.occurs (folded p) (folded (evidence o))

def absenceWarning? (org : String) (o : Outcome) (now : Moment) : Option Outcome :=
  if o.status = .failure ∧ saysAbsent o then
    some (o.downgrade s!"Scratch org '{org}' did not exist" now)
  else none

end Provision.Action
