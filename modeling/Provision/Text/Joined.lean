/-!
# Joined texts
-/

namespace Provision.Text

/-- Texts in a row, with a comma and a blank between two of them. -/
def commas (items : List String) : String := ", ".intercalate items

def lines (items : List String) : String := "\n".intercalate items

end Provision.Text
