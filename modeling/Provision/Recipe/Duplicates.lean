/-!
# Repeated names

The names that occur more than once in a list, each once, in the order in which
they occur for the second time.
-/

namespace Provision.Recipe

/-- Goes through the names with those seen so far and those found repeated. -/
def duplicatesFrom (seen found : List String) : List String → List String
  | [] => found
  | a :: rest =>
    duplicatesFrom (seen ++ [a]) (if a ∈ seen ∧ a ∉ found then found ++ [a] else found) rest

def duplicates (names : List String) : List String := duplicatesFrom [] [] names

end Provision.Recipe
