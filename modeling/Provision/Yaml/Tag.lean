/-!
# Tags

A tag says what a node is to become. YAML has tags of its own under a common
stem, which its repository of tags lists. From any other nothing can be made, as
a loader documents that is safe.
-/

namespace Provision.Yaml

inductive Tag where
  | null
  | truth
  | int
  | float
  | text
  | binary
  | timestamp
  | sequence
  | mapping
  | set
  /-- A mapping whose order counts, written as a sequence. -/
  | ordered
  | pairs
  /-- The key under which other mappings are taken in. -/
  | merge
  /-- The key under which a mapping has its value as a scalar. -/
  | default
  | foreign
  deriving DecidableEq, Repr, Inhabited

namespace Tag

def stem : String := "tag:yaml.org,2002:"

def names : List (String × Tag) := [
  ("null", .null), ("bool", .truth), ("int", .int), ("float", .float), ("str", .text),
  ("binary", .binary), ("timestamp", .timestamp), ("seq", .sequence), ("map", .mapping),
  ("set", .set), ("omap", .ordered), ("pairs", .pairs), ("merge", .merge), ("value", .default)]

def ofText (s : String) : Tag :=
  match names.find? fun t => stem ++ t.1 = s with
  | some t => t.2
  | none => .foreign

end Tag

end Provision.Yaml
