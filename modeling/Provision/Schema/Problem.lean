/-!
# Problems with the shape of data

A reader of data that has a declared shape reports every place where the data
departs from it. A problem names the place by the keys and positions that lead
there, and what was needed.
-/

namespace Provision.Schema

/-- What a place in the data should have held. -/
inductive Need where
  /-- A key that may not be left out. -/
  | present
  | string
  /-- Bytes that are the text of a string. -/
  | stringBytes
  | nonEmpty
  | truth
  /-- A word that reads as a truth value. -/
  | truthWord
  | list
  | dict
  | record (name : String)
  | oneOf (options : List String)
  /-- A rule between several fields, in its own words. -/
  | rule (text : String)
  deriving DecidableEq, Repr

def Need.kind : Need → String
  | .present => "missing"
  | .string => "string_type"
  | .stringBytes => "string_unicode"
  | .nonEmpty => "string_too_short"
  | .truth => "bool_type"
  | .truthWord => "bool_parsing"
  | .list => "list_type"
  | .dict => "dict_type"
  | .record _ => "model_type"
  | .oneOf _ => "enum"
  | .rule _ => "value_error"

/-- Alternatives, each between quotes and the last after "or". -/
def alternatives : List String → String
  | [] => ""
  | [a] => s!"'{a}'"
  | [a, b] => s!"'{a}' or '{b}'"
  | a :: rest => s!"'{a}', {alternatives rest}"

def Need.text : Need → String
  | .present => "missing required key"
  | .string => "Input should be a valid string"
  | .stringBytes => "Input should be a valid string, unable to parse raw data as a unicode string"
  | .nonEmpty => "String should have at least 1 character"
  | .truth => "Input should be a valid boolean"
  | .truthWord => "Input should be a valid boolean, unable to interpret input"
  | .list => "Input should be a valid list"
  | .dict => "Input should be a valid dictionary"
  | .record name => s!"Input should be a valid dictionary or instance of {name}"
  | .oneOf options => s!"Input should be {alternatives options}"
  | .rule text => text

structure Problem where
  path : List String
  need : Need
  deriving DecidableEq, Repr

def Problem.place (p : Problem) : String := ".".intercalate p.path

/-- A problem in one line. The place is left out when it is the whole. -/
def Problem.text (p : Problem) : String :=
  if p.place = "" ∧ p.need ≠ .present then p.need.text
  else s!"'{p.place}': {p.need.text}"

def Problem.under (key : String) (p : Problem) : Problem := { p with path := key :: p.path }

end Provision.Schema
