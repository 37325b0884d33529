import Provision.Project
import Provision.Schema
import Provision.Text.Utf8
import Provision.Yaml.Datum

/-!
# The entries of a project file

A project file holds a mapping. All its keys may be left out, and keys that are
not known are passed over. Where a string is wanted, bytes will do that are its
text, and where a list is wanted, a set will do. That much the library that
validates records documents to convert where a field is not strict.
-/

namespace Provision.ProjectConfig

open Schema
open Yaml (Datum)

def text : Datum → Checked String
  | .text s => .ok s
  | .bytes bs =>
    match Text.decodeUtf8 bs with
    | .ok s => .ok s
    | .error _ => need .stringBytes
  | _ => need .string

def optionalText : Datum → Checked (Option String)
  | .null => .ok none
  | d => some <$> text d

def textsFrom : Nat → List Datum → Checked (List String)
  | _, [] => .ok []
  | i, d :: ds => Checked.and (List.cons <$> Checked.under (toString i) (text d)) (textsFrom (i + 1) ds)

def texts : Datum → Checked (List String)
  | .list items => textsFrom 0 items
  | .set items => textsFrom 0 items
  | _ => need .list

def field {α : Type} (es : List (String × Datum)) (key : String) (r : Datum → Checked α) (a : α) :
    Checked α :=
  match es.lookup key with
  | none => .ok a
  | some d => Checked.under key (r d)

def fields (es : List (String × Datum)) : Checked ProjectConfig :=
  Checked.and (.and (.and (.and (.and (.and (.and (.ok ProjectConfig.mk)
    (field es "name" text ""))
    (field es "alias" text ""))
    (field es "description" text ""))
    (field es "default_recipe" optionalText none))
    (field es "recipes" texts []))
    (field es "dev_hub_alias" optionalText none))
    (field es "log_level" optionalText none)

def ofDatum : Datum → Checked ProjectConfig
  | .mapping es => fields es
  | _ => need (.record "ProjectConfig")

mutual

def datumOf : Value → Datum
  | .null => .null
  | .str s => .text s
  | .list items => .list (dataOf items)
  | .dict entries => .mapping (entriesOf entries)
  | .bool _ => .other "bool"
  | .int _ => .other "int"
  | .float _ => .other "float"

def dataOf : List Value → List Datum
  | [] => []
  | v :: rest => datumOf v :: dataOf rest

def entriesOf : List (String × Value) → List (String × Datum)
  | [] => []
  | (k, v) :: rest => (k, datumOf v) :: entriesOf rest

end

end Provision.ProjectConfig
