import Provision.Fault

/-!
# Tokens of YAML

A YAML text is a row of tokens. Blocks are told by indentation: where a deeper
block begins a start token stands, and where it ends an end token.

Project files are read by the safe loader of a YAML library that is not part of
this project. The modules about YAML stand for it. They follow YAML 1.1 and what
the loader documents of itself: it makes plain data only and knows no tags but
those of YAML. Where the specification leaves a choice, the loader is assumed to
choose as the modules say. The reason in a refusal leaves out the place in the text.
-/

namespace Provision.Yaml

inductive Directive where
  | version (major minor : Nat)
  | tag (handle stem : String)
  | unknown
  deriving DecidableEq, Repr, Inhabited

inductive Token where
  | streamEnd
  | directive (d : Directive)
  | documentStart
  | documentEnd
  | blockSequenceStart
  | blockMappingStart
  | blockEnd
  | flowSequenceStart
  | flowSequenceEnd
  | flowMappingStart
  | flowMappingEnd
  | flowEntry
  | blockEntry
  | key
  | value
  | aliased (name : String)
  | anchor (name : String)
  | tag (handle : Option String) (suffix : String)
  | scalar (text : String) (plain : Bool)
  deriving DecidableEq, Repr, Inhabited

/-- Why a text is refused: it is no YAML, or something in it cannot be made into
a value. -/
inductive Refusal where
  | malformed (reason : String)
  | mishap (m : Mishap) (text : String)
  deriving DecidableEq, Repr

end Provision.Yaml
