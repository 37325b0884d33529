import Provision.Objection
import Provision.Text.Utf8

/-!
# What a terminal shows

A terminal takes one text at a time, and takes it as a whole or not at all. It has
no way to write half of a surrogate pair, so a text that holds one is refused, and
nothing is shown any more.
-/

namespace Provision.Terminal

def objection : Objection String := fun text =>
  (Text.unwritable? text).map fun e => .mishap .notWritable e.message

def written (texts : List String) : String × Option Fault :=
  let (taken, refused) := objection.taken texts
  (String.join taken, refused)

theorem objection_eq_none_iff {text : String} :
    objection text = none ↔ Text.hasSurrogate text = false := by
  simp [objection, Text.unwritable?_eq_none_iff]

theorem written_eq_join {texts : List String}
    (h : ∀ text ∈ texts, Text.hasSurrogate text = false) :
    written texts = (String.join texts, none) := by
  simp [written, Objection.taken_of_forall fun t ht => objection_eq_none_iff.2 (h t ht)]

end Provision.Terminal
