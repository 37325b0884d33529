import Provision.Command
import Provision.Shell.Quote
import Provision.Text.Case
import Provision.Text.Points
import Provision.Value.Display

/-!
# Command lines

A command as one line for a shell. The program, the arguments and the values of
flags are quoted. A flag whose value is true stands alone, and one whose value is
false or null is left out.
-/

namespace Provision.Command

def defaultProgram : String := "sfdx"

def flagName? (key : String) : Option String :=
  if ("FLAG_".toList).isPrefixOf (Text.upper key).toList then
    some (Text.lower (Text.drop 5 key))
  else none

def flagWord (name : String) : String := (if Text.size name = 1 then "-" else "--") ++ name

def flagText? (key : String) (value : Value) : Option String :=
  match flagName? key, value with
  | none, _ => none
  | some _, .null => none
  | some name, .bool b => if b then some (flagWord name) else none
  | some name, v => some s!"{flagWord name} {Shell.quote v.text}"

def line (c : Command) (program : String) : String :=
  " ".intercalate ([Shell.quote program, c.command] ++ c.args.map Shell.quote ++
    c.flags.filterMap fun f => flagText? f.1 f.2)

end Provision.Command
