import Provision.Schema

/-!
# Commands

A command for the platform's command line tool: its name, arguments and flags,
and the messages to show while it runs. A flag's key starts with `FLAG_`.
-/

namespace Provision

structure Command where
  command : String
  args : List String := []
  flags : Entries := []
  progressMsg : String := ""
  errorMsg : String := ""
  successMsg : String := ""
  deriving Inhabited

namespace Command

open Schema

def fields (es : Entries) : Checked Command :=
  Checked.and (.and (.and (.and (.and (.and (.ok Command.mk)
    (required es "command" "command" string))
    (withDefault es "args" "args" (list string) []))
    (withDefault es "flags" "flags" dict []))
    (withDefault es "progress_msg" "progress_msg" string ""))
    (withDefault es "error_msg" "error_msg" string ""))
    (withDefault es "success_msg" "success_msg" string "")

def read : Reader Command := record "CommandDefinition" fields

def messages (c : Command) : Entries :=
  [("progress_msg", .str c.progressMsg), ("error_msg", .str c.errorMsg),
    ("success_msg", .str c.successMsg)]

def toValue (c : Command) : Value :=
  .dict ([("command", .str c.command), ("args", .ofStrings c.args),
    ("flags", .dict c.flags)] ++ c.messages)

end Command

end Provision
