import Provision.Outcome

/-!
# Rehearsed faults

A rehearsal can have a command raise any fault. It is given by name, with the
arguments it is made from, and reads as a fault of that name does: conditions
show their code, a missing key is quoted, and a system fault with a number shows
that number and goes by the name of its cause.
-/

namespace Provision.Rehearsal

def systemNames : List (Int × String) := [
  (1, "PermissionError"), (2, "FileNotFoundError"), (3, "ProcessLookupError"),
  (4, "InterruptedError"), (10, "ChildProcessError"), (11, "BlockingIOError"),
  (13, "PermissionError"), (17, "FileExistsError"), (20, "NotADirectoryError"),
  (21, "IsADirectoryError"), (32, "BrokenPipeError"), (103, "ConnectionAbortedError"),
  (104, "ConnectionResetError"), (110, "TimeoutError"), (111, "ConnectionRefusedError")]

def mishapOfName (name : String) : Mishap :=
  match name with
  | "TypeError" => .wrongKind
  | "ValueError" => .wrongValue
  | "KeyError" => .noSuchKey
  | "IndexError" => .noSuchPlace
  | "LookupError" => .nothingLeft
  | "AttributeError" => .noSuchField
  | "FileNotFoundError" => .noSuchFile
  | "OSError" => .system
  | name => .other name

def argumentsText : List Value → String
  | [] => ""
  | [v] => v.text
  | vs =>
    String.ofList ('(' :: (Value.joinChars [',', ' '] (Value.nestedItems vs) ++ [')']))

def systemFault (name : String) (args : List Value) : Fault :=
  match args with
  | number :: reason :: more =>
    let place := match more with
      | [] => ""
      | p :: _ => ": " ++ String.ofList p.nested
    let name := match name, number with
      | "OSError", .int n => (systemNames.lookup n).getD name
      | _, _ => name
    .mishap (mishapOfName name) (s!"[Errno {number.text}] {reason.text}" ++ place)
  | args => .mishap (mishapOfName name) (argumentsText args)

def conditionOfName? (name : String) : Option Condition :=
  Condition.all.find? (·.name = name)

def conditionFault (c : Condition) (args : List Value) : Fault :=
  let first := (args.head?.map Value.text).getD ""
  match c, args with
  | .invalidRecipe, _ :: problems :: _ =>
    .invalidRecipe first ((problems.asList?.getD []).map Value.text)
  | .invalidRecipe, _ => .invalidRecipe first []
  | .unknownAction, [action, engine] => .unknownAction action.text engine.text
  | .missingOption, _ => .missingOption first
  | c, _ => .of c first

def faultOfName (name : String) (args : List Value) : Fault :=
  match conditionOfName? name with
  | some c => conditionFault c args
  | none =>
    if name = "OSError" ∨ name = "FileNotFoundError" then systemFault name args
    else match name, args with
    | "KeyError", [key] => .mishap .noSuchKey (String.ofList key.nested)
    | _, _ => .mishap (mishapOfName name) (argumentsText args)

def bubbledOutcome (name message : String) (now : Moment) : Outcome :=
  ((Outcome.begin name .unknown {} now).error (.value (.str message)) .null now).outcome

end Provision.Rehearsal
