import Provision.Recipe.Loading

/-!
# Previewing an installation

A recipe is loaded and compiled, and the plan is shown. Nothing is run, so no
runner is needed, but compiling may ask questions.
-/

namespace Provision

inductive Preview where
  /-- There is no plan, for a reason, or because the user called it off. -/
  | refused (cancelled : Bool) (error : String)
  | planned (recipe : Recipe) (engine : Plan.Engine)

namespace Preview

open Interview (Prompter)

structure Report (π : Type) where
  result : Except Fault Preview
  asked : π
  records : List Record

/-- What a fault makes of a preview. Faults from elsewhere are not its business. -/
def ofFault (f : Fault) : Except Fault Preview × List Record :=
  match f with
  | .condition .installationCancelled _ _ => (.ok (.refused true f.text), [])
  | .config .. => (.ok (.refused false f.text), [.debug .plan s!"Plan failed: {f.text}"])
  | .condition .. => (.ok (.refused false f.text), [.debug .plan s!"Plan failed: {f.text}"])
  | _ => (.error f, [])

variable {π : Type}

def faulty (f : Fault) (asked : π) (records : List Record) : Report π :=
  let (result, more) := ofFault f
  ⟨result, asked, records ++ more⟩

def run (files : Files) (w : Recipe.Reference) (choices : Choices) (p : Option (Prompter π))
    (asked : π) : Report π :=
  let (loaded, records) := (Recipe.load files w).outcome
  match loaded with
  | .error f => faulty f asked records
  | .ok (_, r) =>
    let c := r.compile p choices asked
    match c.result with
    | .error f => faulty f c.asked (records ++ c.records)
    | .ok e => ⟨.ok (.planned c.recipe e), c.asked, records ++ c.records⟩

def cancelled : Preview → Bool
  | .refused cancelled _ => cancelled
  | .planned .. => false

def ok : Preview → Bool
  | .refused .. => false
  | .planned .. => true

def stepCount : Preview → Nat
  | .refused .. => 0
  | .planned _ e => (e.tree.getD []).taskCount

def entries : Preview → Except Fault Entries
  | .refused cancelled error => .ok [("error", .str error), ("cancelled", .bool cancelled)]
  | .planned r e => do
    let context ← e.contextValue
    let tree := e.tree.getD []
    return [("recipe", .str r.document.name), ("context", context), ("groups", tree.toValue),
      ("group_count", .int tree.length), ("step_count", .int tree.taskCount)]

end Preview

end Provision
