import Provision.Installation
import Provision.Preview
import Provision.Terminal.Style
import Provision.Validation

/-!
# Results on a terminal

What is shown of a validation, a preview and an installation to someone who reads
it, as the texts that are shown in turn. The outcome of an installation is shown as
a tree, one line a node, with the reason below a node that failed on its own.
-/

namespace Provision.Program

open Terminal

structure Badge where
  mark : String
  color : Color

def badge : Status → Badge
  | .success => ⟨"✅", .green⟩
  | .warning => ⟨"⚠️ ", .yellow⟩
  | .failure => ⟨"❌", .red⟩
  | .error => ⟨"💥", .red⟩
  | _ => ⟨"•", .white⟩

namespace Page

variable (color : Bool)

def plain (lines : List String) : List String := lines.map (plainLine color)

def blank : List String := plain color [""]

def colored (c : Color) (text : String) : List String :=
  [shownLine color { color := some c } text]

def heading (c : Color) (text : String) : List String :=
  [shownLine color { color := some c, bold := true } text]

def bullet (text : String) : String := s!"   • {text}"

/-! ## Validations -/

def warnings (ws : List String) : List String :=
  if ws.isEmpty then []
  else blank color ++ colored color .yellow "⚠️  Warnings:" ++ plain color (ws.map bullet)

def validation : Validation → List String
  | .invalid errors =>
    heading color .red "❌ Recipe errors:" ++ plain color (errors.map bullet) ++ blank color
  | .valid _ r ws =>
    heading color .green "✅ Recipe is valid" ++
    plain color [s!"   Recipe: {r.document.name}", s!"   Type: {r.document.type}",
      s!"   Step groups: {r.document.groups.length}",
      s!"   Target orgs: {r.document.options.targets.length}"] ++
    warnings color ws ++ blank color

/-! ## Previews -/

def refusal (cancelled : Bool) (error : String) : List String :=
  if cancelled then colored color .yellow s!"🛑 {error}" else colored color .red s!"❌ {error}"

def targetLine (t : Recipe.Target) : String :=
  let sort := if t.isScratchOrg then "scratch" else "persistent"
  s!"   Target org: {t.aliasName} ({sort})"

def group (g : Plan.TaskGroup) : List String :=
  heading color .white s!"   {g.name}" ++
  plain color (g.tasks.map fun t => s!"     • {t.name}  → {t.action}")

def plan (name : String) (s : Setting) (tree : Plan.Tree) : List String :=
  heading color .cyan s!"\n📋 Plan: {name}" ++
  plain color ((s.target.map targetLine).toList ++
    [s!"   Halt on error: {s.haltOnError.text}"]) ++ blank color ++
  tree.flatMap (group color) ++ blank color ++
  plain color [s!"   {tree.length} group(s), {tree.taskCount} step(s)"] ++ blank color

def preview : Preview → List String
  | .refused cancelled error => refusal color cancelled error
  | .planned r e => plan color r.document.name (e.setting.getD default) (e.tree.getD [])

/-! ## Installations -/

def indent (depth : Nat) : String :=
  String.ofList (List.replicate (3 * (depth + 1)) ' ')

def reasons (o : Outcome) : List String :=
  if (o.status = .failure ∨ o.status = .error) ∧ o.children.isEmpty then
    let cause := o.detail.getD "cause"
    (if o.message = "" then [] else [o.message]) ++
    (if cause.truthy && !cause.same (.str o.message) then [s!"cause: {cause.text}"] else [])
  else []

def node (now : Moment) (depth : Nat) (o : Outcome) : List String :=
  let b := badge o.status
  shown color s!"{indent depth}{b.mark} {o.name} " ::
  colored color b.color s!"{o.status.name} ({o.durationText now})" ++
  plain color ((reasons o).map fun s => s!"{indent depth}   {s}")

def tree (now : Moment) (o : Outcome) : List String :=
  o.walk.flatMap fun n => node color now n.1 n.2

def finished (dryRun : Bool) (status : Status) : List String :=
  let b := badge status
  let label := if dryRun then "Dry run" else "Installation"
  heading color b.color s!"{b.mark} {label} finished: {status.name}"

def installation (now : Moment) (dryRun : Bool) : Installation → List String
  | .unread error => refusal color false error
  | .stopped _ cancelled error => refusal color cancelled error
  | .ran _ o error =>
    blank color ++ tree color now o ++ blank color ++ finished color dryRun o.status ++
    plain color (error.toList.map fun e => s!"   {e}") ++ blank color

end Page

end Provision.Program
