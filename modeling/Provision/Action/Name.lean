/-!
# Names of actions

The closed set of actions that a step can call.
-/

namespace Provision

inductive ActionName where
  | createScratchOrg
  | deleteScratchOrg
  | deployMetadata
  | importDataTree
  | executeApex
  | installPackage
  | createUser
  | configureAdminUser
  deriving DecidableEq, Repr, Inhabited

namespace ActionName

def all : List ActionName :=
  [.createScratchOrg, .deleteScratchOrg, .deployMetadata, .importDataTree, .executeApex,
    .installPackage, .createUser, .configureAdminUser]

def text : ActionName → String
  | .createScratchOrg => "create-scratch-org"
  | .deleteScratchOrg => "delete-scratch-org"
  | .deployMetadata => "deploy-metadata"
  | .importDataTree => "import-data-tree"
  | .executeApex => "execute-apex"
  | .installPackage => "install-package"
  | .createUser => "create-user"
  | .configureAdminUser => "configure-admin-user"

def lookup? (name : String) : Option ActionName := all.find? (·.text = name)

theorem mem_all (a : ActionName) : a ∈ all := by cases a <;> decide

theorem text_injective {a b : ActionName} (h : a.text = b.text) : a = b := by
  revert h; cases a <;> cases b <;> decide

theorem lookup?_eq_some_iff {name : String} {a : ActionName} :
    lookup? name = some a ↔ a.text = name := by
  constructor
  · intro h; simpa using List.find?_some h
  · intro h
    cases hf : lookup? name with
    | none =>
      have := List.find?_eq_none.1 hf a (mem_all a)
      simp [h] at this
    | some b =>
      have hb : b.text = name := by simpa using List.find?_some hf
      rw [text_injective (hb.trans h.symm)]

end ActionName

end Provision
