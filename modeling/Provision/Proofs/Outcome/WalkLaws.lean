import Mathlib.Data.List.Basic
import Provision.Outcome.Report

/-!
# The order of a walk

A node of a tree stands at a path, the positions of the parts to go to from the root on. A walk
comes to the nodes in the order of their paths, where a path comes before those that go on from
it: the stack holds what is left of that order (`walkStack_eq`). The report of a tree, read from
the outside in, has its dictionaries in the same order (`outline_report`).
-/

namespace Provision

-- ---------------------------------------------------------------------------
-- Nested data
-- ---------------------------------------------------------------------------

abbrev Line := Nat × Value × Value

mutual

/-- The dictionaries that are nested in one another as children, a dictionary before its own
children and these from first to last. -/
def outline (depth : Nat) : Value → List Line
  | .dict entries =>
    (depth, Entries.getD "name" entries, Entries.getD "status" entries) ::
      outlineUnder (depth + 1) entries
  | .list items => outlines depth items
  | _ => []

def outlines (depth : Nat) : List Value → List Line
  | [] => []
  | v :: rest => outline depth v ++ outlines depth rest

def outlineUnder (depth : Nat) : List (String × Value) → List Line
  | [] => []
  | (key, v) :: rest => if key = "children" then outline depth v else outlineUnder depth rest

end

theorem outlineUnder_append {depth : Nat} {es more : Entries} (h : "children" ∉ Entries.keys es) :
    outlineUnder depth (es ++ more) = outlineUnder depth more := by
  induction es with
  | nil => rfl
  | cons e es ih =>
    simp only [Entries.keys, List.map_cons, List.mem_cons, not_or] at h
    rw [List.cons_append, outlineUnder, if_neg (Ne.symm h.1)]
    exact ih h.2

namespace Outcome

variable {o c : Outcome} {cs : List Outcome} {depth i : Nat} {path : List Nat}

-- ---------------------------------------------------------------------------
-- Trees
-- ---------------------------------------------------------------------------

theorem size_lt_of_mem (h : c ∈ cs) : c.size < 1 + sizes cs := by
  induction cs with
  | nil => cases h
  | cons d cs ih =>
    rw [sizes]
    rcases List.mem_cons.1 h with rfl | h
    · omega
    · have := ih h
      omega

theorem parts_induction {motive : Outcome → Prop}
    (node : ∀ o, (∀ c ∈ o.children, motive c) → motive o) (o : Outcome) : motive o :=
  node o fun c (_ : c ∈ o.children) => parts_induction node c
termination_by o.size
decreasing_by
  rw [size_eq o]
  exact size_lt_of_mem ‹c ∈ o.children›

def node? : Outcome → List Nat → Option Outcome
  | o, [] => some o
  | o, i :: path => o.children[i]?.bind fun c => c.node? path

mutual

def preorder (depth : Nat) : Outcome → List (Nat × Outcome)
  | o@⟨_, _, _, _, _, _, _, _, _, _, _, children⟩ => (depth, o) :: preorders (depth + 1) children

def preorders (depth : Nat) : List Outcome → List (Nat × Outcome)
  | [] => []
  | c :: cs => preorder depth c ++ preorders depth cs

end

theorem preorder_eq (depth : Nat) (o : Outcome) :
    preorder depth o = (depth, o) :: preorders (depth + 1) o.children := by
  cases o
  rw [preorder]

theorem preorders_eq (depth : Nat) (cs : List Outcome) :
    preorders depth cs = cs.flatMap (preorder depth) := by
  induction cs with
  | nil => rfl
  | cons c cs ih => rw [preorders, ih, List.flatMap_cons]

-- ---------------------------------------------------------------------------
-- The stack
-- ---------------------------------------------------------------------------

/-- What is still to be visited is what lies on the stack, each with all below it. -/
theorem walkStack_eq (stack : List (Nat × Outcome)) :
    walkStack stack = stack.flatMap fun n => preorder n.1 n.2 := by
  induction stack using walkStack.induct with
  | case1 => simp [walkStack]
  | case2 depth o rest ih =>
    have hparts : (atDepth (depth + 1) o.children).flatMap (fun n => preorder n.1 n.2) =
        preorders (depth + 1) o.children := by
      rw [atDepth, List.flatMap_map, preorders_eq]
    rw [walkStack, ih, List.flatMap_append, hparts, List.flatMap_cons, preorder_eq,
      List.cons_append]

theorem walk_eq (o : Outcome) : o.walk = preorder 0 o := by
  simp [walk, walkStack_eq]

-- ---------------------------------------------------------------------------
-- Paths
-- ---------------------------------------------------------------------------

mutual

def paths : Outcome → List (List Nat)
  | ⟨_, _, _, _, _, _, _, _, _, _, _, children⟩ => [] :: pathsFrom 0 children

def pathsFrom (i : Nat) : List Outcome → List (List Nat)
  | [] => []
  | c :: cs => (paths c).map (i :: ·) ++ pathsFrom (i + 1) cs

end

theorem paths_eq (o : Outcome) : paths o = [] :: pathsFrom 0 o.children := by
  cases o
  rw [paths]

theorem mem_pathsFrom_iff : path ∈ pathsFrom i cs ↔
    ∃ j c rest, cs[j]? = some c ∧ rest ∈ paths c ∧ path = (i + j) :: rest := by
  induction cs generalizing i with
  | nil => simp [pathsFrom]
  | cons d cs ih =>
    rw [pathsFrom, List.mem_append, List.mem_map, ih]
    constructor
    · rintro (⟨rest, hrest, rfl⟩ | ⟨j, c, rest, hc, hrest, rfl⟩)
      · exact ⟨0, d, rest, rfl, hrest, rfl⟩
      · exact ⟨j + 1, c, rest, hc, hrest, by rw [Nat.add_assoc, Nat.add_comm 1 j]⟩
    · rintro ⟨j, c, rest, hc, hrest, rfl⟩
      cases j with
      | zero =>
        cases hc
        exact .inl ⟨rest, hrest, rfl⟩
      | succ j => exact .inr ⟨j, c, rest, hc, hrest, by rw [Nat.add_assoc, Nat.add_comm 1 j]⟩

theorem mem_paths_iff : path ∈ paths o ↔ (o.node? path).isSome = true := by
  induction path generalizing o with
  | nil => simp [paths_eq, node?]
  | cons k path ih =>
    have hcons : k :: path ∈ paths o ↔
        ∃ j c rest, o.children[j]? = some c ∧ rest ∈ paths c ∧ k :: path = (0 + j) :: rest := by
      rw [paths_eq, List.mem_cons, or_iff_right (List.cons_ne_nil _ _), mem_pathsFrom_iff]
    rw [hcons]
    constructor
    · rintro ⟨j, c, rest, hc, hrest, heq⟩
      obtain ⟨rfl, rfl⟩ := List.cons.inj heq
      rw [node?, Nat.zero_add, hc]
      exact ih.1 hrest
    · intro h
      cases hc : o.children[k]? with
      | none =>
        rw [node?, hc] at h
        cases h
      | some c =>
        rw [node?, hc] at h
        exact ⟨k, c, path, hc, ih.2 h, by rw [Nat.zero_add]⟩

theorem pathsFrom_increasing (h : ∀ c ∈ cs, (paths c).Pairwise (· < ·)) (i : Nat) :
    (pathsFrom i cs).Pairwise (· < ·) := by
  induction cs generalizing i with
  | nil => exact .nil
  | cons c cs ih =>
    obtain ⟨hc, hcs⟩ := List.forall_mem_cons.1 h
    rw [pathsFrom, List.pairwise_append, List.pairwise_map]
    refine ⟨hc.imp fun hlt => List.cons_lt_cons_iff.2 (.inr ⟨rfl, hlt⟩), ih hcs (i + 1), ?_⟩
    intro path hpath later hlater
    obtain ⟨rest, -, rfl⟩ := List.mem_map.1 hpath
    obtain ⟨j, d, rest', -, -, rfl⟩ := mem_pathsFrom_iff.1 hlater
    exact List.cons_lt_cons_iff.2 (.inl (by omega))

/-- A path comes before those that go on from it, and those through one part before those
through a later one. -/
theorem paths_increasing (o : Outcome) : (paths o).Pairwise (· < ·) := by
  induction o using parts_induction with
  | node o ih =>
    rw [paths_eq, List.pairwise_cons]
    refine ⟨fun path hpath => ?_, pathsFrom_increasing ih 0⟩
    obtain ⟨j, c, rest, -, -, rfl⟩ := mem_pathsFrom_iff.1 hpath
    exact List.nil_lt_cons ..

theorem preorders_paths (before : List Outcome)
    (h : ∀ c ∈ cs, ∀ depth, (preorder depth c).map some =
      (paths c).map fun path => (c.node? path).map (depth + path.length, ·))
    (ho : o.children = before ++ cs) :
    (preorders (depth + 1) cs).map some =
      (pathsFrom before.length cs).map fun path => (o.node? path).map (depth + path.length, ·) := by
  induction cs generalizing before with
  | nil => rfl
  | cons c cs ih =>
    obtain ⟨hc, hcs⟩ := List.forall_mem_cons.1 h
    have hat : o.children[before.length]? = some c := by simp [ho]
    have hrest := ih (before ++ [c]) hcs (by simp [ho])
    rw [List.length_append, List.length_singleton] at hrest
    rw [preorders, pathsFrom, List.map_append, List.map_append, hc, hrest, List.map_map]
    congr 1
    refine List.map_congr_left fun path _ => ?_
    simp only [Function.comp_apply, node?, hat, Option.bind_some, List.length_cons]
    congr 2
    funext n
    rw [Nat.add_right_comm, Nat.add_assoc]

theorem preorder_paths (o : Outcome) (depth : Nat) : (preorder depth o).map some =
    (paths o).map fun path => (o.node? path).map (depth + path.length, ·) := by
  induction o using parts_induction generalizing depth with
  | node o ih =>
    rw [preorder_eq, paths_eq, List.map_cons, List.map_cons,
      preorders_paths [] ih rfl]
    rfl

-- ---------------------------------------------------------------------------
-- Reports
-- ---------------------------------------------------------------------------

def line (n : Nat × Outcome) : Line := (n.1, .str n.2.name, .str n.2.status.name)

variable {epoch : Int} {now : Moment}

theorem reports_eq (cs : List Outcome) : reports epoch now cs = cs.map (report epoch now) := by
  induction cs with
  | nil => rfl
  | cons c cs ih => rw [reports, ih, List.map_cons]

/-- Of a report, the lines are that of the node itself and those of its parts. -/
theorem outline_report_eq (depth : Nat) (o : Outcome) :
    outline depth (o.report epoch now) =
      line (depth, o) :: outlines (depth + 1) (o.children.map (report epoch now)) := by
  obtain ⟨name, kind, policy, status, detail, fault, started, ended, clockStart, clockEnd,
    finalized, children⟩ := o
  unfold report
  rw [outline]
  congr 1
  rw [outlineUnder_append ?_]
  · cases children with
    | nil => rfl
    | cons c cs => simp [outlineUnder, outline, reports_eq]
  · simp only [Entries.keys, List.map_append]
    split <;> split <;> simp

theorem outline_report (o : Outcome) (depth : Nat) :
    outline depth (o.report epoch now) = (preorder depth o).map line := by
  induction o using parts_induction generalizing depth with
  | node o ih =>
    rw [outline_report_eq, preorder_eq, List.map_cons]
    congr 1
    generalize o.children = cs at ih
    induction cs with
    | nil => rfl
    | cons c cs ihs =>
      obtain ⟨hc, hcs⟩ := List.forall_mem_cons.1 ih
      rw [List.map_cons, outlines, preorders, List.map_append, hc, ihs hcs]

/-- A walk visits what stands at each path of a tree, once and in the order of the paths, and
says how long the path is. The depths, names and statuses of what it visits are those in the
report of the tree, taken from the outside in and from first to last. -/
theorem walk_in_order (o : Outcome) :
    (∃ paths : List (List Nat), paths.Pairwise (· < ·) ∧
      (∀ path, path ∈ paths ↔ (o.node? path).isSome = true) ∧
      o.walk.map some = paths.map fun path => (o.node? path).map (path.length, ·)) ∧
    ∀ epoch now, o.walk.map (fun n => (n.1, Value.str n.2.name, Value.str n.2.status.name)) =
      outline 0 (o.report epoch now) := by
  rw [walk_eq]
  refine ⟨⟨paths o, paths_increasing o, fun path => mem_paths_iff, ?_⟩, fun epoch now => ?_⟩
  · simpa using preorder_paths o 0
  · exact (outline_report o 0).symm

end Outcome

end Provision
