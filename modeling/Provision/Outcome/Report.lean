import Provision.Outcome

/-!
# Outcomes as data, and their parts in order

`report` turns a tree of outcomes into nested data. `walk` lists its nodes with
their depths, a container before its parts and the parts from first to last. It
keeps the nodes still to be visited on a stack.
-/

namespace Provision.Outcome

mutual

def report (epoch : Int) (now : Moment) : Outcome → Value
  | o@⟨name, kind, _, status, detail, _, started, ended, _, _, _, children⟩ =>
    let stamp (m : Option Moment) : Value := .ofOption (m.map (·.stamp epoch))
    .dict ([("name", .str name), ("kind", .str kind.name), ("status", .str status.name),
        ("started_at", stamp started), ("ended_at", stamp ended),
        ("duration", .str (o.durationText now))] ++
      (if o.message = "" then [] else [("error", .str o.message)]) ++
      (if detail.isEmpty then [] else [("detail", .dict detail)]) ++
      (match children with
        | [] => []
        | c :: cs => [("children", .list (report epoch now c :: reports epoch now cs))]))

def reports (epoch : Int) (now : Moment) : List Outcome → List Value
  | [] => []
  | o :: rest => report epoch now o :: reports epoch now rest

end

mutual

def size : Outcome → Nat
  | ⟨_, _, _, _, _, _, _, _, _, _, _, children⟩ => 1 + sizes children

def sizes : List Outcome → Nat
  | [] => 0
  | o :: rest => size o + sizes rest

end

theorem size_eq (o : Outcome) : o.size = 1 + sizes o.children := by
  cases o; simp [size]

theorem sizes_append (a b : List Outcome) : sizes (a ++ b) = sizes a + sizes b := by
  induction a with
  | nil => simp [sizes]
  | cons o rest ih => simp [sizes, ih]; omega

def atDepth (depth : Nat) (os : List Outcome) : List (Nat × Outcome) := os.map (depth, ·)

theorem map_snd_atDepth (depth : Nat) (os : List Outcome) :
    (atDepth depth os).map Prod.snd = os := by
  simp [atDepth, Function.comp_def]

def walkStack (stack : List (Nat × Outcome)) : List (Nat × Outcome) :=
  match stack with
  | [] => []
  | (depth, o) :: rest => (depth, o) :: walkStack (atDepth (depth + 1) o.children ++ rest)
termination_by sizes (stack.map Prod.snd)
decreasing_by
  rw [List.map_append, sizes_append, map_snd_atDepth]
  simp [sizes, size_eq o]

def walk (o : Outcome) : List (Nat × Outcome) := walkStack [(0, o)]

end Provision.Outcome
