import Provision.Yaml.Atom
import Provision.Yaml.Node

/-!
# From nodes to objects

Each node becomes an object, an atom or a collection. Scalars are read at once. A
collection is first there without its members, so that it can be a member of
itself, and waits in a queue until its members are made: first come, first
filled. Faults are found in the order in which this goes on.

A merge key takes in the pairs of other mappings, which come before the own ones.
It is resolved when the mapping is filled, and the mappings it names are resolved
for good. A mapping that stands where a scalar is wanted counts as the scalar
under its default key.

What merge keys, default keys and sets mean is said in YAML's repository of types.
The order in which objects are made and filled is an assumption about the loader:
it decides which of several faults is reported.
-/

namespace Provision.Yaml

/-- What a node became. Members are known by the numbers of their nodes. -/
inductive Object where
  | atom (a : Atom)
  | list (items : List Nat)
  /-- A list of pairs of a key and a value. -/
  | pairs (count : Nat)
  | set (members : List Nat)
  | mapping (entries : List (Nat × Nat))
  deriving Inhabited

def Object.hashable : Object → Bool
  | .atom _ => true
  | _ => false

structure Builder where
  nodes : Array Node
  objects : Array (Option Object)
  /-- Collections that wait for their members, first come first. -/
  waiting : List Nat := []

abbrev Build := StateT Builder (Except Refusal)

namespace Build

def refuse {α : Type} (reason : String) : Build α := throw (.malformed reason)

def node (n : Nat) : Build Node := do return ((← get).nodes[n]?).getD default

def object? (n : Nat) : Build (Option Object) := do return ((← get).objects[n]?).join

def setPairs (n : Nat) (pairs : List (Nat × Nat)) : Build Unit := modify fun b =>
  { b with nodes := b.nodes.modify n fun node => { node with content := .mapping pairs } }

def setTag (n : Nat) (tag : Tag) : Build Unit := modify fun b =>
  { b with nodes := b.nodes.modify n fun node => { node with tag } }

def setObject (n : Nat) (o : Object) : Build Unit := modify fun b =>
  { b with objects := b.objects.modify n fun _ => some o }

/-! ## Merge keys -/

mutual

/-- Resolves the merge keys among the pairs of a mapping that come after the
first `index`. Each resolved key is taken away first, so their number bounds the
work. Returns what the merge keys take in. -/
def takenIn (n : Nat) : Nat → Nat → Build (List (Nat × Nat))
  | 0, _ => return []
  | fuel + 1, index => do
    let .mapping pairs := (← node n).content | return []
    match pairs[index]? with
    | none => return []
    | some (k, v) =>
      match (← node k).tag with
      | .merge =>
        setPairs n (pairs.eraseIdx index)
        let taken ← mergedFrom v fuel
        return taken ++ (← takenIn n fuel index)
      | .default =>
        setTag k .text
        takenIn n fuel (index + 1)
      | _ => takenIn n fuel (index + 1)

def mergedFrom (v : Nat) : Nat → Build (List (Nat × Nat))
  | 0 => return []
  | fuel + 1 => do
    match (← node v).content with
    | .mapping _ => flattened v fuel
    | .sequence items => do
      let parts ← mergedParts items fuel
      return parts.reverse.flatten
    | .scalar _ => refuse "expected a mapping or list of mappings for merging"

def mergedParts (items : List Nat) : Nat → Build (List (List (Nat × Nat)))
  | 0 => return []
  | fuel + 1 => do
    match items with
    | [] => return []
    | item :: rest =>
      match (← node item).content with
      | .mapping _ => do
        let part ← flattened item fuel
        return part :: (← mergedParts rest fuel)
      | _ => refuse "expected a mapping for merging"

def flattened (n : Nat) : Nat → Build (List (Nat × Nat))
  | 0 => return []
  | fuel + 1 => do
    let taken ← takenIn n fuel 0
    let .mapping own := (← node n).content | return []
    let pairs := taken ++ own
    setPairs n pairs
    return pairs

end

/-- More than the number of pairs and items of all nodes, each taken as often as
there are pairs. -/
def mergeBound : Build Nat := do
  let size := (← get).nodes.foldl (fun n node => n + 1 + match node.content with
    | .scalar _ => 0
    | .sequence items => items.length
    | .mapping pairs => pairs.length) 0
  return (size + 2) * (size + 2)

/-! ## Objects -/

def scalarText (n : Nat) : Nat → Build String
  | 0 => throw (.mishap (.other "RecursionError") "maximum recursion depth exceeded")
  | fuel + 1 => do
    match (← node n).content with
    | .scalar text => return text
    | .mapping pairs =>
      let tags ← pairs.mapM fun p => do return ((← node p.1).tag, p.2)
      match tags.lookup .default with
      | some v => scalarText v fuel
      | none => refuse "expected a scalar node"
    | .sequence _ => refuse "expected a scalar node"

/-- The atom of a node with a tag for scalars. A time is read from the node's own
text, and a mapping has none. -/
def atom (tag : Tag) (n : Nat) : Build Atom := do
  let text ← scalarText n ((← get).nodes.size + 1)
  if tag = .timestamp && !((← node n).content matches .scalar _) then
    throw (.mishap .wrongKind "expected string or bytes-like object, got 'list'")
  match Atom.read tag text with
  | .ok a => return a
  | .error r => throw r

def make (n : Nat) : Build Object := do
  match ← object? n with
  | some o => return o
  | none =>
    let tag := (← node n).tag
    let wait (o : Object) : Build Object := do
      setObject n o
      modify fun b => { b with waiting := b.waiting ++ [n] }
      return o
    match tag with
    | .sequence => wait (.list [])
    | .mapping => wait (.mapping [])
    | .set => wait (.set [])
    | .ordered => wait (.pairs 0)
    | .pairs => wait (.pairs 0)
    | .merge | .default | .foreign => refuse "could not determine a constructor for the tag"
    | _ => do
      let a ← atom tag n
      setObject n (.atom a)
      return .atom a

def members (n : Nat) : Build (List (Nat × Nat)) := do
  let .mapping _ := (← node n).content | refuse "expected a mapping node"
  let pairs ← flattened n (← mergeBound)
  pairs.forM fun (k, v) => do
    if !(← make k).hashable then refuse "found unhashable key"
    let _ ← make v
  return pairs

def single (n : Nat) : Build Unit := do
  match (← node n).content with
  | .mapping [(k, v)] =>
    let _ ← make k
    let _ ← make v
  | _ => refuse "expected a mapping of length 1"

def fill (n : Nat) : Build Unit := do
  let node ← node n
  match node.tag with
  | .mapping => setObject n (.mapping (← members n))
  | .set => setObject n (.set ((← members n).map Prod.fst))
  | tag =>
    let .sequence items := node.content | refuse "expected a sequence"
    if tag = .sequence then
      items.forM fun item => do let _ ← make item
      setObject n (.list items)
    else
      items.forM single
      setObject n (.pairs items.length)

def fillAll : Nat → Build Unit
  | 0 => return
  | fuel + 1 => do
    match (← get).waiting with
    | [] => return
    | n :: rest =>
      modify fun b => { b with waiting := rest }
      fill n
      fillAll fuel

end Build

/-- The objects of a document by the numbers of their nodes. Every node waits at
most once. -/
def Graph.objects (g : Graph) : Except Refusal (Array (Option Object)) := do
  let build : Build Unit := do
    let _ ← Build.make g.root
    Build.fillAll (g.nodes.size + 1)
  let ((), b) ← build.run { nodes := g.nodes, objects := g.nodes.map fun _ => none }
  return b.objects

end Provision.Yaml
