import Provision.Yaml.Implicit
import Provision.Yaml.Scan

/-!
# From tokens to nodes

A document is one node: a scalar, a sequence or a mapping, each with a tag. An
alias stands for the node under its anchor, which may contain the alias itself,
so the nodes form a graph. A node is known by its number and says by number of
what it consists.

What is wrong with a text counts only when its tokens are asked for that far. So
of two faults the one that a reader from left to right meets first is reported.

Every step takes a token, so the number of tokens bounds the depth of the nodes.

The grammar is that of YAML 1.1. The loader is assumed to take one document and
to refuse a second, and to refuse an alias whose anchor has not come before it.
How deep nodes may stand in each other is not limited here.
-/

namespace Provision.Yaml

inductive Content where
  | scalar (text : String)
  | sequence (items : List Nat)
  | mapping (pairs : List (Nat × Nat))
  deriving DecidableEq, Repr, Inhabited

structure Node where
  tag : Tag
  content : Content
  deriving DecidableEq, Repr, Inhabited

/-- A document: its nodes by number, and which of them is the whole. -/
structure Graph where
  nodes : Array Node
  root : Nat

structure Composer where
  rest : List Token
  /-- What is wrong behind the last token. -/
  refusal : Option Refusal
  nodes : Array Node := #[]
  anchors : List (String × Nat) := []
  handles : List (String × String) := []

abbrev Compose := StateT Composer (Except Refusal)

namespace Compose

def refuse {α : Type} (reason : String) : Compose α := throw (.malformed reason)

def peek : Compose Token := do
  let c ← get
  match c.rest, c.refusal with
  | t :: _, _ => return t
  | [], none => return .streamEnd
  | [], some r => throw r

def next : Compose Unit := modify fun c => { c with rest := c.rest.drop 1 }

def ahead (ts : List Token) : Compose Bool := do return ts.contains (← peek)

def accept (t : Token) : Compose Bool := do
  if (← peek) = t then
    next
    return true
  else return false

def expect (t : Token) (reason : String) : Compose Unit := do
  if !(← accept t) then refuse reason

/-! ## New nodes -/

def add (anchor : Option String) (tag : Tag) (content : Content) : Compose Nat := do
  let n := (← get).nodes.size
  modify fun c => { c with nodes := c.nodes.push ⟨tag, content⟩ }
  match anchor with
  | none => return n
  | some a =>
    modify fun c => { c with anchors := (a, n) :: c.anchors }
    return n

def put (n : Nat) (content : Content) : Compose Nat := do
  modify fun c => { c with nodes := c.nodes.modify n fun node => { node with content } }
  return n

def empty : Compose Nat := add none .null (.scalar "")

def properties : Compose (Option String × Option String) := do
  let anchor : Compose (Option String) := do
    match ← peek with
    | .anchor name =>
      next
      return some name
    | _ => return none
  let tag : Compose (Option (Option String × String)) := do
    match ← peek with
    | .tag handle suffix =>
      next
      return some (handle, suffix)
    | _ => return none
  let (name, mark) ← (do
    match ← anchor with
    | some a => return (some a, ← tag)
    | none =>
      let t ← tag
      if t.isSome then return (← anchor, t) else return (none, none))
  match mark with
  | none => return (name, none)
  | some (none, suffix) => return (name, some suffix)
  | some (some handle, suffix) =>
    match (← get).handles.lookup handle with
    | none => refuse "found undefined tag handle"
    | some stem => return (name, some (stem ++ suffix))

/-- The tag of a collection. A lone exclamation mark says no more than no tag. -/
def tagOf (given : Option String) (usual : Tag) : Tag :=
  match given with
  | none => usual
  | some "!" => usual
  | some name => .ofText name

/-- The tag of a scalar. Without one, only a plain scalar goes by its looks, and
with a lone exclamation mark every scalar does. -/
def scalarTag (given : Option String) (plain : Bool) (text : String) : Tag :=
  match given with
  | none => if plain then .ofLooks text else .text
  | some "!" => .ofLooks text
  | some name => .ofText name

mutual

/-- A node. In a block it may start a deeper block, and after a key its entries
may stand without one. -/
def node (block indentless : Bool) : Nat → Compose Nat
  | 0 => refuse "nodes too deep"
  | fuel + 1 => do
    match ← peek with
    | .aliased name =>
      next
      match (← get).anchors.lookup name with
      | none => refuse "found undefined alias"
      | some n => return n
    | _ =>
      let (anchor, given) ← properties
      let t ← peek
      let begins := (t = .blockEntry && indentless) || t = .flowSequenceStart ||
        t = .flowMappingStart || (block && (t = .blockSequenceStart || t = .blockMappingStart)) ||
        anchor.isSome || given.isSome || t matches .scalar ..
      if !begins then refuse "expected the node content"
      let known := (← get).anchors
      if anchor.any fun a => (known.lookup a).isSome then refuse "found duplicate anchor"
      let sequence (items : Compose (List Nat)) : Compose Nat := do
        let n ← add anchor (tagOf given .sequence) (.sequence [])
        put n (.sequence (← items))
      let mapping (pairs : Compose (List (Nat × Nat))) : Compose Nat := do
        let n ← add anchor (tagOf given .mapping) (.mapping [])
        put n (.mapping (← pairs))
      let absent : Compose Nat := add anchor (scalarTag given true "") (.scalar "")
      match t with
      | .scalar text plain =>
        next
        add anchor (scalarTag given plain text) (.scalar text)
      | .blockEntry => if indentless then sequence (entriesWithin fuel) else absent
      | .flowSequenceStart =>
        next
        sequence (flowItems true fuel)
      | .flowMappingStart =>
        next
        mapping (flowPairs true fuel)
      | .blockSequenceStart =>
        if block then
          next
          sequence (entries fuel)
        else absent
      | .blockMappingStart =>
        if block then
          next
          mapping (pairs fuel)
        else absent
      | _ => absent

def nodeUnless (ends : List Token) (block indentless : Bool) : Nat → Compose Nat
  | 0 => refuse "nodes too deep"
  | fuel + 1 => do
    if ← ahead ends then empty else node block indentless fuel

def entries : Nat → Compose (List Nat)
  | 0 => refuse "nodes too deep"
  | fuel + 1 => do
    if ← accept .blockEntry then
      let n ← nodeUnless [.blockEntry, .blockEnd] true false fuel
      return n :: (← entries fuel)
    else
      expect .blockEnd "expected <block end>"
      return []

def entriesWithin : Nat → Compose (List Nat)
  | 0 => refuse "nodes too deep"
  | fuel + 1 => do
    if ← accept .blockEntry then
      let n ← nodeUnless [.blockEntry, .key, .value, .blockEnd] true false fuel
      return n :: (← entriesWithin fuel)
    else return []

def pairs : Nat → Compose (List (Nat × Nat))
  | 0 => refuse "nodes too deep"
  | fuel + 1 => do
    let ends := [.key, .value, .blockEnd]
    let part : Compose Nat := nodeUnless ends true true fuel
    if ← accept .key then
      let k ← part
      let v ← if ← accept .value then part else empty
      return (k, v) :: (← pairs fuel)
    else
      expect .blockEnd "expected <block end>"
      return []

def flowItems (first : Bool) : Nat → Compose (List Nat)
  | 0 => refuse "nodes too deep"
  | fuel + 1 => do
    if ← accept .flowSequenceEnd then return []
    if !first then expect .flowEntry "expected ',' or ']'"
    let ends := [.flowEntry, .flowSequenceEnd]
    if ← accept .key then
      let n ← add none .mapping (.mapping [])
      let k ← nodeUnless (.value :: ends) false false fuel
      let v ← if ← accept .value then nodeUnless ends false false fuel else empty
      let _ ← put n (.mapping [(k, v)])
      return n :: (← flowItems false fuel)
    else if ← accept .flowSequenceEnd then return []
    else
      let n ← node false false fuel
      return n :: (← flowItems false fuel)

def flowPairs (first : Bool) : Nat → Compose (List (Nat × Nat))
  | 0 => refuse "nodes too deep"
  | fuel + 1 => do
    if ← accept .flowMappingEnd then return []
    if !first then expect .flowEntry "expected ',' or a closing brace"
    let ends := [.flowEntry, .flowMappingEnd]
    if ← accept .key then
      let k ← nodeUnless (.value :: ends) false false fuel
      let v ← if ← accept .value then nodeUnless ends false false fuel else empty
      return (k, v) :: (← flowPairs false fuel)
    else if ← accept .flowMappingEnd then return []
    else
      let k ← node false false fuel
      let v ← empty
      return (k, v) :: (← flowPairs false fuel)

end

/-! ## Documents -/

def usualHandles : List (String × String) := [("!", "!"), ("!!", Tag.stem)]

def directives (versioned : Bool) (handles : List (String × String)) :
    Nat → Compose (List (String × String))
  | 0 => return handles
  | fuel + 1 => do
    match ← peek with
    | .directive d =>
      next
      match d with
      | .version major _ =>
        if versioned then refuse "found duplicate YAML directive"
        if major != 1 then refuse "found incompatible YAML document"
        directives true handles fuel
      | .tag handle stem =>
        if (handles.lookup handle).isSome then refuse "duplicate tag handle"
        directives versioned (handles ++ [(handle, stem)]) fuel
      | .unknown => directives versioned handles fuel
    | _ => return handles

def isDirective : Token → Bool
  | .directive _ => true
  | _ => false

def skipDocumentEnds : Nat → Compose Unit
  | 0 => return
  | fuel + 1 => do
    if ← accept .documentEnd then skipDocumentEnds fuel

def start (size : Nat) : Compose Unit := do
  let own ← directives false [] size
  modify fun c => { c with handles := own ++ usualHandles }
  expect .documentStart "expected '<document start>'"

def finish (size : Nat) (n : Option Nat) : Compose (Option Nat) := do
  skipDocumentEnds size
  if (← peek) = .streamEnd then return n
  start size
  refuse "expected a single document in the stream"

def document : Compose (Option Nat) := do
  let size := 4 * (← get).rest.length + 8
  let t ← peek
  if t = .streamEnd then return none
  else if isDirective t || t = .documentStart then
    start size
    let t ← peek
    let n ← if isDirective t || [.documentStart, .documentEnd, .streamEnd].contains t then empty
      else node true false size
    finish size n
  else
    modify fun c => { c with handles := usualHandles }
    finish size (← node true false size)

end Compose

def Graph.ofText? (text : String) : Except Refusal (Option Graph) := do
  let scanned := scan text
  let (root, c) ← Compose.document.run { rest := scanned.tokens, refusal := scanned.refusal }
  return root.map (⟨c.nodes, ·⟩)

end Provision.Yaml
