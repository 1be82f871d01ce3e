import FlowchartLayout.Flowchart.Basic

/-!
# Layers

Every node gets a layer, the first one being 0, so that edges lead to later layers as far as cycles
permit. A node is placed one layer below its deepest predecessor once all its predecessors are
placed. When nothing can be placed any more, what is left lies on or below cycles, and one node is
placed regardless.

## Main definitions

- `links` — the edges as pairs of positions in the list of nodes
- `Layering` — the layers given so far, and the steps that give the others
- `assignLayers` — the layer of each node
-/

namespace FlowchartLayout

/-- The last position of `id`. -/
def lastIndexOf? (ids : List String) (id : String) : Option Nat :=
  match ids with
  | [] => none
  | x :: ids =>
    match lastIndexOf? ids id with
    | some i => some (i + 1)
    | none => if x == id then some 0 else none

/-- The edges as pairs of node positions, without edges to unknown ids and without loops. An id
stands for the last node that bears it. -/
def links (nodes : List Node) (edges : List Edge) : List (Nat × Nat) :=
  let ids := nodes.map (·.id)
  (edges.filterMap fun e =>
    match lastIndexOf? ids e.source, lastIndexOf? ids e.target with
    | some i, some j => some (i, j)
    | _, _ => none).filter fun l => l.1 != l.2

/-- The positions of which a link leads to `i`. -/
def predecessors (ls : List (Nat × Nat)) (i : Nat) : List Nat :=
  (ls.filter fun l => l.2 == i).map (·.1)

/-- The layers given so far, by position; none for a node that is not placed yet. -/
abbrev Layering := Array (Option Nat)

namespace Layering

/-- The layer of a position, if it has one. -/
def layer? (ls : Layering) (i : Nat) : Option Nat :=
  ls[i]?.join

def isPlaced (ls : Layering) (i : Nat) : Bool :=
  (ls.layer? i).isSome

def place (ls : Layering) (i layer : Nat) : Layering :=
  ls.setIfInBounds i (some layer)

/-- All positions are placed. -/
def isComplete (ls : Layering) : Bool :=
  ls.all (·.isSome)

/-- The layer below the deepest of the given ones; the first layer if there are none. -/
def below (layers : List Nat) : Nat :=
  match layers.max? with
  | some deepest => deepest + 1
  | none => 0

/-- Nodes without predecessors start on layer 0; if there are none, the first node does. -/
def start (preds : Array (List Nat)) : Layering :=
  let ls : Layering := preds.map fun p => if p.isEmpty then some 0 else none
  if ls.all (·.isNone) then ls.place 0 0 else ls

/-- Places the position if it is not placed and all its predecessors are. -/
def settle (preds : Array (List Nat)) (ls : Layering) (i : Nat) : Layering :=
  if ls.isPlaced i then ls
  else
    match (preds.getD i []).mapM ls.layer? with
    | some layers => ls.place i (below layers)
    | none => ls

/-- One pass over all positions in order; later positions see the earlier ones placed. -/
def sweep (preds : Array (List Nat)) (ls : Layering) : Layering :=
  (List.range preds.size).foldl (settle preds) ls

/-- Places one position when no pass can: the first one with a placed predecessor goes below the
placed ones, and if there is none the first position that is not placed goes to layer 0. -/
def force (preds : Array (List Nat)) (ls : Layering) : Layering :=
  let unplaced := (List.range preds.size).filter fun i => !ls.isPlaced i
  match unplaced.find? fun i => (preds.getD i []).any ls.isPlaced with
  | some i => ls.place i (below ((preds.getD i []).filterMap ls.layer?))
  | none =>
    match unplaced with
    | i :: _ => ls.place i 0
    | [] => ls

/-- A pass, or a forced placement if the pass changes nothing. -/
def advance (preds : Array (List Nat)) (ls : Layering) : Layering :=
  let swept := ls.sweep preds
  if swept == ls then ls.force preds else swept

/-- At most the given number of rounds, until all positions are placed. -/
def run (preds : Array (List Nat)) : Nat → Layering → Layering
  | 0, ls => ls
  | rounds + 1, ls => if ls.isComplete then ls else run preds rounds (ls.advance preds)

end Layering

/-- The layer of each node. Each round places a node, so twice as many rounds as nodes suffice. -/
def assignLayers (nodes : List Node) (edges : List Edge) : List Nat :=
  let ls := links nodes edges
  let preds := (Array.range nodes.length).map (predecessors ls)
  let done := Layering.run preds (2 * nodes.length) (Layering.start preds)
  done.toList.map (·.getD 0)

end FlowchartLayout
