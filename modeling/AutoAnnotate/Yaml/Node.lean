import AutoAnnotate.Yaml.Token
/-!
# YAML documents as trees

A node is a scalar, a sequence, a mapping, or an alias that stands for a node with an anchor. What
an alias stands for is looked up by number in the list of anchored nodes (`Document.target?`). An
alias may stand inside the node that it stands for, so the document is a graph.
-/

namespace AutoAnnotate.Yaml

/-- What may stand before the contents of a node. -/
structure Properties where
  /-- The number of the anchor. -/
  anchor : Option Nat := none
  tag : Option Tag := none
  deriving Repr

inductive Node where
  | scalar (p : Properties) (style : ScalarStyle) (text : String)
  | sequence (p : Properties) (items : List Node)
  | mapping (p : Properties) (entries : List (Node × Node))
  /-- Stands for the node with the anchor of this number. -/
  | alias (anchor : Nat)
  deriving Repr

namespace Node

def properties : Node → Properties
  | .scalar p _ _ | .sequence p _ | .mapping p _ => p
  | .alias _ => {}

mutual

/-- The size of a node: one for each scalar and alias, two for each collection. -/
def size : Node → Nat
  | .scalar _ _ _ | .alias _ => 1
  | .sequence _ items => 2 + sizeAll items
  | .mapping _ entries => 2 + sizeEntries entries

def sizeAll : List Node → Nat
  | [] => 0
  | n :: rest => size n + sizeAll rest

def sizeEntries : List (Node × Node) → Nat
  | [] => 0
  | (key, n) :: rest => size key + size n + sizeEntries rest

end

mutual

/-- A node and all nodes inside it that have an anchor, in the order in which they begin. -/
def anchored (n : Node) : List (Nat × Node) :=
  let here := match n.properties.anchor with
    | some number => [(number, n)]
    | none => []
  here ++ match n with
    | .scalar _ _ _ | .alias _ => []
    | .sequence _ items => anchoredAll items
    | .mapping _ entries => anchoredEntries entries

def anchoredAll : List Node → List (Nat × Node)
  | [] => []
  | n :: rest => anchored n ++ anchoredAll rest

def anchoredEntries : List (Node × Node) → List (Nat × Node)
  | [] => []
  | (key, n) :: rest => anchored key ++ anchored n ++ anchoredEntries rest

end

end Node

/-- A YAML text: its node, if it has one, and the nodes that aliases may stand for. -/
structure Document where
  root : Option Node
  /-- The anchored nodes, the last one first. -/
  anchored : List (Nat × Node)
  deriving Repr

namespace Document

def ofRoot (root : Option Node) : Document :=
  ⟨root, match root with
    | some n => n.anchored.reverse
    | none => []⟩

/-- The node that an alias stands for: the last one with the number of its anchor. -/
def target? (d : Document) (anchor : Nat) : Option Node :=
  (d.anchored.find? (·.1 = anchor)).map Prod.snd

/-- The size of the document; one if it is empty. -/
def size (d : Document) : Nat :=
  match d.root with
  | some n => n.size
  | none => 1

end Document

end AutoAnnotate.Yaml
