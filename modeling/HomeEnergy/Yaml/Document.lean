import HomeEnergy.Yaml.Node

/-!
# `HomeEnergy.Yaml.Document`: a tree whose aliases can be followed

An alias stands for the node that bears its number, wherever that node is; of several the last
in the text counts. A `NodeReader` follows aliases and counts how often: a document whose
aliases are followed more than a hundred times for each of its events cannot be read. So a
short text cannot stand for a huge tree.
-/

set_option autoImplicit false

namespace HomeEnergy.Yaml

namespace Node

mutual

/-- The anchored nodes of a tree by number, in the order in which they begin. -/
def anchors : Node → List (Nat × Node)
  | .anchored number node => (number, node) :: anchors node
  | .sequence _ items => anchorsOfItems items
  | .mapping _ pairs => anchorsOfPairs pairs
  | .scalar _ _ _ => []
  | .alias _ => []

/-- The anchored nodes of a row. -/
def anchorsOfItems : List Node → List (Nat × Node)
  | [] => []
  | item :: rest => anchors item ++ anchorsOfItems rest

/-- The anchored nodes of the pairs of a mapping. -/
def anchorsOfPairs : List (Node × Node) → List (Nat × Node)
  | [] => []
  | (key, value) :: rest => anchors key ++ anchors value ++ anchorsOfPairs rest

end

mutual

/-- The events of a tree: one for a scalar or an alias, a beginning and an end for a
collection. -/
def events : Node → Nat
  | .anchored _ node => events node
  | .sequence _ items => eventsOfItems items + 2
  | .mapping _ pairs => eventsOfPairs pairs + 2
  | .scalar _ _ _ => 1
  | .alias _ => 1

/-- The events of a row. -/
def eventsOfItems : List Node → Nat
  | [] => 0
  | item :: rest => events item + eventsOfItems rest

/-- The events of the pairs of a mapping. -/
def eventsOfPairs : List (Node × Node) → Nat
  | [] => 0
  | (key, value) :: rest => events key + events value + eventsOfPairs rest

end

end Node

/-- A tree, its anchored nodes with the last one first, and how often aliases may be
followed. -/
structure Document where
  root : Node
  targets : List (Nat × Node)
  limit : Nat

/-- The document with this tree. -/
def Document.ofRoot (root : Node) : Document :=
  ⟨root, root.anchors.reverse, 100 * root.events⟩

/-- Something read from a document. The number counts the aliases followed so far. -/
abbrev NodeReader := ReaderT Document (StateT Nat Option)

/-- What is read from the root of a document. -/
def Document.read? {α : Type} (d : Document) (reading : Node → NodeReader α) : Option α :=
  (((reading d.root).run d).run 0).map Prod.fst

namespace Node

/-- The node that an alias stands for; any other node is itself, without its anchor. -/
def opened : Node → NodeReader Node
  | .alias number => fun d used =>
    if used < d.limit then (d.targets.lookup number).map fun node => (node, used + 1) else none
  | .anchored _ node => pure node
  | node => pure node

end Node

end HomeEnergy.Yaml
