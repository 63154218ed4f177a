import NodeTopology.Labels
/-!
Cluster nodes, as far as labelling sees them.  A node may come without metadata, and metadata
without labels; the labels of a placement can be laid over any metadata.
-/

namespace NodeTopology

/-- Metadata of a node; `none` where labels were never set. -/
structure Metadata where
  labels : Option Labels
deriving Repr, DecidableEq

structure Node where
  metadata : Option Metadata
deriving Repr, DecidableEq

namespace Node

def labelled (labels : Option Labels) : Node := ⟨some ⟨labels⟩⟩

/-- Whether labels mark a node as done; labels never set do not. -/
def isComplete (labels : Option Labels) : Bool :=
  match labels with
  | some labels => labels.areComplete
  | none => false

/-- The node with a placement's labels laid over its own.  Without metadata there is nowhere to put
them. -/
def withPlacement? (node : Node) (placement : Placement) : Option Node :=
  node.metadata.map fun metadata =>
    labelled (some ((metadata.labels.getD []).overlay placement.labels))

end Node

end NodeTopology
