import OscRemote.Octets
import OscRemote.Yaml.Token

/-!
# Nodes

A document is a tree of scalars, sequences and mappings.  A node may carry the name of its type, and
an alias stands for the node that an anchor marks.  Anchors are numbered; `Document.resolve` follows
an alias to its node, which is never an alias itself.
-/

namespace OscRemote.Yaml

/-- A node.  An alias holds the number of its anchor. -/
inductive Node where
  | scalar (type : Option Octets) (style : Style) (text : List Char)
  | sequence (type : Option Octets) (items : List Node)
  | mapping (type : Option Octets) (entries : List (Node × Node))
  | alias (anchor : Nat)

namespace Node

/-- A node that is not written. -/
def missing : Node := scalar none .plain []

end Node

/-- A document: its root, if there is one, and the nodes that anchors mark. -/
structure Document where
  root : Option Node
  marked : List (Nat × Node) := []

namespace Document

/-- The node that a node stands for. -/
def resolve (d : Document) : Node → Node
  | .alias anchor => (d.marked.lookup anchor).getD .missing
  | node => node

end Document

end OscRemote.Yaml
