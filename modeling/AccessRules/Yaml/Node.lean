import AccessRules.Yaml.Cursor

/-!
# Nodes of YAML

What a YAML text describes before its scalars are turned into values: a tree whose nodes carry
tags. A pair of a mapping whose key is a merge mark stands for the pairs of other mappings, in
front of the mapping's own. Merges are done where a mapping is built or merged itself; whoever looks
at a mapping in another way may find them done or not, so that the mapping tells whether it had any.

* `Node.ofPairs` — a mapping of pairs with its merges done.
-/

namespace AccessRules.Yaml

/-- What kind of value a node stands for. -/
inductive Tag where
  | null
  | bool
  | int
  | float
  | text
  | timestamp
  | binary
  | sequence
  | mapping
  /-- A mapping whose keys are the members of a set. -/
  | set
  /-- A sequence of mappings of one pair each. -/
  | pairs
  /-- The key of a merge. -/
  | merge
  /-- The key of the value that a mapping stands for as a text. -/
  | value
  | unknown
  deriving DecidableEq, Repr

/-- What the names of the known tags begin with. -/
def Tag.lead : String := "tag:yaml.org,2002:"

/-- The known tags by the rest of their names. -/
def Tag.names : List (String × Tag) :=
  [("null", .null), ("bool", .bool), ("int", .int), ("float", .float), ("str", .text),
   ("timestamp", .timestamp), ("binary", .binary), ("seq", .sequence), ("map", .mapping),
   ("set", .set), ("omap", .pairs), ("pairs", .pairs), ("merge", .merge), ("value", .value)]

/-- The tag of a name. -/
def Tag.ofName (name : String) : Tag :=
  ((Tag.names.find? fun entry => Tag.lead ++ entry.1 == name).map (·.2)).getD .unknown

/-- A node with its tag. The pairs of a mapping are those after its merges, if it has any. -/
inductive Node where
  | scalar (tag : Tag) (text : String)
  | sequence (tag : Tag) (items : List Node)
  | mapping (tag : Tag) (merges : Bool) (pairs : List (Node × Node))
  deriving Repr

namespace Node

/-- The tag of a node. -/
def tag : Node → Tag
  | scalar tag _ => tag
  | sequence tag _ => tag
  | mapping tag _ _ => tag

/-- The pairs of a mapping whose merges are done. -/
def pairs? : Node → Option (List (Node × Node))
  | mapping _ _ pairs => if pairs.any fun pair => pair.1.tag == .merge then none else some pairs
  | _ => none

/-- The pairs that a merge stands for: those of a mapping, or those of a list of mappings, the
last one's first. -/
def mergedPairs? : Node → Option (List (Node × Node))
  | sequence _ items => (items.mapM pairs?).map fun pairs => pairs.reverse.flatten
  | node => node.pairs?

/-- A mapping of pairs: what is merged comes in front of its own pairs. When something else than
mappings should be merged, no merge is done, and their pairs come first. -/
def ofPairs (tag : Tag) (pairs : List (Node × Node)) : Node :=
  let (merges, own) := pairs.partition fun pair => pair.1.tag == .merge
  mapping tag !merges.isEmpty <| match merges.mapM fun pair => mergedPairs? pair.2 with
    | some merged => merged.flatten ++ own
    | none => merges ++ own

/-- Does the node, or a key of it, carry the mark of a value? Building a mapping takes the mark off
its keys. -/
def marksValue : Node → Bool
  | scalar tag _ => tag == .value
  | sequence _ _ => false
  | mapping _ _ pairs => pairs.any fun pair => pair.1.tag == .value

end Node

end AccessRules.Yaml
