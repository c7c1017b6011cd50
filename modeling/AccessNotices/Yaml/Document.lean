import AccessNotices.Yaml.Node
/-!
YAML documents as values.

A key that is given again keeps its first place and takes the last value. A set is the list of its
members, and a sequence of pairs a list of lists. Where several nodes have no value, the one that is
nested least is reported, and of those the first.
-/

namespace AccessNotices.Yaml

/-- A problem with the value of a node, and how deep the node is nested. -/
structure Defect where
  depth : Nat
  problem : Problem

namespace Defect

/-- Of two defects the one that is nested less, and the first if both are nested as much. -/
def first (a b : Defect) : Defect :=
  if b.depth < a.depth then b else a

/-- Two results together; of two defects the one that is reported. -/
def both {α β : Type} (a : Except Defect α) (b : Except Defect β) : Except Defect (α × β) :=
  match a, b with
  | .ok a, .ok b => .ok (a, b)
  | .ok _, .error d => .error d
  | .error d, .ok _ => .error d
  | .error d, .error e => .error (first d e)

end Defect

namespace Node

/-! ### Scalars -/

mutual

/-- What a node holds that is read as a scalar: a mapping holds what its default does. -/
def content? : Node → Option Content
  | scalar _ content => some content
  | mapping _ entries => defaultContent? entries
  | _ => none

def defaultContent? : List (Node × Node) → Option Content
  | [] => none
  | (k, v) :: rest => if k.tag = .default then v.content? else defaultContent? rest

end

/-- The value of a node that is read as a scalar. -/
def scalarValue (depth : Nat) (tag : Tag) (node : Node) : Except Defect Value :=
  match node.content? with
  | some content => (Scalar.value tag content).mapError (⟨depth, ·⟩)
  | none => .error ⟨depth, .wrongShape⟩

/-- Is a node read as something with parts? -/
def isCollection (node : Node) : Bool :=
  [Tag.sequence, .mapping, .set, .pairs].contains node.tag

/-- The value of a key, which must be a scalar. The key of a default is a text. -/
def keyValue (depth : Nat) (key : Node) : Except Defect Value :=
  if key.isCollection then .error ⟨depth, .keyWithParts⟩
  else key.scalarValue depth (if key.tag = .default then .string else key.tag)

/-! ### Values -/

/-- The entries of a mapping, put into it one after the other. -/
def putAll (entries : List (Value × Value)) : List (Value × Value) :=
  entries.foldl (fun done e => Value.putEntry e.1 e.2 done) []

mutual

/-- The value of a node. A node around has none that is finite, and counts as null. What is wrong
with the shape of a sequence or a mapping is found where its parts are. -/
def value (depth : Nat) : Node → Except Defect Value
  | sequence .sequence items => (itemValues (depth + 1) items).map .list
  | mapping .mapping entries => (entryValues (depth + 1) entries).map fun es => .map (putAll es)
  | mapping .set entries =>
    (entryValues (depth + 1) entries).map fun es => .list ((putAll es).map Prod.fst)
  | sequence .pairs items => (pairValues (depth + 1) items).map .list
  | unmergeable .mapping | unmergeable .set => .error ⟨depth + 1, .notMergeable⟩
  | enclosing _ => .ok .null
  | node =>
    if node.isCollection then .error ⟨depth + 1, .wrongShape⟩
    else node.scalarValue depth node.tag

def itemValues (depth : Nat) : List Node → Except Defect (List Value)
  | [] => .ok []
  | item :: rest =>
    (Defect.both (item.value depth) (itemValues depth rest)).map fun (v, vs) => v :: vs

/-- The pairs of some nodes, each of which has to have one entry. -/
def pairValues (depth : Nat) : List Node → Except Defect (List Value)
  | [] => .ok []
  | node :: rest =>
    (Defect.both (node.pairValue depth) (pairValues depth rest)).map fun (v, vs) => v :: vs

/-- The pair of a node with one entry; its key may have parts. -/
def pairValue (depth : Nat) : Node → Except Defect Value
  | mapping _ [(k, v)] =>
    (Defect.both (k.value depth) (v.value depth)).map fun (k, v) => .list [k, v]
  | _ => .error ⟨depth, .wrongShape⟩

def entryValues (depth : Nat) : List (Node × Node) → Except Defect (List (Value × Value))
  | [] => .ok []
  | (k, v) :: rest =>
    (Defect.both (Defect.both (k.keyValue depth) (v.value depth)) (entryValues depth rest)).map
      fun (e, es) => e :: es

end

end Node

/-- The value of a text that holds at most one document; null if it holds none. -/
def read (text : List Char) : Except Problem Value := do
  match ← Node.ofText? text with
  | none => .ok .null
  | some root => (root.value 0).mapError Defect.problem

end AccessNotices.Yaml
