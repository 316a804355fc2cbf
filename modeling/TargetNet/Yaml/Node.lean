import TargetNet.Yaml.Event
import TargetNet.Yaml.Value

/-!
# Nodes

The tree behind the events of one document, with aliases still in it. An anchor is known by a number:
how many different names came before its own. A tree of a broken text is closed where the text
breaks off, and `cut` marks that place.
-/

namespace TargetNet.Yaml

/-- A node of a document. -/
inductive Node where
  | scalar (text : String) (style : ScalarStyle) (tag : Option Tag) (anchor : Option Nat)
  /-- A collection; the items of a mapping are its keys and values in turn. -/
  | collection (kind : CollectionKind) (items : List Node) (tag : Option Tag)
    (anchor : Option Nat)
  | alias (anchor : Nat)
  /-- The text goes wrong here. -/
  | cut
  deriving Repr, Inhabited

/-- A collection that is still open; the items are in reverse. -/
structure OpenCollection where
  kind : CollectionKind
  items : List Node
  tag : Option Tag
  anchor : Option Nat

/-- A tree under construction. -/
structure NodeBuilder where
  /-- The open collections, the innermost first. -/
  stack : List OpenCollection := []
  root : Option Node := none
  /-- The numbers of the anchors by name. -/
  names : List (String × Nat) := []

namespace NodeBuilder

/-- Adds a finished node. -/
def add (b : NodeBuilder) (node : Node) : NodeBuilder :=
  match b.stack with
  | [] => { b with root := some node }
  | c :: rest => { b with stack := { c with items := node :: c.items } :: rest }

/-- The number of an anchor. A name that comes again takes a new number, while the names are only
counted once. -/
def number (b : NodeBuilder) (anchor : Option String) : Option Nat × NodeBuilder :=
  match anchor with
  | none => (none, b)
  | some name =>
    let n := b.names.length
    (some n, { b with names := (name, n) :: b.names.filter (·.1 != name) })

/-- Ends the innermost collection. -/
def finish (b : NodeBuilder) : NodeBuilder :=
  match b.stack with
  | [] => b
  | c :: rest => { b with stack := rest }.add (.collection c.kind c.items.reverse c.tag c.anchor)

/-- Ends all collections at a place where the text goes wrong. -/
def close (b : NodeBuilder) : Node :=
  match b.stack with
  | [] => b.root.getD .cut
  | _ => (b.stack.foldl (fun b _ => b.finish) (b.add .cut)).root.getD .cut

end NodeBuilder

/-- The tree of a document, the number of its events, the error that ended it early, and the events
after it. -/
structure DocumentTree where
  root : Node
  size : Nat
  fault : Option ReadError
  after : List Event

/-- Builds the tree of the first document. -/
def DocumentTree.build (b : NodeBuilder) (size : Nat) : List Event → DocumentTree
  | [] => ⟨b.close, size, some .malformed, []⟩
  | .documentStart :: rest => build b size rest
  | .documentEnd :: rest => ⟨b.root.getD .cut, size, none, rest⟩
  | .streamEnd :: rest => ⟨b.root.getD (.scalar "" .plain none none), size, none, .streamEnd :: rest⟩
  | .alias name :: rest =>
    match b.names.find? (·.1 == name) with
    | some (_, n) => build (b.add (.alias n)) (size + 1) rest
    | none => ⟨b.close, size, some .unknownAnchor, rest⟩
  | .scalar text style properties :: rest =>
    let (anchor, b) := b.number properties.anchor
    build (b.add (.scalar text style properties.tag anchor)) (size + 1) rest
  | .start kind properties :: rest =>
    let (anchor, b) := b.number properties.anchor
    build { b with stack := ⟨kind, [], properties.tag, anchor⟩ :: b.stack } (size + 1) rest
  | .finish :: rest => build b.finish (size + 1) rest

mutual

/-- The nodes with an anchor, in the order they start. -/
def Node.anchored : Node → List (Nat × Node)
  | .scalar text style tag (some n) => [(n, .scalar text style tag (some n))]
  | .collection kind items tag anchor =>
    let inner := Node.anchoredItems items
    match anchor with
    | some n => (n, .collection kind items tag anchor) :: inner
    | none => inner
  | _ => []

/-- The nodes with an anchor among items. -/
def Node.anchoredItems : List Node → List (Nat × Node)
  | [] => []
  | node :: rest => node.anchored ++ Node.anchoredItems rest

end

end TargetNet.Yaml
