import TargetNet.Yaml.Node
import TargetNet.Yaml.Scalar

/-!
# Documents

The value of a document text. Aliases are replaced by the values of their anchors. Reading goes through
the tree in the order of the text, so the first fault met is the one reported; collections nest at
most `depthLimit` deep, which also ends an alias inside its own anchor.
-/

namespace TargetNet.Yaml

/-- How deep collections may nest. -/
def depthLimit : Nat := 128

/-- How often aliases may be followed, for every event of the document. -/
def repetitionFactor : Nat := 100

/-- What an untagged text stands for. -/
def plainValue (text : String) : Except ReadError Value :=
  match Scalar.resolve text with
  | some value => .ok value
  | none => .error .integerTooLong

/-- The value of a scalar without a tag. -/
def untaggedValue (text : String) (style : ScalarStyle) : Except ReadError Value :=
  if style == .plain then plainValue text else .ok (.string text)

/-- The value of a scalar without a tag of the document's own. A tag that would be one if it were
text does not count, and any other unknown tag makes a string. -/
def scalarValue (text : String) (style : ScalarStyle) (tag : Option Tag) : Except ReadError Value :=
  match tag with
  | none => untaggedValue text style
  | some tag =>
    if tag == Tag.standard "bool" then
      match Scalar.bool? text with
      | some b => .ok (.bool b)
      | none => .error .wrongScalar
    else if tag == Tag.standard "int" then
      match Scalar.integer? text.toList with
      | some n => match Scalar.sizeOf n with
        | .word => .ok (.int n)
        | .double => .error .integerTooLong
        | .huge => .error .wrongScalar
      | none => .error .wrongScalar
    else if tag == Tag.standard "float" then
      match Scalar.float? text with
      | some x => .ok (.float x)
      | none => .error .wrongScalar
    else if tag == Tag.standard "null" then
      if Scalar.isNull text then .ok .null else .error .wrongScalar
    else if tag.isMarked then untaggedValue text style
    else .ok (.string text)

/-- What reading a document carries along. -/
structure DocumentReader where
  /-- The nodes with an anchor, the one that starts last first. -/
  anchored : List (Nat × Node)
  /-- The most aliases to follow. -/
  limit : Nat
  /-- The error at `cut`. -/
  fault : ReadError

namespace DocumentReader

mutual

/-- The value of a node, and how many aliases were followed so far. -/
def node (r : DocumentReader) (depth : Nat) (followed : Nat) : Node → Except ReadError (Value × Nat)
  | .alias n =>
    if r.limit < followed + 1 then .error .repetitionLimit
    else
      match r.anchored.find? (·.1 == n) with
      | some (_, target) => r.content depth (followed + 1) target
      | none => .error .unknownAnchor
  | other => r.content depth followed other
termination_by (depth, 1, 0)

/-- The value of a node that is no alias. -/
def content (r : DocumentReader) (depth : Nat) (followed : Nat) :
    Node → Except ReadError (Value × Nat)
  | .alias _ => .error .unknownAnchor
  | .cut => .error r.fault
  | .scalar text style tag _ =>
    match tag.bind Tag.localName? with
    | some name => do
      return (.tagged name (← untaggedValue text style), followed)
    | none => do return (← scalarValue text style tag, followed)
  | .collection kind items tag _ =>
    match depth with
    | 0 => .error .nestedTooDeeply
    | depth + 1 => do
      let (value, followed) ← match kind with
        | .sequence => do
          let (values, followed) ← r.sequence depth followed items
          pure (Value.sequence values, followed)
        | .mapping => do
          let (entries, followed) ← r.mapping depth followed [] items
          pure (Value.mapping entries, followed)
      match tag.bind Tag.localName? with
      | some name => return (.tagged name value, followed)
      | none => return (value, followed)
termination_by (depth, 0, 0)

/-- The values of nodes. -/
def sequence (r : DocumentReader) (depth : Nat) (followed : Nat) :
    List Node → Except ReadError (List Value × Nat)
  | [] => .ok ([], followed)
  | item :: rest => do
    let (value, followed) ← r.node depth followed item
    let (values, followed) ← r.sequence depth followed rest
    return (value :: values, followed)
termination_by items => (depth, 2, items.length)

/-- The entries of a mapping, after those in `entries`. -/
def mapping (r : DocumentReader) (depth : Nat) (followed : Nat) (entries : List (Value × Value)) :
    List Node → Except ReadError (List (Value × Value) × Nat)
  | [] => .ok (entries, followed)
  | [key] => do
    let _ ← r.node depth followed key
    .error r.fault
  | key :: item :: rest => do
    let (key, followed) ← r.node depth followed key
    if Value.hasKey entries key then throw .duplicateKey
    let (value, followed) ← r.node depth followed item
    r.mapping depth followed (entries ++ [(key, value)]) rest
termination_by items => (depth, 2, items.length)

end

end DocumentReader

/-- The value of a document text. A text without a document is null. -/
def readDocument (text : String) : Except ReadError Value := do
  let (events, _) := Event.ofString text
  let document := DocumentTree.build {} 0 events
  let reader : DocumentReader :=
    { anchored := document.root.anchored.reverse
      limit := repetitionFactor * document.size
      fault := document.fault.getD .malformed }
  let (value, _) ← reader.node depthLimit 0 document.root
  match document.fault with
  | some fault => throw fault
  | none =>
    match document.after with
    | [.streamEnd] => return value
    | _ => throw .severalDocuments

end TargetNet.Yaml
