import TargetNet.Yaml.Token

/-!
# Events

The grammar of a document over its tokens. Reading is a walk through states (`Place`), each of which
looks at the next token and yields an event, with a stack of the places to return to. The events of a
text end with `streamEnd`, or earlier where the text stops to follow the grammar.
-/

namespace TargetNet.Yaml

/-- The two kinds of collection. -/
inductive CollectionKind where
  | sequence
  | mapping
  deriving DecidableEq, Repr

/-- Anchor and tag of a node. -/
structure Properties where
  anchor : Option String := none
  tag : Option Tag := none
  deriving DecidableEq, Repr

/-- An event of a document. -/
inductive Event where
  | documentStart
  | documentEnd
  | alias (name : String)
  | scalar (text : String) (style : ScalarStyle) (properties : Properties)
  | start (kind : CollectionKind) (properties : Properties)
  | finish
  | streamEnd
  deriving DecidableEq, Repr

/-- Where the reading of events stands. -/
inductive Place where
  | documentStart (first : Bool)
  | documentContent
  | documentEnd
  /-- A node; `block` allows block collections. -/
  | node (block indentless : Bool)
  | blockSequence (first : Bool)
  | indentlessSequence
  | blockKey (first : Bool)
  | blockValue
  | flowSequence (first : Bool)
  | pairKey
  | pairValue
  | pairEnd
  | flowKey (first : Bool)
  | flowValue
  /-- The value of a key after which no colon is expected. -/
  | flowNoValue
  | streamEnd
  deriving DecidableEq, Repr

/-- The state of reading events. -/
structure EventReader where
  tokens : List Token
  place : Place := .documentStart true
  returns : List Place := []
  /-- The tag handles in force. -/
  handles : List (String × List UInt8) := []

namespace EventReader

/-- A scalar without text. -/
def emptyScalar (properties : Properties) : Event :=
  .scalar "" .plain properties

/-- The handles that every document knows. -/
def standardHandles : List (String × List UInt8) :=
  [("!", (Tag.ofString "!").bytes), ("!!", (Tag.standard "").bytes)]

/-- Reads directives. A document has at most one version, of one of two kinds, and no handle twice. -/
def readDirectives (version : Bool) (handles : List (String × List UInt8)) :
    List Token → Option (List (String × List UInt8) × List Token)
  | .versionDirective major minor :: rest =>
    if version || major != 1 || !(minor == 1 || minor == 2) then none
    else readDirectives true handles rest
  | .tagDirective handle full :: rest =>
    if handles.any (·.1 == handle) then none
    else readDirectives version (handles ++ [(handle, full)]) rest
  | tokens => some (handles ++ standardHandles, tokens)

/-- A tag in full. -/
def tag? (r : EventReader) (handle : String) (suffix : List UInt8) : Option Tag :=
  if handle.isEmpty then some ⟨suffix⟩
  else (r.handles.find? (·.1 == handle)).map fun (_, full) => ⟨full ++ suffix⟩

/-- Goes back to the last place on the stack. -/
def back (r : EventReader) : EventReader :=
  { r with place := r.returns.headD .streamEnd, returns := r.returns.tail }

/-- Reads the properties of a node: an anchor and a tag in either order. -/
def readProperties (r : EventReader) : Option (Properties × List Token) :=
  match r.tokens with
  | .anchor name :: .tag handle suffix :: rest | .tag handle suffix :: .anchor name :: rest =>
    (r.tag? handle suffix).map fun tag => (⟨some name, some tag⟩, rest)
  | .anchor name :: rest => some (⟨some name, none⟩, rest)
  | .tag handle suffix :: rest => (r.tag? handle suffix).map fun tag => (⟨none, some tag⟩, rest)
  | tokens => some ({}, tokens)

/-- Reads the start of a node. -/
def node (r : EventReader) (block indentless : Bool) : Option (Event × EventReader) :=
  match r.tokens with
  | .alias name :: rest => some (.alias name, { r.back with tokens := rest })
  | _ => do
    let (properties, tokens) ← r.readProperties
    match tokens with
    | .scalar text style :: rest =>
      return (.scalar text style properties, { r.back with tokens := rest })
    | .flowSequenceStart :: rest =>
      return (.start .sequence properties, { r with tokens := rest, place := .flowSequence true })
    | .flowMappingStart :: rest =>
      return (.start .mapping properties, { r with tokens := rest, place := .flowKey true })
    | .blockEntry :: _ =>
      if indentless then
        return (.start .sequence properties, { r with tokens, place := .indentlessSequence })
      else if properties == {} then none
      else return (emptyScalar properties, { r.back with tokens })
    | .blockSequenceStart :: rest =>
      if block then
        return (.start .sequence properties, { r with tokens := rest, place := .blockSequence true })
      else if properties == {} then none
      else return (emptyScalar properties, { r.back with tokens })
    | .blockMappingStart :: rest =>
      if block then
        return (.start .mapping properties, { r with tokens := rest, place := .blockKey true })
      else if properties == {} then none
      else return (emptyScalar properties, { r.back with tokens })
    | [] => none
    | _ => if properties == {} then none else return (emptyScalar properties, { r.back with tokens })

/-- Reads a node and comes back to `place` after it. -/
def nodeThen (r : EventReader) (tokens : List Token) (place : Place) (block indentless : Bool) :
    Option (Event × EventReader) :=
  { r with tokens, returns := place :: r.returns }.node block indentless

/-- Yields an empty scalar and goes to `place`. -/
def emptyThen (r : EventReader) (tokens : List Token) (place : Place) : Option (Event × EventReader) :=
  some (emptyScalar {}, { r with tokens, place })

/-- Ends a collection. -/
def finishAt (r : EventReader) (tokens : List Token) : Option (Event × EventReader) :=
  some (.finish, { r.back with tokens })

/-- The tokens after a separator that all entries but the first need; `none` if it is missing. -/
def afterSeparator (first : Bool) (closing : Token) (tokens : List Token) : Option (List Token) :=
  match tokens with
  | [] => none
  | t :: rest =>
    if first || t == closing then some tokens
    else if t == .flowEntry then some rest
    else none

/-- The next event; `none` where the tokens end or do not follow the grammar. -/
def next (r : EventReader) : Option (Event × EventReader) :=
  match r.place with
  | .documentStart first =>
    let tokens := if first then r.tokens else r.tokens.dropWhile (· == .documentEnd)
    match tokens with
    | [] => none
    | [.streamEnd] => some (.streamEnd, { r with tokens := [], place := .streamEnd })
    | t :: _ =>
      let explicit := match t with
        | .versionDirective .. | .tagDirective .. | .documentStart => true
        | _ => !first
      if explicit then
        match readDirectives false [] tokens with
        | some (handles, .documentStart :: rest) =>
          some (.documentStart,
            { tokens := rest, place := .documentContent, returns := [.documentEnd], handles })
        | _ => none
      else
        some (.documentStart,
          { tokens, place := .node true false, returns := [.documentEnd], handles := standardHandles })
  | .documentContent =>
    match r.tokens with
    | [] => none
    | .versionDirective .. :: _ | .tagDirective .. :: _ | .documentStart :: _ | .documentEnd :: _
    | .streamEnd :: _ => some (emptyScalar {}, r.back)
    | _ => r.node true false
  | .documentEnd =>
    match r.tokens with
    | [] => none
    | .documentEnd :: rest =>
      some (.documentEnd, { r with tokens := rest, place := .documentStart false })
    | _ => some (.documentEnd, { r with place := .documentStart false })
  | .node block indentless => r.node block indentless
  | .blockSequence _ =>
    match r.tokens with
    | .blockEntry :: rest =>
      match rest with
      | [] => none
      | .blockEntry :: _ | .blockEnd :: _ => r.emptyThen rest (.blockSequence false)
      | _ => r.nodeThen rest (.blockSequence false) true false
    | .blockEnd :: rest => r.finishAt rest
    | _ => none
  | .indentlessSequence =>
    match r.tokens with
    | .blockEntry :: rest =>
      match rest with
      | [] => none
      | .blockEntry :: _ | .key :: _ | .value :: _ | .blockEnd :: _ =>
        r.emptyThen rest .indentlessSequence
      | _ => r.nodeThen rest .indentlessSequence true false
    | [] => none
    | tokens => r.finishAt tokens
  | .blockKey _ =>
    match r.tokens with
    | .key :: rest =>
      match rest with
      | [] => none
      | .key :: _ | .value :: _ | .blockEnd :: _ => r.emptyThen rest .blockValue
      | _ => r.nodeThen rest .blockValue true true
    | .blockEnd :: rest => r.finishAt rest
    | _ => none
  | .blockValue =>
    match r.tokens with
    | .value :: rest =>
      match rest with
      | [] => none
      | .key :: _ | .value :: _ | .blockEnd :: _ => r.emptyThen rest (.blockKey false)
      | _ => r.nodeThen rest (.blockKey false) true true
    | [] => none
    | tokens => r.emptyThen tokens (.blockKey false)
  | .flowSequence first =>
    match afterSeparator first .flowSequenceEnd r.tokens with
    | some (.key :: rest) =>
      some (.start .mapping {},
        { r with tokens := rest, place := .pairKey })
    | some (.flowSequenceEnd :: rest) => r.finishAt rest
    | some tokens => r.nodeThen tokens (.flowSequence false) false false
    | none => none
  | .pairKey =>
    match r.tokens with
    | [] => none
    -- the token that shows the key to be missing goes with it
    | .value :: rest | .flowEntry :: rest | .flowSequenceEnd :: rest => r.emptyThen rest .pairValue
    | tokens => r.nodeThen tokens .pairValue false false
  | .pairValue =>
    match r.tokens with
    | .value :: rest =>
      match rest with
      | [] => none
      | .flowEntry :: _ | .flowSequenceEnd :: _ => r.emptyThen rest .pairEnd
      | _ => r.nodeThen rest .pairEnd false false
    | [] => none
    | tokens => r.emptyThen tokens .pairEnd
  | .pairEnd => some (.finish, { r with place := .flowSequence false })
  | .flowKey first =>
    match afterSeparator first .flowMappingEnd r.tokens with
    | some (.key :: rest) =>
      match rest with
      | [] => none
      | .value :: _ | .flowEntry :: _ | .flowMappingEnd :: _ => r.emptyThen rest .flowValue
      | _ => r.nodeThen rest .flowValue false false
    | some (.flowMappingEnd :: rest) => r.finishAt rest
    | some tokens => r.nodeThen tokens .flowNoValue false false
    | none => none
  | .flowValue =>
    match r.tokens with
    | .value :: rest =>
      match rest with
      | [] => none
      | .flowEntry :: _ | .flowMappingEnd :: _ => r.emptyThen rest (.flowKey false)
      | _ => r.nodeThen rest (.flowKey false) false false
    | [] => none
    | tokens => r.emptyThen tokens (.flowKey false)
  | .flowNoValue => if r.tokens.isEmpty then none else r.emptyThen r.tokens (.flowKey false)
  | .streamEnd => none

/-- All events, and whether the text goes wrong after them. -/
def run (r : EventReader) : (fuel : Nat) → List Event × Bool
  | 0 => ([], true)
  | fuel + 1 =>
    match r.next with
    | none => ([], true)
    | some (.streamEnd, _) => ([.streamEnd], false)
    | some (event, r) =>
      let (events, broken) := run r fuel
      (event :: events, broken)

end EventReader

/-- The events of a text, and whether the text goes wrong after them. -/
def Event.ofString (text : String) : List Event × Bool :=
  let tokens := (Tokens.ofString text).tokens
  EventReader.run { tokens } (8 * tokens.length + 8)

end TargetNet.Yaml
