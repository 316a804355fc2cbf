import TargetNet.Yaml.Spelling

/-!
# Writing documents

A value written in block style: an entry a line, two spaces deeper for every mapping, lists not
indented under their key, brackets or braces for empty collections. A key that is long, spans several
lines or is a collection is announced by a question mark.

The text grows at a `Pen`, which knows the column it is at. A collection that starts where only
indentation and indicators stand on the line goes on in that line; after a key or a tag it starts a new
one.
-/

namespace TargetNet.Yaml

/-- Why a value has no written form. -/
inductive WriteError where
  /-- A key is a tagged value or a mapping of one entry, in a mapping of one entry. -/
  | key
  /-- A tag directly under a tag. -/
  | nestedTag
  deriving DecidableEq, Repr

/-- The wording of a reason. -/
def WriteError.message : WriteError → String
  | .key => "a key of this form cannot be written"
  | .nestedTag => "serializing nested enums in YAML is not supported yet"

/-- What is written so far, and what the next piece depends on. -/
structure Pen where
  /-- The characters that were written, the last one first. -/
  written : List Char := []
  column : Nat := 0
  /-- No space is needed before the next piece. -/
  spaced : Bool := true
  /-- Only indentation and indicators stand on the line. -/
  opening : Bool := true

namespace Pen

/-- Writes a character. -/
def put (pen : Pen) (c : Char) : Pen :=
  { pen with written := c :: pen.written, column := pen.column + 1 }

/-- Writes characters. -/
def puts (pen : Pen) (cs : List Char) : Pen :=
  cs.foldl put pen

/-- Writes a character that ends the line. -/
def endLine (pen : Pen) (c : Char) : Pen :=
  { pen with written := c :: pen.written, column := 0, opening := true }

/-- Goes on to a column. -/
def pad (pen : Pen) (column : Nat) : Pen :=
  pen.puts (List.replicate (column - pen.column) ' ')

/-- Goes to a column, on a new line if the pen stands behind it or something is written before it. -/
def indent (pen : Pen) (column : Nat) : Pen :=
  let starts := !pen.opening || column < pen.column || (pen.column == column && !pen.spaced)
  let pen := if starts then pen.endLine '\n' else pen
  { pen.pad column with spaced := true, opening := true }

/-- Writes a space if one is needed. -/
def space (pen : Pen) : Pen :=
  if pen.spaced then pen else pen.put ' '

/-- Writes an indicator of the block structure. -/
def indicator (pen : Pen) (c : Char) : Pen :=
  { pen.space.put c with spaced := false }

/-- Writes the colon after a key. -/
def colon (pen : Pen) : Pen :=
  { pen.put ':' with spaced := false, opening := false }

/-- Writes a piece that is none of the structure. -/
def piece (pen : Pen) (cs : List Char) : Pen :=
  { pen.space.puts cs with spaced := false, opening := false }

/-- Writes the text of a literal block, or of single quotes, at a column. Line breaks are written as
they are, and `atBreak` tells whether one was the last thing written. -/
def lines (column : Nat) (double : Char → Bool) (pen : Pen) (atBreak : Bool) :
    List Char → Pen × Bool
  | [] => (pen, atBreak)
  | c :: rest =>
    if isBreak c then lines column double (pen.endLine c) true rest
    else
      let pen := if atBreak then pen.indent column else pen
      let pen := if double c then (pen.put c).put c else pen.put c
      lines column double { pen with opening := false } false rest

/-- Writes a text between single quotes. -/
def singleQuoted (pen : Pen) (column : Nat) (cs : List Char) : Pen :=
  let (pen, atBreak) := lines column (· == '\'') (pen.piece ['\'']) false cs
  let pen := if atBreak then pen.indent column else pen
  { pen.put '\'' with spaced := false, opening := false }

/-- Writes a literal block. -/
def literal (pen : Pen) (column : Nat) (cs : List Char) : Pen :=
  let pen := (pen.piece ('|' :: literalHints cs)).endLine '\n'
  (lines column (fun _ => false) { pen with spaced := true } true cs).1

/-- Writes a scalar in some spelling. -/
def scalar (pen : Pen) (column : Nat) (spelling : Spelling) (cs : List Char) : Pen :=
  match spelling with
  | .plain => pen.piece cs
  | .single => pen.singleQuoted column cs
  | .double => pen.piece (doubleQuoted cs)
  | .literal => pen.literal column cs

/-- Writes a tag, if there is one. -/
def tag (pen : Pen) : Option String → Pen
  | none => pen
  | some name => pen.piece (writtenTag name)

/-- The text that was written. -/
def text (pen : Pen) : String :=
  .ofList pen.written.reverse

end Pen

/-- The greatest number of bytes that a key without a question mark may have. -/
def maxSimpleKey : Nat := 128

/-- The text and the wanted spelling of a value that is no collection. -/
def Value.scalar? : Value → Option (String × Spelling)
  | .null => some ("null", .plain)
  | .bool b => some (if b then "true" else "false", .plain)
  | .int n => some (Decimal.intText n, .plain)
  | .float x => some (Value.floatText x, .plain)
  | .string s => some (s, preferred s)
  | _ => none

/-- Whether a value can be a key without a question mark, `used` bytes being taken by its tag. -/
def Value.isSimpleKey (used : Nat) : Value → Bool
  | .sequence items => items.isEmpty && used ≤ maxSimpleKey
  | .mapping entries => entries.isEmpty && used ≤ maxSimpleKey
  | .tagged name value => isSimpleKey (used + tagSize name) value
  | value =>
    match value.scalar? with
    | some (text, _) => !text.toList.any isBreak && used + text.utf8ByteSize ≤ maxSimpleKey
    | none => false

/-- Whether a value cannot be the key of the only entry of a mapping. -/
def Value.isRefusedKey : Value → Bool
  | .mapping [_] | .tagged _ _ => true
  | _ => false

/-- Where a node stands. -/
structure Position where
  /-- The column of the collection around it; none for a whole document. -/
  column : Option Nat := none
  /-- It is a key or value of a mapping. -/
  inMapping : Bool := false
  /-- It is a key without a question mark. -/
  simple : Bool := false

/-- The column of a mapping, and of a list that is not set right under its key. -/
def Position.inner (position : Position) : Nat :=
  match position.column with
  | none => 0
  | some column => column + 2

/-- The column of the lines of a scalar. -/
def Position.textColumn (position : Position) : Nat :=
  match position.column with
  | none => 2
  | some column => column + 2

/-- The column of a list, when the pen stands at its start. -/
def Position.listColumn (position : Position) (pen : Pen) : Nat :=
  match position.column with
  | none => 0
  | some column => if position.inMapping && !pen.opening then column else column + 2

/-- Writes a value that is no collection. -/
def writeScalar (pen : Pen) (position : Position) (tag : Option String) (value : Value) : Pen :=
  let pen := pen.tag tag
  match value.scalar? with
  | none => pen
  | some (text, wanted) =>
    let spelling := (traits text.toList).spelling position.simple wanted
    pen.scalar position.textColumn spelling text.toList

mutual

/-- Writes a value under a tag, or under none. -/
def writeNode (pen : Pen) (position : Position) (tag : Option String) : Value → Except WriteError Pen
  | .tagged name value =>
    if tag.isSome then .error .nestedTag else writeNode pen position (some name) value
  | .sequence items =>
    let pen := pen.tag tag
    if items.isEmpty then .ok (pen.piece ['[', ']'])
    else writeItems (position.listColumn pen) pen items
  | .mapping entries =>
    let pen := pen.tag tag
    if entries.isEmpty then .ok (pen.piece ['\x7b', '\x7d'])
    else writeEntries position.inner (entries.length == 1 && tag.isNone) pen entries
  | .null => .ok (writeScalar pen position tag .null)
  | .bool b => .ok (writeScalar pen position tag (.bool b))
  | .int n => .ok (writeScalar pen position tag (.int n))
  | .float x => .ok (writeScalar pen position tag (.float x))
  | .string s => .ok (writeScalar pen position tag (.string s))

/-- Writes the items of a list at a column. -/
def writeItems (column : Nat) (pen : Pen) : List Value → Except WriteError Pen
  | [] => .ok pen
  | item :: rest => do
    let pen ← writeNode ((pen.indent column).indicator '-') ⟨some column, false, false⟩ none item
    writeItems column pen rest

/-- Writes the entries of a mapping at a column; `sole` tells whether there is but one. -/
def writeEntries (column : Nat) (sole : Bool) (pen : Pen) :
    List (Value × Value) → Except WriteError Pen
  | [] => .ok pen
  | (key, value) :: rest => do
    if sole && key.isRefusedKey then throw .key
    let pen := pen.indent column
    let pen ←
      if key.isSimpleKey 0 then
        let pen ← writeNode pen ⟨some column, true, true⟩ none key
        pure pen.colon
      else
        let pen ← writeNode (pen.indicator '?') ⟨some column, true, false⟩ none key
        pure ((pen.indent column).indicator ':')
    let pen ← writeNode pen ⟨some column, true, false⟩ none value
    writeEntries column sole pen rest

end

/-- The text of a document. -/
def writeDocument (value : Value) : Except WriteError String := do
  let pen ← writeNode {} {} none value
  return (pen.indent 0).text

end TargetNet.Yaml
