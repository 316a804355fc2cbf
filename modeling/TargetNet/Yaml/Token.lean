import TargetNet.Decimal.Numeral
import TargetNet.Yaml.Tag

/-!
# Tokens

A document text cut into indicators, properties and scalars, with the start and end of every indented
block made explicit. Whether a scalar is a key shows only at the colon after it, so `Lexer.keys`
remembers, for every open bracket, the token that may turn out to be one; the key token is then put
in front of it. Such a token must not be used before that is settled: when the text goes wrong, only
the tokens before the first unsettled one come out (`Tokens`).
-/

namespace TargetNet.Yaml

/-- How a scalar was written. -/
inductive ScalarStyle where
  | plain
  | quoted
  deriving DecidableEq, Repr

/-- A token of a document. -/
inductive Token where
  | versionDirective (major minor : Nat)
  /-- What a tag handle stands for. -/
  | tagDirective (handle : String) (full : List UInt8)
  | documentStart
  | documentEnd
  | blockSequenceStart
  | blockMappingStart
  | blockEnd
  | flowSequenceStart
  | flowSequenceEnd
  | flowMappingStart
  | flowMappingEnd
  | blockEntry
  | flowEntry
  | key
  | value
  | alias (name : String)
  | anchor (name : String)
  /-- A tag by its handle and the rest; the handle of a verbatim tag is empty. -/
  | tag (handle : String) (suffix : List UInt8)
  | scalar (text : String) (style : ScalarStyle)
  | streamEnd
  deriving DecidableEq, Repr

/-- The tokens of a text as far as it could be read. -/
structure Tokens where
  tokens : List Token
  /-- Whether the text goes wrong after these tokens. -/
  broken : Bool
  deriving Repr

/-- A token that may be a key. -/
structure KeyCandidate where
  /-- Its number among the tokens. -/
  number : Nat
  /-- Whether a colon has to follow. -/
  required : Bool
  line : Nat
  column : Nat
  index : Nat

/-- The state of cutting a text into tokens. -/
structure Lexer where
  cursor : Cursor
  /-- The column of the innermost block, if any. -/
  indent : Option Nat := none
  /-- The columns of the blocks around it. -/
  outer : List (Option Nat) := []
  /-- The candidate of every open bracket, the innermost first, and of the text outside. -/
  keys : List (Option KeyCandidate) := [none]
  /-- Whether a key may start here. -/
  keyAllowed : Bool := true
  tokens : Array Token := #[]
  /-- Whether the text goes on after its end, but cannot be read there. -/
  isCut : Bool := false

namespace Lexer

/-- Whether the text is between brackets. -/
def inFlow (l : Lexer) : Bool :=
  1 < l.keys.length

/-- Adds a token. -/
def push (l : Lexer) (t : Token) : Lexer :=
  { l with tokens := l.tokens.push t }

/-- Whether a column lies deeper than the innermost block. -/
def deeper (l : Lexer) (column : Nat) : Bool :=
  l.indent.all (· < column)

/-- Opens a block at a column that is deeper than the innermost one. Its token comes at position
`place`, or last. -/
def openBlock (l : Lexer) (column : Nat) (place : Option Nat) (t : Token) : Lexer :=
  if l.inFlow || !l.deeper column then l
  else
    { l with
      indent := some column
      outer := l.indent :: l.outer
      tokens := match place with
        | none => l.tokens.push t
        | some n => l.tokens.insertIdxIfInBounds n t }

/-- Closes the blocks that are deeper than `column`, or all of them. -/
def closeBlocks (l : Lexer) (column : Option Nat) : Lexer :=
  if l.inFlow then l else go l (l.outer.length + 1)
where
  /-- Closes at most so many blocks. -/
  go (l : Lexer) : Nat → Lexer
    | 0 => l
    | fuel + 1 =>
      match l.indent with
      | none => l
      | some n =>
        if column.all (· < n) then
          go { l with
            indent := l.outer.headD none
            outer := l.outer.tail
            tokens := l.tokens.push .blockEnd } fuel
        else l

/-- Gives up the innermost candidate. -/
def dropKey (l : Lexer) : Except ReadError Lexer :=
  match l.keys with
  | some key :: rest => if key.required then .error .malformed else .ok { l with keys := none :: rest }
  | _ => .ok l

/-- Makes the next token a candidate where keys are allowed. -/
def saveKey (l : Lexer) : Except ReadError Lexer :=
  if l.keyAllowed then do
    let c := l.cursor
    let required := !l.inFlow && l.indent == some c.column
    let l ← l.dropKey
    return { l with keys := some ⟨l.tokens.size, required, c.line, c.column, c.index⟩ :: l.keys.tail }
  else .ok l

/-- Gives up the candidates that are on an earlier line or too far back. -/
def dropStaleKeys (l : Lexer) : Except ReadError Lexer := do
  let c := l.cursor
  let keys ← l.keys.mapM fun
    | none => Except.ok none
    | some key =>
      if key.line < c.line || key.index + 1024 < c.index then
        if key.required then .error ReadError.malformed else .ok none
      else .ok (some key)
  return { l with keys }

/-- Past blanks, comments and line breaks. -/
def skipToToken (l : Lexer) : (fuel : Nat) → Lexer
  | 0 => l
  | fuel + 1 =>
    let c := l.cursor
    let c := if c.column == 0 && c.looksAt '\uFEFF' then c.skip else c
    let c := c.skipWhile fun x => x == ' ' || ((l.inFlow || !l.keyAllowed) && x == '\t')
    let c := if c.looksAt '#' then c.skipLine else c
    if c.atBreak then
      skipToToken { l with cursor := c.skipBreak, keyAllowed := l.keyAllowed || !l.inFlow } fuel
    else { l with cursor := c }

/-- Reads the rest of a tag after `head`, of which the exclamation mark is left out. -/
def readTagText (verbatim : Bool) (head : List Char) (c : Cursor) :
    Except ReadError (List UInt8 × Cursor) :=
  let raw := c.ahead (Tag.admits verbatim)
  if head.isEmpty && raw.isEmpty then .error .malformed
  else
    match Tag.piece? (head.drop 1 ++ raw) with
    | some piece => .ok (piece, c.skipMany raw.length)
    | none => .error .malformed

/-- Reads a tag handle: an exclamation mark, a name, and a second mark if there is one. -/
def readHandle (directive : Bool) (c : Cursor) : Except ReadError (List Char × Cursor) :=
  if !c.looksAt '!' then .error .malformed
  else
    let name := c.skip.ahead isWord
    let after := c.skipMany (name.length + 1)
    if after.looksAt '!' then .ok ('!' :: name ++ ['!'], after.skip)
    else if directive && !name.isEmpty then .error .malformed
    else .ok ('!' :: name, after)

/-- Reads a tag. -/
def readTag (inFlow : Bool) (c : Cursor) : Except ReadError (Token × Cursor) := do
  let (token, c) ←
    if c.peek 1 == some '<' then do
      let (suffix, c) ← readTagText true [] (c.skipMany 2)
      if c.looksAt '>' then pure (Token.tag "" suffix, c.skip) else throw .malformed
    else do
      let (handle, c) ← readHandle false c
      if handle.length > 1 && handle.getLast? == some '!' then
        let (suffix, c) ← readTagText false [] c
        pure (Token.tag (String.ofList handle) suffix, c)
      else
        let (suffix, c) ← readTagText false handle c
        pure (if suffix.isEmpty then (Token.tag "" (Text.Utf8.encode "!"), c)
          else (Token.tag "!" suffix, c))
  if c.blankAt 0 || (inFlow && c.looksAt ',') then return (token, c) else throw .malformed

/-- Reads the name of an anchor or alias. -/
def readName (c : Cursor) : Except ReadError (String × Cursor) :=
  let name := c.skip.ahead isWord
  let after := c.skipMany (name.length + 1)
  if name.isEmpty then .error .malformed
  else if after.blankAt 0 || after.rest.head?.any ("?:,]\x7d%@\x60".toList.contains ·) then
    .ok (String.ofList name, after)
  else .error .malformed

/-- A decimal number of at most nine digits. -/
def readVersionNumber (c : Cursor) : Except ReadError (Nat × Cursor) :=
  let digits := c.ahead Decimal.isDigit
  if digits.isEmpty || digits.length > 9 then .error .malformed
  else .ok ((Decimal.value? 10 digits).getD 0, c.skipMany digits.length)

/-- Reads a directive to the end of its line. -/
def readDirective (c : Cursor) : Except ReadError (Token × Cursor) := do
  let name := c.skip.ahead isWord
  let c := c.skipMany (name.length + 1)
  if name.isEmpty || !c.blankAt 0 then throw .malformed
  let (token, c) ←
    if name == "YAML".toList then do
      let (major, c) ← readVersionNumber (c.skipWhile isGap)
      if !c.looksAt '.' then throw .malformed
      let (minor, c) ← readVersionNumber c.skip
      pure (Token.versionDirective major minor, c)
    else if name == "TAG".toList then do
      let (handle, c) ← readHandle true (c.skipWhile isGap)
      if !(c.rest.head?.any isGap) then throw .malformed
      let (full, c) ← readTagText true [] (c.skipWhile isGap)
      if !c.blankAt 0 then throw .malformed
      pure (Token.tagDirective (String.ofList handle) full, c)
    else throw .malformed
  let c := c.skipWhile isGap
  let c := if c.looksAt '#' then c.skipLine else c
  if c.atLineEnd then return (token, c.skipBreak) else throw .malformed

/-- Takes a token of one character after which a key may start or not. -/
def indicator (l : Lexer) (t : Token) (keyAllowed : Bool) : Lexer :=
  { l.push t with cursor := l.cursor.skip, keyAllowed }

/-- Takes what ends all blocks: a directive, a document mark or the end of the text. -/
def atMargin (l : Lexer) : Except ReadError Lexer := do
  let l ← (l.closeBlocks none).dropKey
  return { l with keyAllowed := false }

/-- Takes a colon: it makes a key of the candidate, or stands for the value of an explicit or missing
key. -/
def takeValue (l : Lexer) : Except ReadError Lexer :=
  match l.keys with
  | some key :: rest =>
    let l := { l with tokens := l.tokens.insertIdxIfInBounds key.number .key }
    let l := l.openBlock key.column (some key.number) .blockMappingStart
    .ok ({ l with keys := none :: rest }.indicator .value false)
  | _ =>
    if l.inFlow then .ok (l.indicator .value false)
    else if l.keyAllowed then
      .ok ((l.openBlock l.cursor.column none .blockMappingStart).indicator .value true)
    else .error .malformed

/-- Takes a scalar that was read up to `after`. -/
def takeScalar (l : Lexer) (text : List Char) (style : ScalarStyle) (after : Cursor)
    (keyAllowed : Bool) : Lexer :=
  { l.push (.scalar (String.ofList text) style) with cursor := after, keyAllowed }

/-- Whether a plain scalar starts here. -/
def startsPlain (l : Lexer) : Bool :=
  match l.cursor.rest with
  | [] => false
  | x :: _ =>
    !(isGap x || isBreak x || "-?:,[]\x7b\x7d#&*!|>'\"%@\x60".toList.contains x) ||
      (x == '-' && !(l.cursor.peek 1).any isGap) ||
      (!l.inFlow && (x == '?' || x == ':') && !l.cursor.blankAt 1)

/-- Takes the next token. The flag tells that it was the last. -/
def next (l : Lexer) : Except ReadError (Lexer × Bool) := do
  let l := l.skipToToken (l.cursor.size + 1)
  let l ← l.dropStaleKeys
  let l := l.closeBlocks (some l.cursor.column)
  let c := l.cursor
  let fuel := c.size + 1
  let blankNext := c.blankAt 1
  match c.rest with
  | [] =>
    let l ← l.atMargin
    return (l.push .streamEnd, true)
  | x :: _ =>
    if c.column == 0 && x == '%' then
      let l ← l.atMargin
      let (token, after) ← readDirective c
      return ({ l.push token with cursor := after }, false)
    else if c.atDocumentMark '-' then
      let l ← l.atMargin
      return ({ l.push .documentStart with cursor := c.skipMany 3 }, false)
    else if c.atDocumentMark '.' then
      let l ← l.atMargin
      return ({ l.push .documentEnd with cursor := c.skipMany 3 }, false)
    else if x == '[' || x == '\x7b' then
      let l ← l.saveKey
      let l := l.indicator (if x == '[' then .flowSequenceStart else .flowMappingStart) true
      return ({ l with keys := none :: l.keys }, false)
    else if x == ']' || x == '\x7d' then
      let l ← l.dropKey
      let l := { l with keys := if l.inFlow then l.keys.tail else l.keys }
      return (l.indicator (if x == ']' then .flowSequenceEnd else .flowMappingEnd) false, false)
    else if x == ',' then
      return ((← l.dropKey).indicator .flowEntry true, false)
    else if x == '-' && blankNext then
      if !l.inFlow && !l.keyAllowed then throw .malformed
      let l ← (l.openBlock c.column none .blockSequenceStart).dropKey
      return (l.indicator .blockEntry true, false)
    else if x == '?' && (l.inFlow || blankNext) then
      if !l.inFlow && !l.keyAllowed then throw .malformed
      let l ← (l.openBlock c.column none .blockMappingStart).dropKey
      return (l.indicator .key (!l.inFlow), false)
    else if x == ':' && (l.inFlow || blankNext) then
      return (← l.takeValue, false)
    else if x == '*' || x == '&' then
      let l ← l.saveKey
      let (name, after) ← readName c
      return ({ l.push (if x == '*' then .alias name else .anchor name) with
        cursor := after, keyAllowed := false }, false)
    else if x == '!' then
      let l ← l.saveKey
      let (token, after) ← readTag l.inFlow c
      return ({ l.push token with cursor := after, keyAllowed := false }, false)
    else if (x == '|' || x == '>') && !l.inFlow then
      let l ← l.dropKey
      let (text, after) ← readBlock (x == '|') l.indent c.skip
      return (l.takeScalar text .quoted after true, false)
    else if x == '\'' || x == '"' then
      let l ← l.saveKey
      let (text, after) ← readQuoted (x == '\'') fuel [] c.skip
      return (l.takeScalar text .quoted after false, false)
    else if l.startsPlain then
      let l ← l.saveKey
      let (text, after, broken) ← readPlain l.inFlow (l.indent.elim 0 (· + 1)) fuel [] {} c
      return (l.takeScalar text .plain after broken, false)
    else throw .malformed

/-- The tokens that are settled. -/
def settled (l : Lexer) : List Token :=
  let keys := match l.dropStaleKeys with
    | .ok l => l.keys
    | .error _ => l.keys
  let first := keys.foldl (fun n key => key.elim n fun key => min n key.number) l.tokens.size
  l.tokens.toList.take first

/-- The number of characters that are looked at together. -/
def foresight : Nat := 4

/-- Whether the characters to look at next cannot all be read. -/
def atCut (l : Lexer) : Bool :=
  l.isCut && (l.cursor.peek (foresight - 1)).isNone

/-- Takes tokens until the text ends or goes wrong. -/
def run (l : Lexer) : (fuel : Nat) → Tokens
  | 0 => ⟨l.settled, true⟩
  | fuel + 1 =>
    match l.next with
    | .error _ => ⟨l.settled, true⟩
    | .ok (more, isLast) =>
      if more.atCut then ⟨l.settled, true⟩
      else if isLast then ⟨more.tokens.toList, false⟩
      else run more fuel

end Lexer

/-- The characters that a document may hold. -/
def isDocumentChar (x : Char) : Bool :=
  let n := x.toNat
  n == 0x09 || n == 0x0A || n == 0x0D || (0x20 ≤ n && n ≤ 0x7E) || n == 0x85 ||
    (0xA0 ≤ n && n ≤ 0xD7FF) || (0xE000 ≤ n && n ≤ 0xFFFD) || 0x10000 ≤ n

/-- How many bytes of a text are read together. -/
def portionSize : Nat := 16384

/-- The part of a text that can be read, and whether more follows: the text is read in portions of as
many characters as fit, and one with a character that must not be there cannot be read. What was read
so far is `taken`, and `portion` is the beginning of the next portion, `size` bytes long, both in
reverse. -/
def readable (taken portion : List Char) (size : Nat) : List Char → List Char × Bool
  | [] => ((portion ++ taken).reverse, false)
  | c :: rest =>
    let isFull := portionSize < size + c.utf8Size
    let taken := if isFull then portion ++ taken else taken
    let portion := if isFull then [] else portion
    let size := if isFull then 0 else size
    if isDocumentChar c then readable taken (c :: portion) (size + c.utf8Size) rest
    else (taken.reverse, true)

/-- The tokens of a text. -/
def Tokens.ofString (text : String) : Tokens :=
  let (cs, isCut) := readable [] [] 0 text.toList
  Lexer.run { cursor := .ofText cs, isCut } (2 * cs.length + 2)

end TargetNet.Yaml
