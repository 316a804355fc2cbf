/-!
# Positions in a document text

A cursor is the rest of the text together with the line, the column and the number of bytes before
it, and the size of the whole text, which bounds every loop over the rest. Columns count characters,
while lengths are measured in the bytes of UTF-8. A line ends at a carriage return, a line feed, both
in this order, a next-line character, a line separator or a paragraph separator; the end of the text
counts as a blank.
-/

namespace TargetNet.Yaml

/-- A character that ends a line. -/
def isBreak (c : Char) : Bool :=
  c == '\n' || c == '\r' || c == '\u0085' || c == '\u2028' || c == '\u2029'

/-- A space or a tab. -/
def isGap (c : Char) : Bool :=
  c == ' ' || c == '\t'

/-- A character of a name: a letter, a digit, a hyphen or an underscore. -/
def isWord (c : Char) : Bool :=
  let n := c.toNat
  (48 ≤ n && n ≤ 57) || (65 ≤ n && n ≤ 90) || (97 ≤ n && n ≤ 122) || c == '_' || c == '-'

/-- The number of bytes that characters take in UTF-8. -/
def byteCount (cs : List Char) : Nat :=
  cs.foldl (fun n c => n + c.utf8Size) 0

/-- A place in a text. -/
structure Cursor where
  rest : List Char
  /-- The number of characters in the whole text. -/
  size : Nat
  line : Nat := 0
  column : Nat := 0
  /-- The number of bytes before this place. -/
  index : Nat := 0

namespace Cursor

/-- The start of a text. -/
def ofText (text : List Char) : Cursor :=
  { rest := text, size := text.length }

/-- The character `n` places ahead. -/
def peek (c : Cursor) (n : Nat) : Option Char :=
  c.rest[n]?

/-- Whether the text goes on with this character. -/
def looksAt (c : Cursor) (x : Char) : Bool :=
  c.rest.head? == some x

/-- Whether the character `n` places ahead is a break, a space, a tab or the end of the text. -/
def blankAt (c : Cursor) (n : Nat) : Bool :=
  match c.peek n with
  | none => true
  | some x => isGap x || isBreak x

/-- Whether the text has ended. -/
def atEnd (c : Cursor) : Bool :=
  c.rest.isEmpty

/-- Whether a line break comes next. -/
def atBreak (c : Cursor) : Bool :=
  c.rest.head?.any isBreak

/-- Whether a line break or the end of the text comes next. -/
def atLineEnd (c : Cursor) : Bool :=
  c.atEnd || c.atBreak

/-- Past `n` characters, none of which is a line break. -/
def skipMany (c : Cursor) (n : Nat) : Cursor :=
  { c with
    rest := c.rest.drop n
    column := c.column + n
    index := c.index + byteCount (c.rest.take n) }

/-- Past one character, which is no line break. -/
def skip (c : Cursor) : Cursor :=
  c.skipMany 1

/-- Past all characters that satisfy `p`, none of which is a line break. -/
def skipWhile (c : Cursor) (p : Char → Bool) : Cursor :=
  c.skipMany (c.rest.takeWhile p).length

/-- The characters ahead that satisfy `p`. -/
def ahead (c : Cursor) (p : Char → Bool) : List Char :=
  c.rest.takeWhile p

/-- Past a line break. -/
def skipBreak (c : Cursor) : Cursor :=
  match c.rest with
  | '\r' :: '\n' :: rest => { c with rest, line := c.line + 1, column := 0, index := c.index + 2 }
  | x :: rest =>
    if isBreak x then { c with rest, line := c.line + 1, column := 0, index := c.index + x.utf8Size }
    else c
  | [] => c

/-- What a line break adds to a text: the two separators stand for themselves, all others for a line
feed. -/
def breakText (c : Cursor) : List Char :=
  match c.rest with
  | x :: _ => if x == '\u2028' || x == '\u2029' then [x] else if isBreak x then ['\n'] else []
  | [] => []

/-- Past the rest of a line. -/
def skipLine (c : Cursor) : Cursor :=
  c.skipWhile fun x => !isBreak x

/-- Whether three hyphens or three dots stand alone at the start of a line. -/
def atDocumentMark (c : Cursor) (x : Char) : Bool :=
  c.column == 0 && c.peek 0 == some x && c.peek 1 == some x && c.peek 2 == some x && c.blankAt 3

/-- Whether a document begins or ends here. -/
def atAnyDocumentMark (c : Cursor) : Bool :=
  c.atDocumentMark '-' || c.atDocumentMark '.'

end Cursor

end TargetNet.Yaml
