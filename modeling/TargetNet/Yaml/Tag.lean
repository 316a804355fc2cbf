import TargetNet.Text.Utf8
import TargetNet.Yaml.Lexeme
import TargetNet.Yaml.Value

/-!
# Tags

A tag is a sequence of bytes. It is written in characters, where a per cent sign escapes a byte: the
escapes of one character have the form of UTF-8, but they need not spell one. Tags are put together
from pieces, and a piece ends before its first zero byte. A tag that begins with an exclamation mark
and is text is one of the document's own (`Tag.localName?`).
-/

namespace TargetNet.Yaml

/-- A tag of a node, in full. -/
structure Tag where
  bytes : List UInt8
  deriving DecidableEq, Repr

namespace Tag

/-- A character that may stand in a tag. Commas and square brackets only may in a verbatim one. -/
def admits (verbatim : Bool) (x : Char) : Bool :=
  isWord x || ";/?:@&=+$.%!~*'()".toList.contains x || (verbatim && (x == ',' || x == '[' || x == ']'))

/-- How many bytes follow a byte that begins a character. -/
def following? (first : Nat) : Option Nat :=
  if first < 0x80 then some 0
  else if first / 32 == 6 then some 1
  else if first / 16 == 14 then some 2
  else if first / 8 == 30 then some 3
  else none

/-- The bytes of a tag with its escapes decoded, when `pending` more escapes belong to the character
that was begun. -/
def unescape? : (pending : Nat) → List Char → Option (List UInt8)
  | 0, [] => some []
  | pending, '%' :: x :: y :: rest => do
    let byte := (← hexValue? x) * 16 + (← hexValue? y)
    let pending ←
      match pending with
      | 0 => following? byte
      | pending + 1 => if byte / 64 == 2 then some pending else none
    return UInt8.ofNat byte :: (← unescape? pending rest)
  | 0, c :: rest => do
    if c == '%' then none
    else return Text.Utf8.encode c.toString ++ (← unescape? 0 rest)
  | _ + 1, _ => none

/-- The piece of a tag that characters spell. -/
def piece? (cs : List Char) : Option (List UInt8) :=
  (unescape? 0 cs).map fun bytes => bytes.takeWhile (· != 0)

/-- The tag with this text. -/
def ofString (text : String) : Tag :=
  ⟨Text.Utf8.encode text⟩

/-- A tag of the namespace that every document knows. -/
def standard (name : String) : Tag :=
  ofString ("tag:yaml.org,2002:" ++ name)

/-- Whether a tag begins with an exclamation mark. -/
def isMarked (tag : Tag) : Bool :=
  tag.bytes.head? == some 0x21

/-- The text of a tag, if it is UTF-8. -/
def text? (tag : Tag) : Option String :=
  String.fromUTF8? ⟨tag.bytes.toArray⟩

/-- The name of a tag of the document's own, which is its text without the exclamation mark in front;
`none` for other tags. -/
def localName? (tag : Tag) : Option String :=
  if tag.isMarked then tag.text?.map fun text => unmarked text
  else none

end Tag

end TargetNet.Yaml
