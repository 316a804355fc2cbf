import TargetNet.Yaml.Cursor
import TargetNet.Yaml.Scalar

/-!
# Spellings of scalars

A scalar can be written plain, between single quotes, between double quotes, or as a literal block.
`traits` finds out which of these a text allows, `preferred` says which one its meaning asks for, and
`spelling` takes the first that is possible: a quoted form where plain text would read back as
something else, double quotes for whatever cannot be seen.
-/

namespace TargetNet.Yaml

/-- The ways to write a scalar. -/
inductive Spelling where
  | plain
  | single
  | double
  | literal
  deriving DecidableEq, Repr

/-- A character that is written as it is. -/
def isPrintable (c : Char) : Bool :=
  let n := c.toNat
  n == 0x0A || (0x20 ≤ n && n ≤ 0x7E) || (0xA0 ≤ n && n ≤ 0xD7FF) ||
    (0xE000 ≤ n && n ≤ 0xFFFD && n != 0xFEFF) || 0x10000 ≤ n

/-- What a text allows. -/
structure Traits where
  /-- It spans several lines. -/
  isMultiline : Bool
  allowsPlain : Bool
  allowsSingle : Bool
  allowsBlock : Bool
  deriving DecidableEq, Repr

/-- The characters that begin something else than plain text. -/
def isIndicator (c : Char) : Bool :=
  "#,[]\x7b\x7d&*!|>'\"%@\x60".toList.contains c

/-- Whether a text begins a comment or an entry somewhere after its first character; `blankBefore`
tells whether a blank comes before the text. -/
def hasInnerIndicator (blankBefore : Bool) : List Char → Bool
  | [] => false
  | c :: rest =>
    (c == ':' && rest.head?.all fun x => isGap x || isBreak x) || (c == '#' && blankBefore) ||
      hasInnerIndicator (isGap c || isBreak c) rest

/-- Whether a text would be taken for something else than plain text. -/
def hasIndicator : List Char → Bool
  | [] => false
  | '-' :: '-' :: '-' :: _ => true
  | '.' :: '.' :: '.' :: _ => true
  | c :: rest =>
    isIndicator c ||
      ((c == '?' || c == ':' || c == '-') && rest.head?.all fun x => isGap x || isBreak x) ||
      hasInnerIndicator (isGap c || isBreak c) rest

/-- Whether a character of the first kind stands right before one of the second. -/
def hasPair (first second : Char → Bool) : List Char → Bool
  | a :: b :: rest => (first a && second b) || hasPair first second (b :: rest)
  | _ => false

/-- What a text allows. -/
def traits (cs : List Char) : Traits :=
  if cs.isEmpty then ⟨false, true, true, false⟩
  else
    let multiline := cs.any isBreak
    let ends := fun c : Char => c == ' ' || isBreak c
    let onlyDouble := cs.any (!isPrintable ·) || hasPair (· == ' ') isBreak cs
    let singleFits := !onlyDouble && !hasPair isBreak (· == ' ') cs
    { isMultiline := multiline
      allowsPlain := singleFits && !multiline && !hasIndicator cs && !cs.head?.any ends &&
        !cs.getLast?.any ends
      allowsSingle := singleFits
      allowsBlock := !onlyDouble && cs.getLast? != some ' ' }

/-- The spelling that the meaning of a text asks for: what plain text would read back as something
else than this text is quoted. -/
def preferred (text : String) : Spelling :=
  if text.toList.contains '\n' then .literal
  else
    match Scalar.resolve text with
    | some (.string _) => if Scalar.isZeroPadded text.toList then .single else .plain
    | _ => .single

/-- The spelling of a text as a key on one line (`simple`) or elsewhere, when `wanted` is asked for. -/
def Traits.spelling (t : Traits) (simple : Bool) (wanted : Spelling) : Spelling :=
  let quoted := if t.allowsSingle then Spelling.single else .double
  if simple && t.isMultiline then .double
  else
    match wanted with
    | .plain => if t.allowsPlain then .plain else quoted
    | .single => quoted
    | .double => .double
    | .literal => if t.allowsBlock && !simple then .literal else .double

/-- A digit of base sixteen in upper case. -/
def upperHexDigit (d : Nat) : Char :=
  if d < 10 then Char.ofNat (48 + d) else Char.ofNat (55 + d)

/-- The last `count` digits of a number to the base sixteen. -/
def upperHex (count n : Nat) : List Char :=
  match count with
  | 0 => []
  | count + 1 => upperHex count (n / 16) ++ [upperHexDigit (n % 16)]

/-- One character between double quotes. -/
def doubleQuotedChar (c : Char) : List Char :=
  if isPrintable c && !isBreak c && c != '"' && c != '\\' then [c]
  else
    let n := c.toNat
    if n == 0 then ['\\', '0']
    else if n == 0x07 then ['\\', 'a']
    else if n == 0x08 then ['\\', 'b']
    else if n == 0x09 then ['\\', 't']
    else if n == 0x0A then ['\\', 'n']
    else if n == 0x0B then ['\\', 'v']
    else if n == 0x0C then ['\\', 'f']
    else if n == 0x0D then ['\\', 'r']
    else if n == 0x1B then ['\\', 'e']
    else if n == 0x22 then ['\\', '"']
    else if n == 0x5C then ['\\', '\\']
    else if n == 0x85 then ['\\', 'N']
    else if n == 0x2028 then ['\\', 'L']
    else if n == 0x2029 then ['\\', 'P']
    else if n ≤ 0xFF then '\\' :: 'x' :: upperHex 2 n
    else if n ≤ 0xFFFF then '\\' :: 'u' :: upperHex 4 n
    else '\\' :: 'U' :: upperHex 8 n

/-- A text between double quotes. -/
def doubleQuoted (cs : List Char) : List Char :=
  '"' :: cs.flatMap doubleQuotedChar ++ ['"']

/-- What follows the bar of a literal block: the indentation if the text would hide it, and what
becomes of the line breaks at the end. -/
def literalHints (cs : List Char) : List Char :=
  let indentation := if cs.head?.any fun c => c == ' ' || isBreak c then ['2'] else []
  let chomping := match cs.reverse with
    | [] => ['-']
    | last :: before =>
      if !isBreak last then ['-']
      else
        match before.head? with
        | none => ['+']
        | some c => if isBreak c then ['+'] else []
  indentation ++ chomping

/-- A character that stands for itself in a written tag. -/
def isTagChar (c : Char) : Bool :=
  isWord c || ";/?:@&=+$,.~*'()[]".toList.contains c

/-- The text of a tag with all other characters as their bytes. -/
def tagText (cs : List Char) : List Char :=
  cs.flatMap fun c =>
    if isTagChar c then [c]
    else c.toString.toUTF8.toList.flatMap fun b => '%' :: upperHex 2 b.toNat

/-- The name of a tag without two exclamation marks in front. -/
def bareTag (name : String) : List Char :=
  match (unmarked name).toList with
  | '!' :: rest => rest
  | cs => cs

/-- A tag by its name: `!name`, or between angle brackets if nothing follows the exclamation mark. -/
def writtenTag (name : String) : List Char :=
  match bareTag name with
  | [] => "!<%21>".toList
  | cs => '!' :: tagText cs

/-- The bytes that a tag takes, with its exclamation mark. -/
def tagSize (name : String) : Nat :=
  (String.ofList (bareTag name)).utf8ByteSize + 1

end TargetNet.Yaml
