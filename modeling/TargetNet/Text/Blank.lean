/-!
# White space

The characters with the Unicode property White_Space, and the two cuts made along them: `trim` takes
them off both ends of a text, and `words` splits a text into the runs between them. Texts are lists
of characters here; the versions on `String` only wrap them.
-/

namespace TargetNet.Text

/-- A character with the property White_Space. -/
def isBlank (c : Char) : Bool :=
  let n := c.toNat
  (9 ≤ n && n ≤ 13) || n == 0x20 || n == 0x85 || n == 0xA0 || n == 0x1680 ||
    (0x2000 ≤ n && n ≤ 0x200A) || n == 0x2028 || n == 0x2029 || n == 0x202F || n == 0x205F ||
    n == 0x3000

/-- Leading white space taken off. -/
def trimStart (cs : List Char) : List Char :=
  cs.dropWhile isBlank

/-- Trailing white space taken off. -/
def trimEnd (cs : List Char) : List Char :=
  (cs.reverse.dropWhile isBlank).reverse

/-- White space taken off both ends. -/
def trim (cs : List Char) : List Char :=
  trimEnd (trimStart cs)

/-- The runs of characters between white space, in order; none is empty. -/
def words (cs : List Char) : List (List Char) :=
  go cs []
where
  /-- Reads on with the word begun so far, kept in reverse. -/
  go : List Char → List Char → List (List Char)
    | [], [] => []
    | [], word => [word.reverse]
    | c :: rest, word =>
      if isBlank c then
        match word with
        | [] => go rest []
        | _ => word.reverse :: go rest []
      else go rest (c :: word)

/-- A string without the white space at its ends. -/
def trimString (s : String) : String :=
  String.ofList (trim s.toList)

/-- The words of a string. -/
def wordsOfString (s : String) : List String :=
  (words s.toList).map String.ofList

/-- Texts with a space between each two. -/
def spaced (texts : List String) : String :=
  String.intercalate " " texts

/-- A string with nothing but white space in it. -/
def allBlank (s : String) : Bool :=
  s.toList.all isBlank

@[simp] theorem trim_nil : trim [] = [] := rfl

end TargetNet.Text
